import SellerApi.Proofs.Json.Record
import SellerApi.Resource.Page

/-! # Resources that are written and read

Every resource and every page of resources reads back as it was written. An ad unit does if its
activity is no unknown word that is a known one (`Activity.IsPlain`), and no reader hands out
another one. -/

namespace SellerApi.Resource

open SellerApi.Json

/-! ## Resources without open words -/

theorem AdClient.inverse : Inverse ofNode? toValue fun _ => True where
  whole {c} _ := by
    refine isWhole_recordOf ?_
    simp [slotWhole_whenSome inverse_text, slotWhole_whenSome inverse_bool]
  ne_null _ := recordOf_ne_null _
  read_write {c} _ := by
    rw [ofNode?, toValue, fields?_recordOf (by simp) (by decide)]
    simp [optional_map inverse_text, optional_map inverse_bool]
  valid_of_read _ := trivial

theorem Targeting.inverse : Inverse ofNode? toValue fun _ => True where
  whole {t} _ := by
    refine isWhole_recordOf ?_
    simp [slotWhole_whenSome inverse_text]
  ne_null _ := recordOf_ne_null _
  read_write {t} _ := by
    rw [ofNode?, toValue, fields?_recordOf (by simp) (by decide)]
    simp [optional_map inverse_text]
  valid_of_read _ := trivial

theorem CustomChannel.inverse : Inverse ofNode? toValue fun _ => True where
  whole {c} _ := by
    refine isWhole_recordOf ?_
    simp [slotWhole_whenSome inverse_text, slotWhole_whenSome Targeting.inverse]
  ne_null _ := recordOf_ne_null _
  read_write {c} _ := by
    rw [ofNode?, toValue, fields?_recordOf (by simp) (by decide)]
    simp [optional_map inverse_text, optional_map Targeting.inverse]
  valid_of_read _ := trivial

theorem UrlChannel.inverse : Inverse ofNode? toValue fun _ => True where
  whole {c} _ := by
    refine isWhole_recordOf ?_
    simp [slotWhole_whenSome inverse_text]
  ne_null _ := recordOf_ne_null _
  read_write {c} _ := by
    rw [ofNode?, toValue, fields?_recordOf (by simp) (by decide)]
    simp [optional_map inverse_text]
  valid_of_read _ := trivial

theorem SavedReport.inverse : Inverse ofNode? toValue fun _ => True where
  whole {r} _ := by
    refine isWhole_recordOf ?_
    simp [slotWhole_whenSome inverse_text]
  ne_null _ := recordOf_ne_null _
  read_write {r} _ := by
    rw [ofNode?, toValue, fields?_recordOf (by simp) (by decide)]
    simp [optional_map inverse_text]
  valid_of_read _ := trivial

/-! ## Ad units -/

/-- An unknown word is none of the known ones. -/
def Activity.IsPlain (a : Activity) : Prop :=
  ∀ w, a = .other w → w ∉ ["NEW", "ACTIVE", "INACTIVE"]

theorem Activity.isPlain_ofWord (w : String) : (ofWord w).IsPlain := by
  intro u hu
  unfold ofWord at hu
  split at hu
  · contradiction
  split at hu
  · contradiction
  split at hu
  · contradiction
  next hnew hactive hinactive =>
  cases hu
  simp [hnew, hactive, hinactive]

theorem Activity.ofWord_word {a : Activity} (h : a.IsPlain) : ofWord a.word = a := by
  cases a with
  | other w =>
    have hw := h w rfl
    simp only [List.mem_cons, List.not_mem_nil, or_false, not_or] at hw
    rw [word, ofWord, if_neg hw.1, if_neg hw.2.1, if_neg hw.2.2]
  | _ => rfl

theorem Activity.inverse : Inverse ofNode? toValue IsPlain :=
  inverse_word ofWord_word isPlain_ofWord

/-- The activity, if there is one, is no known word in disguise. -/
def AdUnit.IsPlain (u : AdUnit) : Prop := ∀ a ∈ u.status, a.IsPlain

theorem AdUnit.inverse : Inverse ofNode? toValue IsPlain where
  whole {u} h := by
    refine isWhole_recordOf ?_
    simp [slotWhole_whenSome inverse_text, slotWhole_whenSome Activity.inverse (x := u.status) _ h]
  ne_null _ := recordOf_ne_null _
  read_write {u} h := by
    rw [ofNode?, toValue, fields?_recordOf (by simp) (by decide)]
    simp [optional_map inverse_text, optional_map Activity.inverse (x := u.status) h]
  valid_of_read {n u} h := by
    simp only [ofNode?, Option.bind_eq_bind, Option.bind_eq_some_iff] at h
    obtain ⟨fields, -, h⟩ := h
    split at h
    · simp only [Option.bind_eq_some_iff, Option.pure_def, Option.some.injEq] at h
      obtain ⟨_, -, _, -, _, -, _, -, status, hstatus, rfl⟩ := h
      exact valid_of_optional Activity.inverse hstatus
    · contradiction

/-! ## Pages -/

/-- All items of a page are valid. -/
def Page.All {α : Type} (valid : α → Prop) (p : Page α) : Prop := ∀ x ∈ p.items, valid x

theorem Page.inverse {α : Type} [Wire α] {valid : α → Prop}
    (h : Inverse (Wire.ofNode? (α := α)) Wire.toValue valid) :
    Inverse (Page.ofNode? (α := α)) toValue (All valid) where
  whole {p} hp := by
    refine isWhole_recordOf ?_
    simp [slotWhole_whenSome inverse_text, slotWhole_whenAny h _ p.items hp]
  ne_null _ := recordOf_ne_null _
  read_write {p} hp := by
    rw [ofNode?, toValue, fields?_recordOf (by simp) (by decide)]
    simp [optional_map inverse_text, orElse_list h p.items hp]
  valid_of_read {n p} hp := by
    simp only [ofNode?, Option.bind_eq_bind, Option.bind_eq_some_iff] at hp
    obtain ⟨fields, -, hp⟩ := hp
    split at hp
    · simp only [Option.bind_eq_some_iff, Option.pure_def, Option.some.injEq] at hp
      obtain ⟨_, -, _, -, items, hitems, _, -, rfl⟩ := hp
      exact valid_of_orElse (inverse_list h) (List.forall_mem_nil _) hitems
    · contradiction

end SellerApi.Resource
