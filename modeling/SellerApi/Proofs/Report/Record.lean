import SellerApi.Proofs.Json.Record
import SellerApi.Report.Basic

/-! # Reports that are written and read

A report reads back as it was written if no unknown role of a column is a known one and the count of
matched rows has 64 bits (`Report.IsPlain`), and the reader hands out no other one. -/

namespace SellerApi

open SellerApi.Json SellerApi.Text

/-! ## Columns -/

/-- An unknown word is none of the known ones. -/
def Role.IsPlain (r : Role) : Prop :=
  ∀ w, r = .other w → w ∉ ["DIMENSION", "METRIC_TALLY", "METRIC_RATIO", "METRIC_CURRENCY"]

theorem Role.isPlain_ofWord (w : String) : (ofWord w).IsPlain := by
  intro u hu
  unfold ofWord at hu
  split at hu
  · contradiction
  split at hu
  · contradiction
  split at hu
  · contradiction
  split at hu
  · contradiction
  next hdimension htally hratio hcurrency =>
  cases hu
  simp [hdimension, htally, hratio, hcurrency]

theorem Role.ofWord_word {r : Role} (h : r.IsPlain) : ofWord r.word = r := by
  cases r with
  | other w =>
    have hw := h w rfl
    simp only [List.mem_cons, List.not_mem_nil, or_false, not_or] at hw
    rw [word, ofWord, if_neg hw.1, if_neg hw.2.1, if_neg hw.2.2.1, if_neg hw.2.2.2]
  | _ => rfl

theorem Role.inverse : Inverse ofNode? toValue IsPlain :=
  inverse_word ofWord_word isPlain_ofWord

/-- The role is no known word in disguise. -/
def Column.IsPlain (c : Column) : Prop := c.role.IsPlain

theorem Column.inverse : Inverse ofNode? toValue IsPlain where
  whole {c} h := by
    refine isWhole_recordOf ?_
    simp [slotWhole_present inverse_text, slotWhole_present Role.inverse (x := c.role) _ h,
      slotWhole_whenSome inverse_text]
  ne_null _ := recordOf_ne_null _
  read_write {c} h := by
    rw [ofNode?, toValue, fields?_recordOf (by simp) (by decide)]
    simp [orElse_written inverse_text, orElse_written Role.inverse (x := c.role) h,
      optional_map inverse_text]
  valid_of_read {n c} h := by
    simp only [ofNode?, Option.bind_eq_bind, Option.bind_eq_some_iff] at h
    obtain ⟨fields, -, h⟩ := h
    split at h
    · simp only [Option.bind_eq_some_iff, Option.pure_def, Option.some.injEq] at h
      obtain ⟨_, -, role, hrole, _, -, rfl⟩ := h
      exact valid_of_orElse Role.inverse (fun w hw => by cases hw; decide) hrole
    · contradiction

/-! ## Reports -/

/-- A count reads back from the text that it is written as. -/
theorem countOfNode?_intText {count : Option Int} (h : ∀ n ∈ count, isInt64 n = true) :
    countOfNode? (count.map fun n => (Value.text (intText n)).node) = some count := by
  cases count with
  | none => rfl
  | some n =>
    have hne : (intText n).toList.isEmpty = false :=
      List.isEmpty_eq_false_iff.2 (intText_ne_nil n)
    simp only [Option.map_some, Value.node, countOfNode?, trimChars_intText, hne,
      readInt64?_intText (h n rfl)]
    rfl

theorem isInt64_of_countOfNode? {o : Option Node} {count : Option Int}
    (h : countOfNode? o = some count) : ∀ n ∈ count, isInt64 n = true := by
  intro n hn
  obtain rfl : count = some n := hn
  unfold countOfNode? at h
  split at h
  · cases h
  · cases h
  · split at h
    · split at h
      · next hi => cases h; exact hi
      · contradiction
    · contradiction
  · dsimp only at h
    split at h
    · cases h
    · obtain ⟨m, hm, hmn⟩ := Option.map_eq_some_iff.1 h
      cases hmn
      exact (Option.filter_eq_some_iff.1 hm).2
  · contradiction

/-- No role is a known word in disguise, and the count of matched rows has 64 bits. -/
structure Report.IsPlain (r : Report) : Prop where
  columns : ∀ c ∈ r.columns, c.IsPlain
  matchedRows : ∀ n ∈ r.matchedRows, isInt64 n = true

theorem inverse_cells :
    Inverse (Node.list? Node.text?) Report.textsValue fun cells => ∀ x ∈ cells, True :=
  inverse_list inverse_text

theorem Report.inverse : Inverse ofNode? toValue IsPlain where
  whole {r} h := by
    refine isWhole_recordOf ?_
    have hcount : SlotWhole
        (whenSome "totalMatchedRows" (fun n => .text (intText n)) r.matchedRows) := by
      intro m hm
      obtain ⟨n, -, rfl⟩ := Option.map_eq_some_iff.1 hm
      exact .text _
    simp [slotWhole_whenSome inverse_text, slotWhole_whenAny inverse_text,
      slotWhole_whenAny Column.inverse _ r.columns h.columns,
      slotWhole_whenAny inverse_cells, hcount]
  ne_null _ := recordOf_ne_null _
  read_write {r} h := by
    rw [ofNode?, toValue, fields?_recordOf (by simp) (by decide)]
    simp [optional_map inverse_text, orElse_list inverse_text,
      orElse_list Column.inverse r.columns h.columns, orElse_list inverse_cells,
      countOfNode?_intText h.matchedRows]
  valid_of_read {n r} h := by
    simp only [ofNode?, Option.bind_eq_bind, Option.bind_eq_some_iff] at h
    obtain ⟨fields, -, h⟩ := h
    split at h
    · simp only [Option.bind_eq_some_iff, Option.pure_def, Option.some.injEq] at h
      obtain ⟨_, -, columns, hcolumns, _, -, _, -, _, -, count, hcount, _, -, rfl⟩ := h
      exact ⟨valid_of_orElse (inverse_list Column.inverse) (List.forall_mem_nil _) hcolumns,
        isInt64_of_countOfNode? hcount⟩
    · contradiction

end SellerApi
