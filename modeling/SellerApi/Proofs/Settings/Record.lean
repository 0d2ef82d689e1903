import SellerApi.Proofs.Json.Record
import SellerApi.Settings.Basic

/-! # Settings that are written and read

Settings read back as they were written if their counts have the width of their fields
(`Settings.IsPlain`), and the reader hands out no others. -/

namespace SellerApi

open SellerApi.Json SellerApi.Text

theorem inverse_count32 : Inverse (Node.below? bound32) Json.ofNat (· < bound32) :=
  inverse_below (by decide)

theorem inverse_count64 : Inverse (Node.below? bound64) Json.ofNat (· < bound64) :=
  inverse_below (Nat.le_refl _)

/-- Both counts have 32 bits. -/
structure Pacing.IsPlain (p : Pacing) : Prop where
  perSecond : p.perSecond < bound32
  burst : p.burst < bound32

theorem Pacing.isPlain_default : ({} : Pacing).IsPlain := ⟨by decide, by decide⟩

theorem Pacing.inverse : Inverse ofNode? toValue IsPlain where
  whole {p} h := by
    refine isWhole_recordOf ?_
    simp [slotWhole_present inverse_count32 (x := p.perSecond) _ h.perSecond,
      slotWhole_present inverse_count32 (x := p.burst) _ h.burst]
  ne_null _ := recordOf_ne_null _
  read_write {p} h := by
    rw [ofNode?, toValue, fields?_recordOf (by simp) (by decide)]
    simp [required, inverse_count32.read_write h.perSecond, inverse_count32.read_write h.burst]
  valid_of_read {n p} h := by
    simp only [ofNode?, Option.bind_eq_bind, Option.bind_eq_some_iff] at h
    obtain ⟨fields, -, h⟩ := h
    split at h
    · next perSecond burst =>
      simp only [Option.bind_eq_some_iff, Option.pure_def, Option.some.injEq] at h
      obtain ⟨x, hx, y, hy, rfl⟩ := h
      cases perSecond with
      | none => contradiction
      | some m =>
        cases burst with
        | none => contradiction
        | some n =>
          exact ⟨inverse_count32.valid_of_read (n := m) hx,
            inverse_count32.valid_of_read (n := n) hy⟩
    · contradiction

theorem Scope.inverse : Inverse ofNode? (fun s => .text s.word) fun _ => True where
  whole _ := .text _
  ne_null _ := by simp [Value.node]
  read_write {s} _ := by cases s <;> rfl
  valid_of_read _ := trivial

theorem Secrets.inverse : Inverse ofNode? toValue fun _ => True where
  whole {s} _ := by
    refine isWhole_recordOf ?_
    simp [slotWhole_orNull inverse_text, slotWhole_present Scope.inverse (x := s.scope)]
  ne_null _ := recordOf_ne_null _
  read_write {s} _ := by
    rw [ofNode?, toValue, fields?_recordOf (by simp) (by decide)]
    simp [optional_orNull inverse_text, orElse_written Scope.inverse (x := s.scope)]
  valid_of_read _ := trivial

/-- Every count has the width of its field. -/
structure Settings.IsPlain (s : Settings) : Prop where
  timeout : s.timeoutSeconds < bound64
  pacing : ∀ p ∈ s.pacing, p.IsPlain
  pageSize : ∀ n ∈ s.pageSize, n < bound32

theorem Settings.inverse : Inverse ofNode? toValue IsPlain where
  whole {s} h := by
    refine isWhole_recordOf ?_
    simp [slotWhole_present inverse_text, slotWhole_orNull inverse_text,
      slotWhole_present inverse_count64 (x := s.timeoutSeconds) _ h.timeout,
      slotWhole_orNull Pacing.inverse (x := s.pacing) _ h.pacing,
      slotWhole_present Secrets.inverse (x := s.secrets),
      slotWhole_orNull inverse_count32 (x := s.pageSize) _ h.pageSize]
  ne_null _ := recordOf_ne_null _
  read_write {s} h := by
    rw [ofNode?, toValue, fields?_recordOf (by simp) (by decide)]
    simp [orElse_written inverse_text, optional_orNull inverse_text,
      orElse_written inverse_count64 (x := s.timeoutSeconds) h.timeout,
      optional_orNull Pacing.inverse (x := s.pacing) h.pacing,
      orElse_written Secrets.inverse (x := s.secrets),
      optional_orNull inverse_count32 (x := s.pageSize) h.pageSize]
  valid_of_read {n s} h := by
    simp only [ofNode?, Option.bind_eq_bind, Option.bind_eq_some_iff] at h
    obtain ⟨fields, -, h⟩ := h
    split at h
    · simp only [Option.bind_eq_some_iff] at h
      obtain ⟨_, -, _, -, timeout, htimeout, h⟩ := h
      have htimeout := valid_of_orElse inverse_count64 (by decide) htimeout
      -- without a field for the pacing the default one counts
      split at h
      · simp only [Option.bind_eq_some_iff, Option.pure_def, Option.some.injEq] at h
        obtain ⟨_, rfl, _, -, pageSize, hpageSize, _, -, rfl⟩ := h
        refine ⟨htimeout, fun p hp => ?_, valid_of_optional inverse_count32 hpageSize⟩
        obtain rfl := Option.some.inj hp
        exact Pacing.isPlain_default
      · simp only [Option.bind_eq_some_iff, Option.pure_def, Option.some.injEq] at h
        obtain ⟨pacing, hpacing, _, -, pageSize, hpageSize, _, -, rfl⟩ := h
        exact ⟨htimeout, valid_of_optional Pacing.inverse hpacing,
          valid_of_optional inverse_count32 hpageSize⟩
    · contradiction

end SellerApi
