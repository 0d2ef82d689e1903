import SellerApi.Http.Refusal
import SellerApi.Proofs.Json.Record

/-! # Explanations that are written and read

An explanation reads back as it was written if its code has sixteen bits, and the reader hands out
no other one. -/

namespace SellerApi.Http

open SellerApi.Json

theorem Complaint.inverse : Inverse ofNode? toValue fun _ => True where
  whole {c} _ := by
    refine isWhole_recordOf ?_
    simp [slotWhole_present inverse_text, slotWhole_whenSome inverse_text]
  ne_null _ := recordOf_ne_null _
  read_write {c} _ := by
    rw [ofNode?, toValue, fields?_recordOf (by simp) (by decide)]
    simp [orElse_written inverse_text, optional_map inverse_text]
  valid_of_read _ := trivial

/-- The code has sixteen bits. -/
def Explanation.IsPlain (e : Explanation) : Prop := e.code < 0x1_0000

theorem inverse_code : Inverse (Node.below? 0x1_0000) Json.ofNat (· < 0x1_0000) :=
  inverse_below (by decide)

theorem Explanation.inverse : Inverse ofNode? toValue IsPlain where
  whole {e} h := by
    refine isWhole_recordOf ?_
    simp [slotWhole_present inverse_text, slotWhole_present inverse_code (x := e.code) _ h,
      slotWhole_present (inverse_list Complaint.inverse)]
  ne_null _ := recordOf_ne_null _
  read_write {e} h := by
    rw [ofNode?, toValue, fields?_recordOf (by simp) (by decide)]
    simp [orElse_written inverse_text, orElse_written inverse_code (x := e.code) h,
      orElse_written (inverse_list Complaint.inverse)]
  valid_of_read {n e} h := by
    simp only [ofNode?, Option.bind_eq_bind, Option.bind_eq_some_iff] at h
    obtain ⟨fields, -, h⟩ := h
    split at h
    · simp only [Option.bind_eq_some_iff, Option.pure_def, Option.some.injEq] at h
      obtain ⟨code, hcode, _, -, _, -, rfl⟩ := h
      exact valid_of_orElse inverse_code (by decide) hcode
    · contradiction

end SellerApi.Http
