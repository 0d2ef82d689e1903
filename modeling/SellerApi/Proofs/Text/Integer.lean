import SellerApi.Text.Blank
import SellerApi.Text.Integer

/-! # Reading whole numbers that were written

The decimal text of a number consists of digits (`isAsciiDigit_of_mem_natText`), has no needless
zero in front and stands for the number (`digitsValue_natText`); no other text is like that
(`natText_digitsValue`). So `readInt64?` undoes `intText` where the number fits, and there is
nothing to trim. -/

namespace SellerApi.Text

theorem natText_ne_nil (n : Nat) : (natText n).toList ≠ [] := by
  rw [natText, Nat.toList_repr]
  exact Nat.toDigits_ne_nil

theorem isAsciiDigit_of_mem_natText {n : Nat} {c : Char} (h : c ∈ (natText n).toList) :
    isAsciiDigit c = true := by
  rw [natText, Nat.toList_repr] at h
  have hdigit := Nat.isDigit_of_mem_toDigits (by omega) (Nat.le_refl 10) h
  simp only [Char.isDigit, Bool.and_eq_true, decide_eq_true_eq, ge_iff_le,
    UInt32.le_iff_toNat_le] at hdigit
  simp only [isAsciiDigit, Bool.and_eq_true, decide_eq_true_eq]
  exact hdigit

theorem all_isAsciiDigit_natText (n : Nat) : (natText n).toList.all isAsciiDigit = true :=
  List.all_eq_true.2 fun _ => isAsciiDigit_of_mem_natText

theorem digitsValueFrom_eq (n : Nat) (cs : List Char) :
    digitsValueFrom n cs = Nat.ofDigitChars 10 cs n := by
  induction cs generalizing n with
  | nil => rfl
  | cons c cs ih => exact ih _

/-- The digits of a number stand for it. -/
theorem digitsValue_natText (n : Nat) : digitsValue (natText n).toList = n := by
  rw [digitsValue, digitsValueFrom_eq, natText, Nat.toList_repr]
  exact Nat.ofDigitChars_toDigits (by omega) (Nat.le_refl 10)

/-- Only zero starts with a zero. -/
theorem head?_natText_ne {n : Nat} (h : n ≠ 0) : (natText n).toList.head? ≠ some '0' := by
  rw [natText, Nat.toList_repr]
  induction n using Nat.strongRecOn with
  | ind n ih =>
    by_cases hn : n < 10
    · rw [Nat.toDigits_of_lt_base hn, List.head?_cons, Ne, Option.some.injEq]
      intro hc
      have hval := Nat.toNat_digitChar_of_lt_ten hn
      rw [hc] at hval
      simp at hval
      omega
    · have hfront := ih (n / 10) (by omega) (by omega)
      rw [Nat.toDigits_of_base_le (by omega) (by omega), List.head?_append]
      cases hcs : Nat.toDigits 10 (n / 10) with
      | nil => exact absurd hcs Nat.toDigits_ne_nil
      | cons c cs => simpa [hcs] using hfront

theorem natText_zero : (natText 0).toList = ['0'] := by
  rw [natText, Nat.toList_repr, Nat.toDigits_zero]

theorem digitsValue_concat (ds : List Char) (c : Char) :
    digitsValue (ds ++ [c]) = 10 * digitsValue ds + digitValue c := by
  simp only [digitsValue, digitsValueFrom_eq, Nat.ofDigitChars_append]
  rfl

theorem digitChar_digitValue {c : Char} (h : isAsciiDigit c = true) :
    digitValue c < 10 ∧ Nat.digitChar (digitValue c) = c := by
  simp only [isAsciiDigit, Bool.and_eq_true, decide_eq_true_eq] at h
  have hdigits : ∀ n < 10, Nat.digitChar n = Char.ofNat (48 + n) := by decide
  have hlt : digitValue c < 10 := by
    unfold digitValue
    omega
  refine ⟨hlt, ?_⟩
  rw [hdigits _ hlt, digitValue, Nat.add_sub_cancel' h.1, Char.ofNat_toNat]

/-- Digits without a needless zero in front are the text of the number that they stand for. -/
theorem natText_digitsValue {ds : List Char} (hne : ds ≠ [])
    (hds : ∀ c ∈ ds, isAsciiDigit c = true) (hlead : ds.head? = some '0' → ds.length = 1) :
    (natText (digitsValue ds)).toList = ds := by
  induction hlength : ds.length generalizing ds with
  | zero => exact absurd (List.length_eq_zero_iff.1 hlength) hne
  | succ n ih =>
    obtain rfl | ⟨front, c, rfl⟩ := List.eq_nil_or_concat ds
    · nomatch hlength
    rw [List.concat_eq_append] at hds hlead hlength ⊢
    obtain ⟨hlt, hchar⟩ := digitChar_digitValue (hds c (by simp))
    rw [digitsValue_concat]
    by_cases hfront : front = []
    · subst hfront
      have hnone : digitsValue [] = 0 := rfl
      rw [hnone, Nat.mul_zero, Nat.zero_add, natText, Nat.toList_repr,
        Nat.toDigits_of_lt_base hlt, hchar, List.nil_append]
    · obtain ⟨d, ds, rfl⟩ := List.exists_cons_of_ne_nil hfront
      have hzero : d ≠ '0' := by
        rintro rfl
        have := hlead rfl
        simp at this
      have hfronts : (natText (digitsValue (d :: ds))).toList = d :: ds :=
        ih (List.cons_ne_nil _ _) (fun x hx => hds x (List.mem_append_left _ hx)) (by simp [hzero])
          (by simpa using hlength)
      have hpos : digitsValue (d :: ds) ≠ 0 := by
        intro hvalue
        rw [hvalue, natText_zero] at hfronts
        exact hzero (List.cons.inj hfronts).1.symm
      rw [natText, Nat.toList_repr] at hfronts ⊢
      rw [Nat.toDigits_of_base_le (by decide) (by omega), Nat.mul_add_div (by decide),
        Nat.div_eq_of_lt hlt, Nat.add_zero, hfronts, Nat.mul_add_mod, Nat.mod_eq_of_lt hlt, hchar]

theorem readNat?_natText (n : Nat) : readNat? (natText n).toList = some n := by
  rw [readNat?, if_pos ⟨natText_ne_nil n, all_isAsciiDigit_natText n⟩, digitsValue_natText]

/-- A number below a bound is one or more digits, maybe behind a plus sign. -/
theorem readBelow?_eq_some_iff {bound n : Nat} {cs : List Char} :
    readBelow? bound cs = some n ↔ ∃ ds, (cs = ds ∨ cs = '+' :: ds) ∧ ds ≠ [] ∧
      (∀ d ∈ ds, isAsciiDigit d = true) ∧ digitsValue ds = n ∧ n < bound := by
  have hread : ∀ ds, readNat? ds = some n ↔
      ds ≠ [] ∧ (∀ d ∈ ds, isAsciiDigit d = true) ∧ digitsValue ds = n := by
    intro ds
    rw [readNat?, Option.ite_none_right_eq_some, List.all_eq_true, Option.some.injEq, and_assoc]
  rw [readBelow?, Option.filter_eq_some_iff, decide_eq_true_eq]
  unfold readPositive?
  split
  · next ds =>
    rw [hread]
    constructor
    · rintro ⟨⟨hne, hds, hn⟩, hlt⟩
      exact ⟨ds, .inr rfl, hne, hds, hn, hlt⟩
    · rintro ⟨ds', rfl | h, hne, hds, hn, hlt⟩
      -- a plus sign is no digit
      · exact absurd (hds '+' List.mem_cons_self) (by decide)
      · cases h
        exact ⟨⟨hne, hds, hn⟩, hlt⟩
  · next hplus =>
    rw [hread]
    constructor
    · rintro ⟨⟨hne, hds, hn⟩, hlt⟩
      exact ⟨cs, .inl rfl, hne, hds, hn, hlt⟩
    · rintro ⟨ds, rfl | h, hne, hds, hn, hlt⟩
      · exact ⟨⟨hne, hds, hn⟩, hlt⟩
      · exact absurd h (hplus ds)

theorem readSigned?_of_digit {c : Char} {cs : List Char} (h : isAsciiDigit c = true) :
    readSigned? (c :: cs) = (readNat? (c :: cs)).map fun n => (n : Int) := by
  have hminus : c ≠ '-' := by rintro rfl; revert h; decide
  have hplus : c ≠ '+' := by rintro rfl; revert h; decide
  rw [readSigned?, readPositive?] <;> simp_all

theorem readSigned?_intText (n : Int) : readSigned? (intText n).toList = some n := by
  cases n with
  | ofNat n =>
    have hread := readNat?_natText n
    rw [intText]
    cases hcs : (natText n).toList with
    | nil => exact absurd hcs (natText_ne_nil n)
    | cons c cs =>
      have hc : isAsciiDigit c = true := isAsciiDigit_of_mem_natText (n := n) (by simp [hcs])
      rw [readSigned?_of_digit hc, ← hcs, hread]
      rfl
  | negSucc n =>
    rw [intText, String.toList_append]
    have hread := readNat?_natText (n + 1)
    show ((readNat? (natText (n + 1)).toList).map fun n => -(n : Int)) = _
    rw [hread]
    rfl

/-- An integer of 64 bits reads back. -/
theorem readInt64?_intText {n : Int} (h : isInt64 n = true) :
    readInt64? (intText n).toList = some n := by
  rw [readInt64?, readSigned?_intText, Option.filter_some, if_pos h]

theorem not_isBlank_of_isAsciiDigit {c : Char} (h : isAsciiDigit c = true) :
    isBlank c = false := by
  simp only [isAsciiDigit, Bool.and_eq_true, decide_eq_true_eq] at h
  simp only [isBlank, Bool.or_eq_false_iff, Bool.and_eq_false_iff, beq_eq_false_iff_ne,
    decide_eq_false_iff_not]
  omega

/-- A text without blanks is left alone. -/
theorem trimChars_of_not_blank {cs : List Char} (h : ∀ c ∈ cs, isBlank c = false) :
    trimChars cs = cs := by
  have hkeep : ∀ ds : List Char, (∀ c ∈ ds, isBlank c = false) → ds.dropWhile isBlank = ds := by
    intro ds hds
    cases ds with
    | nil => rfl
    | cons d ds => rw [List.dropWhile_cons, if_neg (by simp [hds d])]
  rw [trimChars, hkeep cs h, trimEndChars, hkeep cs.reverse (by simpa using h),
    List.reverse_reverse]

theorem trimChars_intText (n : Int) : trimChars (intText n).toList = (intText n).toList := by
  refine trimChars_of_not_blank fun c hc => ?_
  have hdigit : ∀ m, c ∈ (natText m).toList → isBlank c = false := fun m h =>
    not_isBlank_of_isAsciiDigit (isAsciiDigit_of_mem_natText h)
  cases n with
  | ofNat n => exact hdigit n hc
  | negSucc n =>
    rw [intText, String.toList_append, List.mem_append] at hc
    rcases hc with hc | hc
    · obtain rfl : c = '-' := by simpa using hc
      decide
    · exact hdigit _ hc

theorem intText_ne_nil (n : Int) : (intText n).toList ≠ [] := by
  cases n with
  | ofNat n => exact natText_ne_nil n
  | negSucc n => simp [intText]

end SellerApi.Text
