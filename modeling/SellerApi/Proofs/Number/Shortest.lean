import Mathlib.Data.List.DropRight
import SellerApi.Proofs.Number.Nearest
import SellerApi.Proofs.Text.Integer

/-! # Shortest digits read back

The search for the shortest digits of a positive double always ends on a grid: the eighteenth is
finer than the double's reach (`isSome_onGrid?`), because the first one is not above the double
(`pow_decimalExponent_le`). So the digits that are found do not start with a zero, and the double
attracts the decimal that they make (`shortest_spec`). -/

namespace SellerApi.Number

open Binary64 SellerApi.Text

/-! ## The exponent of the first digit -/

/-- The power of ten that is taken for a power of two. -/
def tenPower (k : ℤ) : ℤ := (k * 30103).fdiv 100000

/-- The estimate is not above the power of two, for all powers between the least and the greatest
that a quotient of the format has. -/
theorem tenPower_le : ∀ i : Nat, i < 2104 →
    10 ^ (tenPower (i - 1078)).toNat * 2 ^ (1078 - i) ≤
      2 ^ (i - 1078) * 10 ^ (-tenPower (i - 1078)).toNat := by
  decide +kernel

theorem zpow_tenPower_le {k : ℤ} (hlow : -1078 ≤ k) (hhigh : k < 1026) :
    (10 : ℚ) ^ tenPower k ≤ 2 ^ k := by
  have h := tenPower_le (k + 1078).toNat (by omega)
  rw [show (((k + 1078).toNat : ℤ) - 1078) = k by omega,
    show 1078 - (k + 1078).toNat = (-k).toNat by omega,
    show (k + 1078).toNat - 1078 = k.toNat by omega] at h
  rw [← pow_toNat_div (by norm_num) (tenPower k), ← pow_toNat_div two_ne_zero k,
    div_le_div_iff₀ (by positivity) (by positivity)]
  exact_mod_cast h

/-- The power of ten at the first digit is not above the quotient. -/
theorem pow_decimalExponent_le {num den : Nat} (hnum : num ≠ 0) (hden : den ≠ 0)
    (hlow : den.log2 ≤ num.log2 + 1077) (hhigh : num.log2 < den.log2 + 1027) :
    (10 : ℚ) ^ decimalExponent num den ≤ num / den := by
  have hpos := Nat.pos_of_ne_zero hden
  have hreaches : ∀ k : ℤ, den * Nat.pow 10 k.toNat ≤ num * Nat.pow 10 (-k).toNat →
      (10 : ℚ) ^ k ≤ num / den := by
    intro k hk
    have := (mul_shifted_le_iff (by decide : 0 < 10) hpos k 1).1 (by simpa using hk)
    simpa using this
  have hguess : (10 : ℚ) ^ tenPower ((num.log2 : ℤ) - den.log2 - 1) ≤ num / den :=
    (zpow_tenPower_le (by omega) (by omega)).trans (zpow_log2_lt_div hnum hden).le
  unfold decimalExponent
  simp only [decide_eq_true_eq]
  split
  · next h => exact hreaches _ h
  split
  · next h => exact hreaches _ h
  · exact hguess

/-! ## Grids -/

section

variable {exponent fraction : Nat}

/-- What the basin says of a point of a grid. -/
theorem has_grid_iff (hs : significand exponent fraction ≠ 0) (k : ℤ) (q : Nat) :
    (Basin.of exponent fraction).has (q * 10 ^ k.toNat) (10 ^ (-k).toNat) = true ↔
      Attracts exponent fraction (q * 10 ^ k) := by
  rw [Basin.has_of_iff hs (by positivity), ← pow_toNat_div (by norm_num : (10 : ℚ) ≠ 0) k]
  push_cast
  rw [mul_div_assoc]

/-- A decimal that is found on a grid is one that the double attracts. -/
theorem attracts_of_onGrid? (hs : significand exponent fraction ≠ 0) {k : ℤ} {q : Nat}
    (h : (Basin.of exponent fraction).onGrid? k = some q) :
    q ≠ 0 ∧ Attracts exponent fraction (q * 10 ^ k) := by
  rw [← has_grid_iff hs]
  simp only [Basin.onGrid?, Nat.pow_eq] at h
  split at h
  · next hbelow habove =>
    rw [Bool.and_eq_true, decide_eq_true_eq] at hbelow
    obtain ⟨hpos, hbelow⟩ := hbelow
    -- the nearer one of the two
    generalize (Basin.of exponent fraction).value * 10 ^ (-k).toNat /
      ((Basin.of exponent fraction).den * 10 ^ k.toNat) = floor at h hpos hbelow habove
    obtain rfl | rfl : q = floor ∨ q = floor + 1 := by
      split at h
      · exact .inl (Option.some.inj h).symm
      · split at h
        · exact .inr (Option.some.inj h).symm
        · have := Option.some.inj h
          omega
    · exact ⟨hpos.ne', hbelow⟩
    · exact ⟨by omega, habove⟩
  · next hbelow _ =>
    obtain rfl := Option.some.inj h
    rw [Bool.and_eq_true, decide_eq_true_eq] at hbelow
    exact ⟨hbelow.1.ne', hbelow.2⟩
  · next habove =>
    obtain rfl := Option.some.inj h
    exact ⟨Nat.succ_ne_zero _, habove⟩
  · contradiction

theorem Basin.value_div_den : ((Basin.of exponent fraction).value : ℚ) /
    (Basin.of exponent fraction).den = magnitude exponent fraction := by
  rw [← ratio_eq]
  simp only [Basin.of]
  push_cast
  exact mul_div_mul_left _ _ (by norm_num)

theorem Basin.den_pos (exponent fraction : Nat) : 0 < (Basin.of exponent fraction).den := by
  simp only [Basin.of, ratio, Nat.pow_eq]
  positivity

/-- What a point of a grid is compared with. -/
theorem Basin.mul_le_value_iff (k : ℤ) (m : Nat) :
    m * ((Basin.of exponent fraction).den * 10 ^ k.toNat) ≤
      (Basin.of exponent fraction).value * 10 ^ (-k).toNat ↔
        (m : ℚ) * 10 ^ k ≤ magnitude exponent fraction := by
  rw [mul_shifted_le_iff (by decide) (den_pos exponent fraction), value_div_den, Nat.cast_ofNat]

/-- The next point above the double is found on a grid that is finer than the double's reach. -/
theorem isSome_onGrid? (hs : significand exponent fraction ≠ 0) {k : ℤ}
    (hfine : (10 : ℚ) ^ k < 1 / 2 * 2 ^ scale exponent) :
    ((Basin.of exponent fraction).onGrid? k).isSome = true := by
  have hstep : 0 < (Basin.of exponent fraction).den * 10 ^ k.toNat :=
    Nat.mul_pos (Basin.den_pos exponent fraction) (by positivity)
  obtain ⟨floor, hfloor⟩ : ∃ floor : Nat,
      (Basin.of exponent fraction).value * 10 ^ (-k).toNat /
        ((Basin.of exponent fraction).den * 10 ^ k.toNat) = floor := ⟨_, rfl⟩
  have hlow : (floor : ℚ) * 10 ^ k ≤ magnitude exponent fraction :=
    (Basin.mul_le_value_iff k floor).1 (hfloor ▸ Nat.div_mul_le_self _ _)
  have hhigh : magnitude exponent fraction < ((floor + 1 : Nat) : ℚ) * 10 ^ k :=
    not_le.1 (mt (Basin.mul_le_value_iff k (floor + 1)).2
      (Nat.not_le.2 (hfloor ▸ Nat.lt_mul_of_div_lt (Nat.lt_succ_self _) hstep)))
  have habove : (Basin.of exponent fraction).has ((floor + 1) * 10 ^ k.toNat) (10 ^ (-k).toNat) =
      true := by
    rw [has_grid_iff hs]
    refine attracts_of_between hhigh.le ?_
    rw [magnitude] at hlow
    push_cast
    linarith
  simp only [Basin.onGrid?, Nat.pow_eq, hfloor, habove]
  split <;> simp_all

end

/-! ## The search -/

theorem Basin.search_eq {b : Basin} {exponent : ℤ} {last : Nat}
    (hlast : (b.onGrid? (exponent - last)).isSome = true) {count done : Nat} (hdone : done ≤ last)
    (hcount : last < done + count) :
    ∃ q k, b.search exponent count done = (q, k) ∧ b.onGrid? k = some q := by
  induction count generalizing done with
  | zero => omega
  | succ count ih =>
    rw [search]
    cases hgrid : b.onGrid? (exponent - done) with
    | some q => exact ⟨q, _, rfl, hgrid⟩
    | none =>
      have hne : done ≠ last := by
        rintro rfl
        rw [hgrid] at hlast
        contradiction
      exact ih (by omega) (by omega)

section

variable {exponent : Fin 2047} {fraction : Fin 0x10_0000_0000_0000}

/-- The first grid that is searched is not above the double. -/
theorem pow_decimalExponent_le_magnitude (hs : significand exponent fraction ≠ 0) :
    (10 : ℚ) ^ decimalExponent (Basin.of exponent fraction).value
      (Basin.of exponent fraction).den ≤ magnitude exponent fraction := by
  have hvalue : (Basin.of exponent fraction).value =
      4 * (significand exponent fraction * 2 ^ (scale exponent).toNat) := rfl
  have hden : (Basin.of exponent fraction).den = 4 * 2 ^ (-scale exponent).toNat := rfl
  have hscale := scale_le exponent.isLt
  have hleast := scale_ge exponent
  have hvaluelog : (Basin.of exponent fraction).value.log2 < 1026 := by
    rw [Nat.log2_lt (by rw [hvalue]; positivity), hvalue]
    calc 4 * (significand exponent fraction * 2 ^ (scale exponent).toNat)
      _ < 4 * (2 ^ 53 * 2 ^ (scale exponent).toNat) := by
        gcongr
        exact significand_lt fraction.isLt
      _ ≤ 4 * (2 ^ 53 * 2 ^ 971) := by
        gcongr
        · decide
        · omega
      _ = 2 ^ 1026 := by rw [← pow_add, show 4 = 2 ^ 2 by decide, ← pow_add]
  have hdenlog : (Basin.of exponent fraction).den.log2 ≤ 1076 := by
    rw [hden, show 4 = 2 ^ 2 by decide, ← pow_add, Nat.log2_two_pow]
    omega
  rw [← Basin.value_div_den]
  refine pow_decimalExponent_le ?_ ?_ (by omega) (by omega)
  · rw [hvalue]
    positivity
  · rw [hden]
    positivity

theorem exists_search_eq (hs : significand exponent fraction ≠ 0) : ∃ q k,
    (Basin.of exponent fraction).search (decimalExponent (Basin.of exponent fraction).value
      (Basin.of exponent fraction).den) 18 0 = (q, k) ∧ q ≠ 0 ∧
        Attracts exponent fraction (q * 10 ^ k) := by
  have hfirst := pow_decimalExponent_le_magnitude hs
  generalize decimalExponent (Basin.of exponent fraction).value
    (Basin.of exponent fraction).den = first at hfirst ⊢
  have hunit : (0 : ℚ) < 2 ^ scale exponent := by positivity
  have htop : (significand exponent fraction : ℚ) < 2 ^ 53 := by
    linarith [significand_add_one_le exponent fraction.isLt]
  -- ten to the power of 17 is more than twice what 53 binary digits tell apart
  have hfine : (10 : ℚ) ^ (first - (17 : Nat)) < 1 / 2 * 2 ^ scale exponent :=
    calc (10 : ℚ) ^ (first - (17 : Nat))
      _ = 10 ^ first / 10 ^ 17 := by rw [zpow_sub₀ (by norm_num), zpow_natCast]
      _ ≤ magnitude exponent fraction / 10 ^ 17 := by gcongr
      _ < 2 ^ 53 * 2 ^ scale exponent / 10 ^ 17 := by
        rw [magnitude]
        gcongr
      _ < 1 / 2 * 2 ^ scale exponent := by linarith
  obtain ⟨q, k, hsearch, hgrid⟩ := Basin.search_eq (isSome_onGrid? hs hfine) (Nat.zero_le 17)
    (by decide : 17 < 0 + 18)
  exact ⟨q, k, hsearch, attracts_of_onGrid? hs hgrid⟩

end

/-! ## Digits -/

/-- Digits as they are written: only zero starts with a zero. -/
structure Digits.IsProper (d : Digits) : Prop where
  ne_nil : d.digits ≠ []
  digits : ∀ c ∈ d.digits, isAsciiDigit c = true
  lead : d.digits.head? = some '0' → d = ⟨['0'], 0⟩

/-- The number that digits stand for. -/
def Digits.magnitude (d : Digits) : ℚ :=
  digitsValue d.digits * 10 ^ (d.exponent + 1 - d.digits.length)

theorem digitsValue_append_zeros (cs : List Char) (n : Nat) :
    digitsValue (cs ++ List.replicate n '0') = digitsValue cs * 10 ^ n := by
  simp only [digitsValue, digitsValueFrom_eq, Nat.ofDigitChars_append,
    Nat.ofDigitChars_replicate_zero]
  exact Nat.mul_comm _ _

theorem digitsValue_zeros_append (cs : List Char) (n : Nat) :
    digitsValue (List.replicate n '0' ++ cs) = digitsValue cs := by
  simp [digitsValue, digitsValueFrom_eq, Nat.ofDigitChars_append, Nat.ofDigitChars_replicate_zero]

/-- The digits of a positive number, told apart from the zeros at its end. -/
theorem exists_natText_eq {q : Nat} (hq : q ≠ 0) : ∃ n,
    (natText q).toList = (natText q).toList.rdropWhile (· == '0') ++ List.replicate n '0' ∧
      (natText q).toList.rdropWhile (· == '0') ≠ [] := by
  have hzeros : (natText q).toList.rtakeWhile (· == '0') =
      List.replicate ((natText q).toList.rtakeWhile (· == '0')).length '0' :=
    List.eq_replicate_iff.2 ⟨rfl, fun c hc => by simpa using List.mem_rtakeWhile_imp hc⟩
  have hsplit := List.rdropWhile_append_rtakeWhile (p := (· == '0')) (l := (natText q).toList)
  rw [hzeros] at hsplit
  refine ⟨_, hsplit.symm, fun hnil => ?_⟩
  rw [hnil, List.nil_append] at hsplit
  have hhead := head?_natText_ne hq
  have hne := natText_ne_nil q
  rw [← hsplit] at hhead hne
  generalize ((natText q).toList.rtakeWhile (· == '0')).length = n at hhead hne
  cases n with
  | zero => exact hne rfl
  | succ n => exact hhead rfl

/-- The shortest digits of a positive double: it attracts the decimal that they make. -/
theorem shortest_spec {exponent : Fin 2047} {fraction : Fin 0x10_0000_0000_0000}
    (hs : significand exponent fraction ≠ 0) : (shortest exponent fraction).IsProper ∧
      Attracts exponent fraction (shortest exponent fraction).magnitude := by
  obtain ⟨q, k, hsearch, hq, hattracts⟩ := exists_search_eq hs
  obtain ⟨n, hsplit, hne⟩ := exists_natText_eq hq
  have hshortest : shortest exponent fraction =
      ⟨(natText q).toList.rdropWhile (· == '0'), k + (natText q).toList.length - 1⟩ := by
    rw [shortest, hsearch, natText, Nat.toList_repr]
    rfl
  rw [hshortest]
  generalize (natText q).toList.rdropWhile (· == '0') = kept at hsplit hne
  refine ⟨⟨hne, fun c hc => ?_, fun hzero => ?_⟩, ?_⟩
  · refine isAsciiDigit_of_mem_natText (n := q) ?_
    rw [hsplit]
    exact List.mem_append_left _ hc
  · have hhead := head?_natText_ne hq
    rw [hsplit, List.head?_append_of_ne_nil _ hne] at hhead
    exact absurd hzero hhead
  · have hvalue := digitsValue_natText q
    rw [hsplit, digitsValue_append_zeros] at hvalue
    have hmagnitude : Digits.magnitude ⟨kept, k + (natText q).toList.length - 1⟩ = q * 10 ^ k := by
      rw [Digits.magnitude, hsplit, List.length_append, List.length_replicate, ← hvalue,
        Nat.cast_mul, mul_assoc, Nat.cast_pow, Nat.cast_ofNat, ← zpow_natCast,
        ← zpow_add₀ (by norm_num)]
      congr 2
      push_cast
      ring
    rwa [hmagnitude]

end SellerApi.Number
