import SellerApi.Proofs.Number.Nearest

/-! # Rounding to a double

Whatever a quotient or a decimal is, it is rounded to a double that attracts it, unless it is too
large for the format (`rounds_ofRatio`, `rounds_ofDecimal`). The significand is the nearest whole
number in units of its last binary digit (`near_divEven`), and a carry to the next power of two
keeps it (`rounds_ofScaled`). -/

namespace SellerApi.Number

open Binary64

/-! ## Whole numbers -/

/-- The whole number is nearest to a number, or halfway to a neighbour and even. -/
structure Near (m : Nat) (x : ℚ) : Prop where
  low : (m : ℚ) - 1 / 2 ≤ x
  high : x ≤ m + 1 / 2
  inside : m % 2 = 1 → (m : ℚ) - 1 / 2 < x ∧ x < m + 1 / 2

/-- An odd number is rounded to from its inside only. -/
theorem divEven_inside {num den : Nat} (hden : 0 < den) (hodd : divEven num den % 2 = 1) :
    2 * (den * divEven num den) < 2 * num + den ∧ 2 * num < 2 * (den * divEven num den) + den := by
  have hmod : num % den < den := Nat.mod_lt _ hden
  have hsplit : den * (num / den) + num % den = num := Nat.div_add_mod num den
  rcases Nat.lt_trichotomy (2 * (num % den)) den with h | h | h
  · rw [divEven, if_pos h]
    constructor <;> omega
  · have heven : divEven num den % 2 = 0 := by
      rw [divEven, if_neg (by omega), if_neg (by omega)]
      omega
    omega
  · rw [divEven, if_neg (by omega), if_pos h, Nat.mul_add, Nat.mul_one]
    constructor <;> omega

theorem near_divEven (num : Nat) {den : Nat} (hden : 0 < den) :
    Near (divEven num den) (num / den) := by
  have hden' : (0 : ℚ) < den := by exact_mod_cast hden
  obtain ⟨hlow, hhigh⟩ := divEven_near num hden
  refine ⟨?_, ?_, fun hodd => ?_⟩
  · rw [le_div_iff₀ hden']
    have : (2 : ℚ) * (den * divEven num den) ≤ 2 * num + den := by exact_mod_cast hhigh
    linarith
  · rw [div_le_iff₀ hden']
    have : (2 : ℚ) * num ≤ 2 * (den * divEven num den) + den := by exact_mod_cast hlow
    linarith
  · obtain ⟨hbelow, habove⟩ := divEven_inside hden hodd
    rw [lt_div_iff₀ hden', div_lt_iff₀ hden']
    have hbelow : (2 : ℚ) * (den * divEven num den) < 2 * num + den := by exact_mod_cast hbelow
    have habove : (2 : ℚ) * num < 2 * (den * divEven num den) + den := by exact_mod_cast habove
    constructor <;> linarith

/-! ## Doubles -/

/-- What a number without its sign is rounded to: a double that attracts it, or infinity if it is
half a unit above the greatest double or more. -/
inductive Rounds (negative : Bool) (x : ℚ) : Binary64 → Prop where
  | finite {exponent : Fin 2047} {fraction : Fin 0x10_0000_0000_0000}
    (h : Attracts exponent fraction x) : Rounds negative x (.finite negative exponent fraction)
  | infinite (h : (2 ^ 53 - 1 / 2) * 2 ^ (971 : ℤ) ≤ x) : Rounds negative x (.infinite negative)

section

variable {m : Nat} {e : ℤ} {x : ℚ}

/-- A number near a significand is attracted by its double, if no power of two stands between the
number and the double above it. -/
theorem attracts_of_near {exponent fraction : Nat}
    (h : Near (significand exponent fraction) (x / 2 ^ scale exponent))
    (hpower : fraction = 0 ∧ 1 < exponent → magnitude exponent fraction ≤ x) :
    Attracts exponent fraction x := by
  have hunit : (0 : ℚ) < 2 ^ scale exponent := by positivity
  have hhigh := h.high
  rw [div_le_iff₀ hunit] at hhigh
  by_cases hcorner : fraction = 0 ∧ 1 < exponent
  · refine ⟨le_trans ?_ (hpower hcorner), hhigh, fun hodd => by omega⟩
    exact mul_le_mul_of_nonneg_right (by linarith [reach_pos exponent fraction]) hunit.le
  · have hreach : reach exponent fraction = 1 / 2 := if_neg hcorner
    have hlow := h.low
    rw [le_div_iff₀ hunit, ← hreach] at hlow
    refine ⟨hlow, hhigh, fun hodd => ?_⟩
    have hinside := h.inside (significand_mod_two.trans hodd)
    rw [lt_div_iff₀ hunit, div_lt_iff₀ hunit] at hinside
    rwa [hreach]

/-- A power of two above all binary digits is the next double. -/
theorem rounds_carry (negative : Bool) (h : Near (2 ^ 53) (x / 2 ^ e)) (hleast : -1074 ≤ e)
    (hhigh : x / 2 ^ e < 2 ^ 53) : Rounds negative x (ofScaled negative (2 ^ 53) e) := by
  have hunit : (0 : ℚ) < 2 ^ e := by positivity
  have hlow := h.low
  rw [le_div_iff₀ hunit] at hlow
  rw [div_lt_iff₀ hunit] at hhigh
  push_cast at hlow
  by_cases hroom : e < 971
  · obtain ⟨exponent, hexponent⟩ : ∃ exponent : Fin 2047, (exponent : ℤ) = e + 1076 :=
      ⟨⟨(e + 1076).toNat, by omega⟩, by simp; omega⟩
    have hscale : scale exponent = e + 1 := by rw [scale, if_neg (by omega)]; omega
    have hcarry := ofScaled_carry negative exponent (by omega)
    rw [hscale, add_sub_cancel_right] at hcarry
    rw [hcarry]
    refine .finite ⟨?_, ?_, fun hodd => by simp at hodd⟩
    all_goals
      rw [hscale, zpow_add_one₀ two_ne_zero, significand, if_neg (by omega), Fin.val_zero,
        Nat.add_zero]
      push_cast
    · rw [reach, if_pos ⟨rfl, by omega⟩]
      linarith
    · linarith
  · have hmost : (2 : ℚ) ^ (971 : ℤ) ≤ 2 ^ e := zpow_le_zpow_right₀ one_le_two (by omega)
    have hinfinite : ofScaled negative (2 ^ 53) e = .infinite negative := by
      have hlarge : ¬(e + 1 + 1075).toNat < 2047 := by omega
      simp [ofScaled, hlarge]
    rw [hinfinite]
    refine .infinite (le_trans ?_ hlow)
    exact mul_le_mul_of_nonneg_left hmost (by norm_num)

/-- A number is rounded in units in which it has 53 binary digits, or in the least unit. -/
theorem rounds_ofScaled (negative : Bool) (h : Near m (x / 2 ^ e)) (hleast : -1074 ≤ e)
    (hhigh : x / 2 ^ e < 2 ^ 53) (hfull : e = -1074 ∨ 2 ^ 52 ≤ x / 2 ^ e) :
    Rounds negative x (ofScaled negative m e) := by
  have hunit : (0 : ℚ) < 2 ^ e := by positivity
  have hmost : m ≤ 2 ^ 53 := by
    by_contra hlt
    have : (2 ^ 53 + 1 : ℚ) ≤ m := by exact_mod_cast Nat.not_le.1 hlt
    linarith [h.low]
  have hcases : m < 2 ^ 52 ∨ (2 ^ 52 ≤ m ∧ m < 2 ^ 53) ∨ m = 2 ^ 53 := by omega
  rcases hcases with hsmall | ⟨hnormal, htop⟩ | rfl
  · -- below the least power of two with all digits there is the least unit only
    obtain rfl : e = -1074 := hfull.resolve_right fun hlow => by
      have : (m + 1 : ℚ) ≤ 2 ^ 52 := by exact_mod_cast hsmall
      linarith [h.high]
    have hmake := ofScaled_significand negative ⟨0, by decide⟩ ⟨m, hsmall⟩
    rw [significand, if_pos rfl, scale, if_pos rfl] at hmake
    rw [hmake]
    refine .finite (attracts_of_near (by simpa [significand, scale] using h) fun hpower => ?_)
    exact absurd hpower.2 (by decide)
  · by_cases hroom : e < 972
    · obtain ⟨exponent, hexponent⟩ : ∃ exponent : Fin 2047, (exponent : ℤ) = e + 1075 :=
        ⟨⟨(e + 1075).toNat, by omega⟩, by simp; omega⟩
      have hscale : scale exponent = e := by rw [scale, if_neg (by omega)]; omega
      have hsignificand : significand exponent (m - 2 ^ 52) = m := by
        rw [significand, if_neg (by omega)]
        omega
      have hmake := ofScaled_significand negative exponent ⟨m - 2 ^ 52, by omega⟩
      rw [hscale, hsignificand] at hmake
      rw [hmake]
      refine .finite (attracts_of_near (by rwa [hscale, hsignificand]) fun hpower => ?_)
      have hzero : m - 2 ^ 52 = 0 := hpower.1
      have hlow := hfull.resolve_left (by omega)
      rw [le_div_iff₀ hunit] at hlow
      rw [magnitude, hscale, hsignificand, show m = 2 ^ 52 by omega]
      exact_mod_cast hlow
    · have hlow := hfull.resolve_left (by omega)
      rw [le_div_iff₀ hunit] at hlow
      have hinfinite : ofScaled negative m e = .infinite negative := by
        have hlarge : ¬(e + 1075).toNat < 2047 := by omega
        have hdigits : ¬m < 0x10_0000_0000_0000 ∧ m < 0x20_0000_0000_0000 := by omega
        simp [ofScaled, hlarge, hdigits]
      rw [hinfinite]
      refine .infinite ?_
      have hmost : (2 : ℚ) ^ (972 : ℤ) ≤ 2 ^ e := zpow_le_zpow_right₀ one_le_two (by omega)
      calc ((2 : ℚ) ^ 53 - 1 / 2) * 2 ^ (971 : ℤ)
        _ ≤ 2 ^ 53 * 2 ^ (971 : ℤ) := by gcongr; norm_num
        _ = 2 ^ 52 * 2 ^ (972 : ℤ) := by
          rw [show (972 : ℤ) = 971 + 1 by norm_num, zpow_add_one₀ two_ne_zero]
          ring
        _ ≤ 2 ^ 52 * 2 ^ e := by gcongr
        _ ≤ x := hlow
  · exact rounds_carry negative h hleast hhigh

end

/-- The least numbers are rounded to zero. -/
theorem attracts_zero {x : ℚ} (hlow : 0 ≤ x) (hhigh : x ≤ 2 ^ (-1075 : ℤ)) : Attracts 0 0 x := by
  have hhalf : (2 : ℚ) ^ (-1075 : ℤ) = 1 / 2 * 2 ^ (-1074 : ℤ) := by
    rw [show (-1074 : ℤ) = -1075 + 1 by norm_num, zpow_add_one₀ two_ne_zero]
    ring
  have hunit : (0 : ℚ) < 2 ^ (-1074 : ℤ) := by positivity
  have hsignificand : ((significand 0 0 : Nat) : ℚ) = 0 := by norm_num [significand]
  have hscale : scale 0 = -1074 := rfl
  have hreach := reach_pos 0 0
  refine ⟨?_, ?_, fun hodd => by omega⟩
  · rw [hsignificand, hscale]
    nlinarith
  · rw [hsignificand, hscale, zero_add, ← hhalf]
    exact hhigh

/-- A quotient is rounded once. -/
theorem rounds_ofRatio (negative : Bool) (num : Nat) {den : Nat} (hden : den ≠ 0) :
    Rounds negative (num / den) (ofRatio negative num den) := by
  by_cases hnum : num = 0
  · rw [ofRatio, if_pos hnum, hnum, Nat.cast_zero, zero_div]
    exact .finite (attracts_zero le_rfl (by positivity))
  have hpos := Nat.pos_of_ne_zero hden
  obtain ⟨hleast, hbelow, hfull⟩ := scaleOfRatio_spec hnum hden
  have hunit : (0 : ℚ) < 2 ^ scaleOfRatio num den := by positivity
  rw [ofRatio, if_neg hnum]
  simp only [Nat.pow_eq]
  refine rounds_ofScaled negative ?_ hleast ?_ (hfull.imp_right (le_div_iff₀ hunit).2)
  · have hnear := near_divEven (num * 2 ^ (-scaleOfRatio num den).toNat)
      (show 0 < den * 2 ^ (scaleOfRatio num den).toNat by positivity)
    rwa [shifted_div (by decide) hpos, Nat.cast_ofNat] at hnear
  · rwa [div_lt_iff₀ hunit]

/-- A decimal is rounded once, also where its magnitude alone decides. -/
theorem rounds_ofDecimal (negative : Bool) (n : Nat) (k : ℤ) :
    Rounds negative (n * 10 ^ k) (ofDecimal negative n k) := by
  unfold ofDecimal
  split
  · next hn =>
    rw [hn, Nat.cast_zero, zero_mul]
    exact .finite (attracts_zero le_rfl (by positivity))
  split
  · next hn hk =>
    have hlarge := le_decimal_of_large hn hk
    refine .infinite (le_trans ?_ hlarge)
    calc ((2 : ℚ) ^ 53 - 1 / 2) * 2 ^ (971 : ℤ)
      _ ≤ 2 ^ (53 : ℤ) * 2 ^ (971 : ℤ) := by gcongr; norm_num
      _ = 2 ^ (1024 : ℤ) := by rw [← zpow_add₀ two_ne_zero]; rfl
  split
  · next hk => exact .finite (attracts_zero (by positivity) (decimal_lt_of_small hk).le)
  · have hrounds := rounds_ofRatio negative (n * 10 ^ k.toNat)
      (show 10 ^ (-k).toNat ≠ 0 by positivity)
    push_cast at hrounds
    rwa [mul_div_assoc, pow_toNat_div (by norm_num)] at hrounds

/-- A literal is read as what the number that it denotes is rounded to. -/
theorem Decimal.rounds_value (d : Decimal) : Rounds d.negative d.magnitude d.value :=
  rounds_ofDecimal d.negative _ _

end SellerApi.Number
