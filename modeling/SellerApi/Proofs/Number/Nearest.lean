import Mathlib.Algebra.Order.Field.Power
import Mathlib.Data.Rat.Cast.Order
import Mathlib.Tactic.FieldSimp
import Mathlib.Tactic.Linarith
import Mathlib.Tactic.Positivity
import Mathlib.Tactic.Ring
import SellerApi.Number.Decimal
import SellerApi.Number.Shortest

/-! # The nearest double

A positive double attracts the rationals that are nearer to it than to any other, and those halfway
to a neighbour if its last binary digit is zero (`Attracts`). These are the numbers that `Basin.of`
has (`has_of_iff`), and all of them round to the double: as quotients (`ofRatio_of_attracts`) and as
decimals (`ofDecimal_of_attracts`). -/

namespace SellerApi.Number

/-! ## Powers on either side of a fraction -/

theorem pow_toNat_div {b : ℚ} (hb : b ≠ 0) (k : ℤ) : b ^ k.toNat / b ^ (-k).toNat = b ^ k := by
  rw [div_eq_iff (pow_ne_zero _ hb), ← zpow_natCast, ← zpow_natCast, ← zpow_add₀ hb]
  congr 1
  omega

section

variable {b num den : Nat} (hb : 0 < b) (hden : 0 < den) (k : ℤ)
include hb hden

theorem shifted_div :
    ((num * b ^ (-k).toNat : Nat) : ℚ) / (den * b ^ k.toNat : Nat) = num / den / b ^ k := by
  have hb' : (b : ℚ) ≠ 0 := by positivity
  rw [← pow_toNat_div hb' k]
  push_cast
  field_simp

theorem mul_shifted_le_iff (m : Nat) :
    m * (den * b ^ k.toNat) ≤ num * b ^ (-k).toNat ↔ (m : ℚ) * b ^ k ≤ num / den := by
  have hpos : (0 : ℚ) < (den * b ^ k.toNat : Nat) := by positivity
  have hb' : (0 : ℚ) < (b : ℚ) ^ k := by positivity
  rw [← le_div_iff₀ hb', ← shifted_div hb hden k, le_div_iff₀ hpos]
  exact_mod_cast Iff.rfl

end

/-! ## The size of a fraction -/

theorem zpow_log2_le {n : Nat} (hn : n ≠ 0) : (2 : ℚ) ^ (n.log2 : ℤ) ≤ n := by
  exact_mod_cast Nat.log2_self_le hn

theorem lt_zpow_log2 (n : Nat) : (n : ℚ) < 2 ^ (n.log2 + 1 : ℤ) := by
  exact_mod_cast Nat.lt_log2_self

section

variable {num den : Nat}

theorem zpow_log2_lt_div (hnum : num ≠ 0) (hden : den ≠ 0) :
    (2 : ℚ) ^ ((num.log2 : ℤ) - den.log2 - 1) < num / den := by
  rw [lt_div_iff₀ (by exact_mod_cast Nat.pos_of_ne_zero hden)]
  calc (2 : ℚ) ^ ((num.log2 : ℤ) - den.log2 - 1) * den
    _ < 2 ^ ((num.log2 : ℤ) - den.log2 - 1) * 2 ^ (den.log2 + 1 : ℤ) := by
      gcongr
      exact lt_zpow_log2 den
    _ = 2 ^ (num.log2 : ℤ) := by
      rw [← zpow_add₀ two_ne_zero]
      congr 1
      omega
    _ ≤ num := zpow_log2_le hnum

theorem div_lt_zpow_log2 (num : Nat) (hden : den ≠ 0) :
    (num / den : ℚ) < 2 ^ ((num.log2 : ℤ) - den.log2 + 1) := by
  rw [div_lt_iff₀ (by exact_mod_cast Nat.pos_of_ne_zero hden)]
  calc (num : ℚ)
    _ < 2 ^ (num.log2 + 1 : ℤ) := lt_zpow_log2 num
    _ = 2 ^ ((num.log2 : ℤ) - den.log2 + 1) * 2 ^ (den.log2 : ℤ) := by
      rw [← zpow_add₀ two_ne_zero]
      congr 1
      omega
    _ ≤ 2 ^ ((num.log2 : ℤ) - den.log2 + 1) * den := by
      gcongr
      exact zpow_log2_le hden

end

/-! ## The numbers that a double attracts -/

namespace Binary64

/-- How far a double reaches downwards, in units of its last binary digit: halfway to its lower
neighbour, which is nearer below a power of two. -/
def reach (exponent fraction : Nat) : ℚ := if fraction = 0 ∧ 1 < exponent then 1 / 4 else 1 / 2

/-- A number that is nearest to a positive double, or halfway to a neighbour that is not even. -/
structure Attracts (exponent fraction : Nat) (x : ℚ) : Prop where
  low : (significand exponent fraction - reach exponent fraction) * 2 ^ scale exponent ≤ x
  high : x ≤ (significand exponent fraction + 1 / 2) * 2 ^ scale exponent
  inside : fraction % 2 = 1 →
    (significand exponent fraction - reach exponent fraction) * 2 ^ scale exponent < x ∧
      x < (significand exponent fraction + 1 / 2) * 2 ^ scale exponent

variable {exponent fraction : Nat}

theorem reach_le_half (exponent fraction : Nat) : reach exponent fraction ≤ 1 / 2 := by
  unfold reach
  split <;> norm_num

theorem reach_pos (exponent fraction : Nat) : 0 < reach exponent fraction := by
  unfold reach
  split <;> norm_num

theorem scale_ge (exponent : Nat) : -1074 ≤ scale exponent := by
  unfold scale
  split <;> omega

theorem scale_le (h : exponent < 2047) : scale exponent ≤ 971 := by
  unfold scale
  split <;> omega

theorem significand_lt (h : fraction < 2 ^ 52) : significand exponent fraction < 2 ^ 53 := by
  unfold significand
  split <;> omega

theorem one_le_significand (hs : significand exponent fraction ≠ 0) :
    (1 : ℚ) ≤ significand exponent fraction := by
  exact_mod_cast Nat.one_le_iff_ne_zero.2 hs

theorem significand_add_one_le (exponent : Nat) (h : fraction < 2 ^ 52) :
    (significand exponent fraction : ℚ) + 1 ≤ 2 ^ 53 := by
  exact_mod_cast significand_lt h

/-- The last binary digit is that of the fraction. -/
theorem significand_mod_two : significand exponent fraction % 2 = fraction % 2 := by
  unfold significand
  split <;> omega

/-- The value of a double, its sign aside. -/
def magnitude (exponent fraction : Nat) : ℚ := significand exponent fraction * 2 ^ scale exponent

theorem ratio_eq : ((ratio exponent fraction).1 : ℚ) / (ratio exponent fraction).2 =
    magnitude exponent fraction := by
  have htwo := pow_toNat_div (two_ne_zero (α := ℚ)) (scale exponent)
  simp only [ratio, magnitude, Nat.pow_eq, Nat.cast_mul, Nat.cast_pow, Nat.cast_ofNat]
  rw [mul_div_assoc, htwo]

theorem Attracts.pos {x : ℚ} (h : Attracts exponent fraction x)
    (hs : significand exponent fraction ≠ 0) : 0 < x := by
  have hone := one_le_significand hs
  have hreach := reach_le_half exponent fraction
  have hunit : (0 : ℚ) < 2 ^ scale exponent := by positivity
  exact lt_of_lt_of_le (mul_pos (by linarith) hunit) h.low

theorem Attracts.num_ne_zero {num : Nat} {y : ℚ} (h : Attracts exponent fraction (num / y))
    (hs : significand exponent fraction ≠ 0) : num ≠ 0 := by
  rintro rfl
  simpa using h.pos hs

/-- What lies at or above a double, by less than half a unit. -/
theorem attracts_of_between {x : ℚ} (hlow : magnitude exponent fraction ≤ x)
    (hhigh : x < (significand exponent fraction + 1 / 2) * 2 ^ scale exponent) :
    Attracts exponent fraction x := by
  have hunit : (0 : ℚ) < 2 ^ scale exponent := by positivity
  have hbelow : (significand exponent fraction - reach exponent fraction) * 2 ^ scale exponent <
      x := by
    refine lt_of_lt_of_le (mul_lt_mul_of_pos_right ?_ hunit) hlow
    linarith [reach_pos exponent fraction]
  exact ⟨hbelow.le, hhigh.le, fun _ => ⟨hbelow, hhigh⟩⟩

end Binary64

open Binary64

/-! ## Basins -/

section

variable {exponent fraction : Nat}

theorem Basin.den_of (exponent fraction : Nat) :
    ((Basin.of exponent fraction).den : ℚ) = 4 * 2 ^ (-scale exponent).toNat := by
  simp [Basin.of, ratio]

theorem Basin.high_of : ((Basin.of exponent fraction).high : ℚ) =
    4 * 2 ^ (scale exponent).toNat * (significand exponent fraction + 1 / 2) := by
  simp only [Basin.of, ratio, Nat.pow_eq]
  push_cast
  ring

theorem Basin.low_of (hs : significand exponent fraction ≠ 0) :
    ((Basin.of exponent fraction).low : ℚ) =
      4 * 2 ^ (scale exponent).toNat *
        (significand exponent fraction - reach exponent fraction) := by
  have hone : 2 ^ (scale exponent).toNat ≤
      significand exponent fraction * 2 ^ (scale exponent).toNat :=
    Nat.le_mul_of_pos_left _ (Nat.pos_of_ne_zero hs)
  simp only [Basin.of, ratio, reach, Nat.pow_eq]
  split
  · rw [Nat.mul_div_cancel_left _ (by decide), Nat.cast_sub (by omega)]
    push_cast
    ring
  · rw [Nat.cast_sub (by omega)]
    push_cast
    ring

/-- The interval of a double holds what the double attracts. -/
theorem Basin.has_of_iff (hs : significand exponent fraction ≠ 0) {n d : Nat} (hd : 0 < d) :
    (Basin.of exponent fraction).has n d = true ↔ Attracts exponent fraction (n / d) := by
  have hd' : (0 : ℚ) < d := by exact_mod_cast hd
  have hunit := pow_toNat_div (two_ne_zero (α := ℚ)) (scale exponent)
  have hp : (0 : ℚ) < 2 ^ (scale exponent).toNat := by positivity
  have hq : (0 : ℚ) < 2 ^ (-scale exponent).toNat := by positivity
  -- both sides compare the same numbers, over different denominators
  have hlow : ∀ y : ℚ, 4 * 2 ^ (scale exponent).toNat * y * d ≤
      n * (4 * 2 ^ (-scale exponent).toNat) ↔ y * 2 ^ scale exponent ≤ n / d := by
    intro y
    rw [← hunit, le_div_iff₀ hd', ← mul_div_assoc, div_mul_eq_mul_div, div_le_iff₀ hq]
    constructor <;> intro h <;> linarith
  have hhigh : ∀ y : ℚ, n * (4 * 2 ^ (-scale exponent).toNat) ≤
      4 * 2 ^ (scale exponent).toNat * y * d ↔ (n : ℚ) / d ≤ y * 2 ^ scale exponent := by
    intro y
    rw [← hunit, div_le_iff₀ hd', ← mul_div_assoc, div_mul_eq_mul_div, le_div_iff₀ hq]
    constructor <;> intro h <;> linarith
  have hclosed : (Basin.of exponent fraction).closed = decide (fraction % 2 = 0) := rfl
  have hcast : ∀ a b c e : Nat, a * b ≤ c * e ↔ (a : ℚ) * b ≤ c * e := fun _ _ _ _ => by
    exact_mod_cast Iff.rfl
  simp only [Basin.has, hclosed, decide_eq_true_eq]
  by_cases heven : fraction % 2 = 0
  · rw [if_pos heven, Bool.and_eq_true, decide_eq_true_eq, decide_eq_true_eq, hcast, hcast,
      low_of hs, high_of, den_of, hlow, hhigh]
    exact ⟨fun h => ⟨h.1, h.2, fun hodd => by omega⟩, fun h => ⟨h.low, h.high⟩⟩
  · have hodd : fraction % 2 = 1 := by omega
    rw [if_neg heven, Bool.and_eq_true, decide_eq_true_eq, decide_eq_true_eq, ← Nat.not_le,
      ← Nat.not_le, hcast, hcast, low_of hs, high_of, den_of, hlow, hhigh, not_le, not_le]
    exact ⟨fun h => ⟨h.1.le, h.2.le, fun _ => h⟩, fun h => h.inside hodd⟩

end

/-! ## Rounding -/

/-- A number within half a unit of a quotient is what the quotient rounds to, if it is even or
nearer than that. -/
theorem divEven_eq {num den m : Nat} (hden : 0 < den) (hlow : 2 * (m * den) ≤ 2 * num + den)
    (hhigh : 2 * num ≤ 2 * (m * den) + den)
    (hinside : m % 2 = 1 → 2 * (m * den) < 2 * num + den ∧ 2 * num < 2 * (m * den) + den) :
    divEven num den = m := by
  have hsplit : num / den * den + num % den = num := Nat.div_add_mod' num den
  have hmod : num % den < den := Nat.mod_lt _ hden
  -- the quotient is cut off at `m` or just below it
  have hfloor : num / den ≤ m := by
    by_contra h
    have := Nat.mul_le_mul_right den (show m + 1 ≤ num / den by omega)
    rw [Nat.add_mul, Nat.one_mul] at this
    omega
  have hceiling : m ≤ num / den + 1 := by
    by_contra h
    have := Nat.mul_le_mul_right den (show num / den + 2 ≤ m by omega)
    rw [Nat.add_mul] at this
    omega
  unfold divEven
  obtain rfl | rfl : m = num / den ∨ m = num / den + 1 := by omega
  · rcases Nat.lt_trichotomy (2 * (num % den)) den with h | h | h
    · rw [if_pos h]
    · rw [if_neg (by omega), if_neg (by omega)]
      have heven : num / den % 2 = 0 := by
        by_contra hodd
        have := (hinside (by omega)).2
        omega
      omega
    · omega
  · rw [Nat.add_mul, Nat.one_mul] at hlow hinside
    rcases Nat.lt_trichotomy (2 * (num % den)) den with h | h | h
    · omega
    · rw [if_neg (by omega), if_neg (by omega)]
      have heven : (num / den + 1) % 2 = 0 := by
        by_contra hodd
        have := (hinside (by omega)).1
        omega
      omega
    · rw [if_neg (by omega), if_pos h]

/-- The same for the quotient as a rational. -/
theorem divEven_eq_of_near {num den m : Nat} (hden : 0 < den) (hlow : (m : ℚ) - 1 / 2 ≤ num / den)
    (hhigh : (num : ℚ) / den ≤ m + 1 / 2)
    (hinside : m % 2 = 1 → (m : ℚ) - 1 / 2 < num / den ∧ (num : ℚ) / den < m + 1 / 2) :
    divEven num den = m := by
  have hden' : (0 : ℚ) < den := by exact_mod_cast hden
  rw [le_div_iff₀ hden'] at hlow
  rw [div_le_iff₀ hden'] at hhigh
  refine divEven_eq hden ?_ ?_ fun hodd => ?_
  · exact_mod_cast (by linarith : (2 : ℚ) * (m * den) ≤ 2 * num + den)
  · exact_mod_cast (by linarith : (2 : ℚ) * num ≤ 2 * (m * den) + den)
  · obtain ⟨h, h'⟩ := hinside hodd
    rw [lt_div_iff₀ hden'] at h
    rw [div_lt_iff₀ hden'] at h'
    constructor
    · exact_mod_cast (by linarith : (2 : ℚ) * (m * den) < 2 * num + den)
    · exact_mod_cast (by linarith : (2 : ℚ) * num < 2 * (m * den) + den)

/-- The digits of a quotient that stand before the point when it is divided by its scale: at most
53, and not fewer unless the scale is the least one. -/
theorem scaleOfRatio_spec {num den : Nat} (hnum : num ≠ 0) (hden : den ≠ 0) :
    -1074 ≤ scaleOfRatio num den ∧ (num / den : ℚ) < 2 ^ 53 * 2 ^ scaleOfRatio num den ∧
      (scaleOfRatio num den = -1074 ∨ 2 ^ 52 * 2 ^ scaleOfRatio num den ≤ (num / den : ℚ)) := by
  have hpos : 0 < den := Nat.pos_of_ne_zero hden
  obtain ⟨guess, hguess⟩ : ∃ guess : ℤ, guess = (num.log2 : ℤ) - den.log2 - 52 := ⟨_, rfl⟩
  have hlow : 2 ^ 51 * 2 ^ guess < (num / den : ℚ) := by
    rw [← zpow_natCast, ← zpow_add₀ two_ne_zero]
    convert zpow_log2_lt_div hnum hden using 2
    push_cast
    omega
  have hhigh : (num / den : ℚ) < 2 ^ 53 * 2 ^ guess := by
    rw [← zpow_natCast, ← zpow_add₀ two_ne_zero]
    convert div_lt_zpow_log2 num hden using 2
    push_cast
    omega
  -- the scale before it is bounded from below
  obtain ⟨free, hfree, hfreelow, hfreehigh⟩ : ∃ free : ℤ, scaleOfRatio num den = max free (-1074) ∧
      2 ^ 52 * 2 ^ free ≤ (num / den : ℚ) ∧ (num / den : ℚ) < 2 ^ 53 * 2 ^ free := by
    refine ⟨_, rfl, ?_⟩
    have hreach := (Nat.le_div_iff_mul_le (x := 2 ^ 52) (y := num * 2 ^ (-guess).toNat)
      (show 0 < den * 2 ^ guess.toNat by positivity)).trans
        (mul_shifted_le_iff (by decide) hpos guess (2 ^ 52))
    simp only [← hguess, Nat.pow_eq]
    split
    · next h =>
      have hless := mt hreach.2 (Nat.not_le.2 h)
      push_cast at hless
      rw [zpow_sub_one₀ two_ne_zero]
      constructor <;> linarith
    · next h =>
      have hmore := hreach.1 (Nat.not_lt.1 h)
      push_cast at hmore
      exact ⟨hmore, hhigh⟩
  rw [hfree]
  refine ⟨le_max_right _ _, hfreehigh.trans_le ?_, ?_⟩
  · gcongr
    · norm_num
    · exact le_max_left _ _
  · rcases le_total free (-1074) with h | h
    · exact .inl (max_eq_right h)
    · rw [max_eq_left h]
      exact .inr hfreelow

/-- The scaled significand of a double makes the double. -/
theorem ofScaled_significand (negative : Bool) (exponent : Fin 2047)
    (fraction : Fin 0x10_0000_0000_0000) :
    ofScaled negative (significand exponent fraction) (scale exponent) =
      .finite negative exponent fraction := by
  by_cases h : exponent.val = 0
  · obtain rfl : exponent = ⟨0, by decide⟩ := Fin.ext h
    simp [ofScaled, significand]
  · have hexponent : ((exponent : ℤ) - 1075 + 1075).toNat = exponent := by omega
    have hlow : ¬0x10_0000_0000_0000 + fraction.val < 0x10_0000_0000_0000 := by omega
    have hhigh : 0x10_0000_0000_0000 + fraction.val < 0x20_0000_0000_0000 := by omega
    simp only [ofScaled, significand, scale, if_neg h, if_neg hlow, if_pos hhigh, hexponent,
      exponent.isLt, dif_pos, Nat.add_sub_cancel_left, Fin.ofNat_eq_cast, Fin.cast_val_eq_self]

/-- One more than all binary digits make the next power of two. -/
theorem ofScaled_carry (negative : Bool) (exponent : Fin 2047) (h : 1 < exponent.val) :
    ofScaled negative (2 ^ 53) (scale exponent - 1) = .finite negative exponent 0 := by
  rw [scale, if_neg (by omega)]
  simp [ofScaled]

section

variable {exponent : Fin 2047} {fraction : Fin 0x10_0000_0000_0000}

/-- A number that a double attracts is scaled as the double is, or it lies just below a power of
two and has one binary digit more. -/
theorem scaleOfRatio_of_attracts {num den : Nat} (hden : den ≠ 0)
    (h : Attracts exponent fraction (num / den)) (hs : significand exponent fraction ≠ 0) :
    scaleOfRatio num den = scale exponent ∨
      (fraction = 0 ∧ 1 < exponent.val ∧ scaleOfRatio num den = scale exponent - 1) := by
  have hnum := h.num_ne_zero hs
  obtain ⟨hleast, hbelow, habove⟩ := scaleOfRatio_spec hnum hden
  have hunit : (0 : ℚ) < 2 ^ scale exponent := by positivity
  have hle : scaleOfRatio num den ≤ scale exponent := by
    by_contra hlt
    have hmore := habove.resolve_left (by have := scale_ge exponent; omega)
    have hstep : (2 : ℚ) ^ (scale exponent + 1) ≤ 2 ^ scaleOfRatio num den :=
      zpow_le_zpow_right₀ one_le_two (by omega)
    have htop := significand_add_one_le exponent fraction.isLt
    have hhigh := h.high
    rw [zpow_add_one₀ two_ne_zero] at hstep
    nlinarith
  by_contra hother
  rw [not_or] at hother
  obtain ⟨hne, hcarry⟩ := hother
  -- so the number lies below the power of two, which only the double at it attracts
  have hnormal : 1 < exponent.val := by
    by_contra hsmall
    refine hne (le_antisymm hle ?_)
    rw [scale]
    split <;> omega
  have hexact : significand exponent fraction = 0x10_0000_0000_0000 + fraction.val := by
    rw [significand, if_neg (by omega)]
  have hlow := h.low
  rw [hexact, reach] at hlow
  push_cast at hlow
  by_cases hf : fraction.val = 0
  · have hstep : (2 : ℚ) ^ scaleOfRatio num den * 4 ≤ 2 ^ scale exponent := by
      have := fun heq => hcarry ⟨Fin.ext hf, hnormal, heq⟩
      rw [show (4 : ℚ) = 2 ^ (2 : ℤ) by norm_num, ← zpow_add₀ two_ne_zero]
      exact zpow_le_zpow_right₀ one_le_two (by omega)
    rw [if_pos ⟨hf, hnormal⟩, hf, Nat.cast_zero, add_zero] at hlow
    linarith
  · have hstep : (2 : ℚ) ^ scaleOfRatio num den * 2 ≤ 2 ^ scale exponent := by
      rw [← zpow_add_one₀ two_ne_zero]
      exact zpow_le_zpow_right₀ one_le_two (by omega)
    have hone : (1 : ℚ) ≤ fraction.val := by exact_mod_cast Nat.one_le_iff_ne_zero.2 hf
    rw [if_neg (fun hzero => hf hzero.1)] at hlow
    nlinarith

/-- A double is the nearest one to every number that it attracts. -/
theorem ofRatio_of_attracts (negative : Bool) {num den : Nat} (hden : den ≠ 0)
    (h : Attracts exponent fraction (num / den)) (hs : significand exponent fraction ≠ 0) :
    ofRatio negative num den = .finite negative exponent fraction := by
  have hnum := h.num_ne_zero hs
  have hpos := Nat.pos_of_ne_zero hden
  rw [ofRatio, if_neg hnum]
  simp only [Nat.pow_eq]
  rcases scaleOfRatio_of_attracts hden h hs with hscale | ⟨rfl, hnormal, hscale⟩
  · -- in units of the last binary digit, the significand is the nearest whole number
    rw [hscale]
    have hunit : (0 : ℚ) < 2 ^ scale exponent := by positivity
    have hreach := reach_le_half exponent fraction
    have hrounded : divEven (num * 2 ^ (-scale exponent).toNat) (den * 2 ^ (scale exponent).toNat) =
        significand exponent fraction := by
      refine divEven_eq_of_near (by positivity) ?_ ?_ fun hodd => ?_
      all_goals rw [shifted_div (by decide) hpos, Nat.cast_ofNat]
      · rw [le_div_iff₀ hunit]
        nlinarith [h.low]
      · rw [div_le_iff₀ hunit]
        exact h.high
      · obtain ⟨hlow, hhigh⟩ := h.inside (significand_mod_two.symm.trans hodd)
        rw [lt_div_iff₀ hunit, div_lt_iff₀ hunit]
        exact ⟨by nlinarith, hhigh⟩
    rw [hrounded, ofScaled_significand]
  · -- in half units, the power of two itself is
    rw [hscale]
    have hunit : (0 : ℚ) < 2 ^ (scale exponent - 1) := by positivity
    have hbelow := (scaleOfRatio_spec hnum hden).2.1
    rw [hscale] at hbelow
    have hrounded : divEven (num * 2 ^ (-(scale exponent - 1)).toNat)
        (den * 2 ^ (scale exponent - 1).toNat) = 2 ^ 53 := by
      refine divEven_eq_of_near (by positivity) ?_ ?_ fun hodd => by omega
      all_goals rw [shifted_div (by decide) hpos, Nat.cast_ofNat]
      · have hlow := h.low
        rw [significand, if_neg (by omega), reach, if_pos ⟨rfl, hnormal⟩, ← sub_add_cancel
          (scale exponent) 1, zpow_add_one₀ two_ne_zero, Fin.val_zero, Nat.add_zero] at hlow
        rw [le_div_iff₀ hunit]
        push_cast at hlow ⊢
        linarith
      · rw [div_le_iff₀ hunit]
        push_cast
        linarith
    rw [hrounded, ofScaled_carry negative exponent hnormal]

/-- A number that a double attracts is neither too large nor too small for the format. -/
theorem Binary64.Attracts.bounds {x : ℚ} (h : Attracts exponent fraction x)
    (hs : significand exponent fraction ≠ 0) : 2 ^ (-1075 : ℤ) ≤ x ∧ x < 2 ^ (1024 : ℤ) := by
  have hone := one_le_significand hs
  have htop := significand_add_one_le exponent fraction.isLt
  have hreach := reach_le_half exponent fraction
  have hleast : (2 : ℚ) ^ (-1074 : ℤ) ≤ 2 ^ scale exponent :=
    zpow_le_zpow_right₀ one_le_two (scale_ge _)
  have hmost : (2 : ℚ) ^ scale exponent ≤ 2 ^ (971 : ℤ) :=
    zpow_le_zpow_right₀ one_le_two (scale_le exponent.isLt)
  constructor
  · calc (2 : ℚ) ^ (-1075 : ℤ)
      _ = 2⁻¹ * 2 ^ (-1074 : ℤ) := by
        rw [show (-1075 : ℤ) = -1 + -1074 by norm_num, zpow_add₀ two_ne_zero, zpow_neg_one]
      _ ≤ (significand exponent fraction - reach exponent fraction) * 2 ^ scale exponent :=
        mul_le_mul (by linarith only [hone, hreach]) hleast (by positivity)
          (by linarith only [hone, hreach])
      _ ≤ x := h.low
  · calc x
      _ ≤ (significand exponent fraction + 1 / 2) * 2 ^ scale exponent := h.high
      _ ≤ (significand exponent fraction + 1 / 2) * 2 ^ (971 : ℤ) := by gcongr
      _ < 2 ^ (53 : ℤ) * 2 ^ (971 : ℤ) :=
        mul_lt_mul_of_pos_right (by linarith only [htop]) (by positivity)
      _ = 2 ^ (1024 : ℤ) := by rw [← zpow_add₀ two_ne_zero]; rfl

/-- A decimal with so large a power of ten is too large for the format. -/
theorem le_decimal_of_large {n : Nat} {k : ℤ} (hn : n ≠ 0) (hk : 310 < k) :
    (2 : ℚ) ^ (1024 : ℤ) ≤ n * 10 ^ k := by
  have hone : (1 : ℚ) ≤ n := by exact_mod_cast Nat.one_le_iff_ne_zero.2 hn
  have hgap : (2 : ℚ) ^ (1024 : ℤ) < 10 ^ (311 : ℤ) := by
    exact_mod_cast (by decide +kernel : 2 ^ 1024 < 10 ^ 311)
  calc (2 : ℚ) ^ (1024 : ℤ)
    _ ≤ 10 ^ (311 : ℤ) := hgap.le
    _ ≤ 10 ^ k := zpow_le_zpow_right₀ (by norm_num) (by omega)
    _ ≤ n * 10 ^ k := le_mul_of_one_le_left (by positivity) hone

/-- A decimal with so small a power of ten is too small for the format, for all its digits. -/
theorem decimal_lt_of_small {n : Nat} {k : ℤ} (hk : k + n.log2 / 3 + 1 < -330) :
    (n : ℚ) * 10 ^ k < 2 ^ (-1075 : ℤ) := by
  have hdigits : (n : ℚ) ≤ 10 ^ (n.log2 / 3 + 1) := by
    have hpow : n ≤ 10 ^ (n.log2 / 3 + 1) :=
      calc n
        _ ≤ 2 ^ (n.log2 + 1) := Nat.lt_log2_self.le
        _ ≤ 2 ^ (3 * (n.log2 / 3 + 1)) := Nat.pow_le_pow_right (by decide) (by omega)
        _ = 8 ^ (n.log2 / 3 + 1) := Nat.pow_mul 2 3 _
        _ ≤ 10 ^ (n.log2 / 3 + 1) := Nat.pow_le_pow_left (by decide) _
    exact_mod_cast hpow
  have hgap : (10 : ℚ) ^ (-331 : ℤ) < 2 ^ (-1075 : ℤ) := by
    rw [zpow_neg, zpow_neg]
    refine inv_strictAnti₀ (by positivity) ?_
    exact_mod_cast (by decide +kernel : 2 ^ 1075 < 10 ^ 331)
  calc (n : ℚ) * 10 ^ k
    _ ≤ 10 ^ (n.log2 / 3 + 1) * 10 ^ k := by gcongr
    _ = 10 ^ ((n.log2 / 3 + 1 : Nat) + k) := by
      rw [← zpow_natCast, ← zpow_add₀ (by norm_num : (10 : ℚ) ≠ 0)]
    _ ≤ 10 ^ (-331 : ℤ) := zpow_le_zpow_right₀ (by norm_num) (by omega)
    _ < 2 ^ (-1075 : ℤ) := hgap

/-- A double is the nearest one to every decimal that it attracts. -/
theorem ofDecimal_of_attracts (negative : Bool) {n : Nat} {k : ℤ}
    (h : Attracts exponent fraction (n * 10 ^ k)) (hs : significand exponent fraction ≠ 0) :
    ofDecimal negative n k = .finite negative exponent fraction := by
  have hn : n ≠ 0 := by
    rintro rfl
    simpa using h.pos hs
  obtain ⟨hlow, hhigh⟩ := h.bounds hs
  have hlarge : ¬310 < k := fun hk => hhigh.not_ge (le_decimal_of_large hn hk)
  have hsmall : ¬k + n.log2 / 3 + 1 < -330 := fun hk => hlow.not_gt (decimal_lt_of_small hk)
  rw [ofDecimal, if_neg hn, if_neg hlarge, if_neg hsmall]
  simp only [Nat.pow_eq]
  refine ofRatio_of_attracts negative (by positivity) ?_ hs
  rw [← pow_toNat_div (by norm_num : (10 : ℚ) ≠ 0) k, ← mul_div_assoc] at h
  exact_mod_cast h

/-- The value of a literal, its sign aside. -/
def Decimal.magnitude (d : Decimal) : ℚ := d.scaled.1 * 10 ^ d.scaled.2

theorem Decimal.value_of_attracts {d : Decimal} (h : Attracts exponent fraction d.magnitude)
    (hs : significand exponent fraction ≠ 0) : d.value = .finite d.negative exponent fraction :=
  ofDecimal_of_attracts d.negative h hs

theorem Decimal.value_of_magnitude_eq_zero {d : Decimal} (h : d.magnitude = 0) :
    d.value = .zero d.negative := by
  have hzero : d.scaled.1 = 0 := by
    rcases mul_eq_zero.1 h with h | h
    · exact_mod_cast h
    · exact absurd h (by positivity)
  rw [value, ofDecimal, if_pos hzero]

end

end SellerApi.Number
