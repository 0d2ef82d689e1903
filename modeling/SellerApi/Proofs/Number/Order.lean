import Mathlib.Order.Monotone.Basic
import SellerApi.Proofs.Number.Rounding

/-! # Doubles in order

The finite doubles stand in a row without gaps, the two zeros on one place (`ladder`, `place`), and
neighbours differ in their last binary digit. So what a double attracts is nearer to it than to any
other double, or as near and the double is even (`isNearest_of_attracts`), and of all doubles only
one value is nearest to a number (`IsNearest.toRat_eq`). -/

namespace SellerApi.Number.Binary64

/-- The value of a finite double. -/
def toRat : Binary64 → ℚ
  | .finite negative exponent fraction =>
    if negative then -magnitude exponent fraction else magnitude exponent fraction
  | _ => 0

/-- Whether the last binary digit is zero. -/
def isEven : Binary64 → Bool
  | .finite _ _ fraction => fraction.val % 2 = 0
  | _ => false

/-- The finite double nearest to a number: no other one is nearer, and if one is as near, then this
one is even. -/
structure IsNearest (x : Binary64) (q : ℚ) : Prop where
  finite : x.isFinite = true
  near : ∀ y : Binary64, y.isFinite = true → |x.toRat - q| ≤ |y.toRat - q|
  even : ∀ y : Binary64, y.isFinite = true → y.toRat ≠ x.toRat →
    |y.toRat - q| = |x.toRat - q| → x.isEven = true

/-! ## Places -/

/-- The value at a place of the row, counted from zero upwards. -/
def rung (i : Nat) : ℚ := magnitude (i / 2 ^ 52) (i % 2 ^ 52)

theorem rung_zero : rung 0 = 0 := by simp [rung, magnitude, significand]

theorem rung_of_fields (exponent : Nat) {fraction : Nat} (h : fraction < 2 ^ 52) :
    rung (exponent * 2 ^ 52 + fraction) = magnitude exponent fraction := by
  rw [rung, show (exponent * 2 ^ 52 + fraction) / 2 ^ 52 = exponent by omega,
    show (exponent * 2 ^ 52 + fraction) % 2 ^ 52 = fraction by omega]

/-- The next place is one unit of the last binary digit above. -/
theorem rung_succ (i : Nat) : rung (i + 1) = rung i + 2 ^ scale (i / 2 ^ 52) := by
  by_cases hcarry : i % 2 ^ 52 = 2 ^ 52 - 1
  · rw [rung, rung, show (i + 1) / 2 ^ 52 = i / 2 ^ 52 + 1 by omega,
      show (i + 1) % 2 ^ 52 = 0 by omega, hcarry]
    by_cases hzero : i / 2 ^ 52 = 0
    · rw [hzero, magnitude, magnitude, significand, significand, scale, scale, if_neg (by omega),
        if_pos rfl, if_neg (by omega), if_pos rfl, show ((0 + 1 : Nat) : ℤ) - 1075 = -1074 by omega]
      generalize (2 : ℚ) ^ (-1074 : ℤ) = least
      norm_num
      ring
    · rw [magnitude, magnitude, significand, significand, scale, scale, if_neg (by omega),
        if_neg hzero, if_neg (by omega), if_neg hzero,
        show ((i / 2 ^ 52 + 1 : Nat) : ℤ) - 1075 = ((i / 2 ^ 52 : Nat) : ℤ) - 1075 + 1 by omega,
        zpow_add_one₀ two_ne_zero]
      norm_num
      ring
  · rw [rung, rung, show (i + 1) / 2 ^ 52 = i / 2 ^ 52 by omega,
      show (i + 1) % 2 ^ 52 = i % 2 ^ 52 + 1 by omega, magnitude, magnitude]
    have hstep : significand (i / 2 ^ 52) (i % 2 ^ 52 + 1) =
        significand (i / 2 ^ 52) (i % 2 ^ 52) + 1 := by
      unfold significand
      split <;> omega
    rw [hstep]
    push_cast
    ring

theorem strictMono_rung : StrictMono rung :=
  strictMono_nat_of_lt_succ fun i => by
    rw [rung_succ]
    exact lt_add_of_pos_right _ (by positivity)

/-- The value at a place of the whole row. -/
def ladder (i : ℤ) : ℚ := if i < 0 then -rung i.natAbs else rung i.natAbs

theorem ladder_natCast (n : Nat) : ladder n = rung n := by
  rw [ladder, if_neg (by omega), Int.natAbs_natCast]

theorem ladder_neg (i : ℤ) : ladder (-i) = -ladder i := by
  unfold ladder
  rw [Int.natAbs_neg]
  rcases lt_trichotomy i 0 with h | rfl | h
  · rw [if_neg (by omega), if_pos h, neg_neg]
  · simp [rung_zero]
  · rw [if_pos (by omega), if_neg (by omega)]

theorem ladder_lt {i j : ℤ} (h : i < j) : ladder i < ladder j := by
  have hup : ∀ n : Nat, ladder n < ladder (n + 1) := fun n => by
    rw [← Nat.cast_succ, ladder_natCast, ladder_natCast]
    exact strictMono_rung n.lt_succ_self
  refine strictMono_int_of_lt_succ (fun i => ?_) h
  obtain ⟨n, rfl | rfl⟩ := i.eq_nat_or_neg
  · exact hup n
  · cases n with
    | zero => exact hup 0
    | succ n =>
      rw [show -((n + 1 : Nat) : ℤ) + 1 = -(n : ℤ) by omega, ladder_neg, ladder_neg, Nat.cast_succ]
      exact neg_lt_neg (hup n)

theorem ladder_le {i j : ℤ} (h : i ≤ j) : ladder i ≤ ladder j := by
  rcases Int.lt_or_eq_of_le h with h | rfl
  · exact (ladder_lt h).le
  · exact le_rfl

/-- The place of a finite double. -/
def place : Binary64 → ℤ
  | .finite negative exponent fraction =>
    if negative then -(exponent.val * 2 ^ 52 + fraction.val : Nat)
    else (exponent.val * 2 ^ 52 + fraction.val : Nat)
  | _ => 0

variable {x y : Binary64} {q : ℚ}

theorem ladder_place (hx : x.isFinite = true) : ladder x.place = x.toRat := by
  cases x with
  | finite negative exponent fraction =>
    cases negative with
    | false =>
      rw [place, if_neg Bool.false_ne_true, ladder_natCast, rung_of_fields _ fraction.isLt]
      rfl
    | true =>
      rw [place, if_pos rfl, ladder_neg, ladder_natCast, rung_of_fields _ fraction.isLt]
      rfl
  | infinite | nan => contradiction

theorem isEven_iff (hx : x.isFinite = true) : x.isEven = true ↔ x.place % 2 = 0 := by
  cases x with
  | finite negative exponent fraction =>
    cases negative <;> simp [isEven, place] <;> omega
  | infinite | nan => contradiction

theorem natAbs_place_lt (hx : x.isFinite = true) : x.place.natAbs < 2047 * 2 ^ 52 := by
  cases x with
  | finite negative exponent fraction =>
    have hexponent := exponent.isLt
    have hfraction := fraction.isLt
    cases negative <;> simp [place] <;> omega
  | infinite | nan => contradiction

/-- No place up to the greatest double is empty. -/
theorem exists_place {i : ℤ} (hi : i.natAbs < 2047 * 2 ^ 52) :
    ∃ x : Binary64, x.isFinite = true ∧ x.place = i := by
  have hfields (negative : Bool) {n : Nat} (hn : n < 2047 * 2 ^ 52) : ∃ x : Binary64,
      x.isFinite = true ∧ x.place = if negative then -(n : ℤ) else n :=
    ⟨.finite negative ⟨n / 2 ^ 52, by omega⟩ ⟨n % 2 ^ 52, by omega⟩, rfl, by
      rw [place, Nat.div_add_mod']⟩
  obtain ⟨n, rfl | rfl⟩ := i.eq_nat_or_neg
  · exact hfields false (by omega)
  · exact hfields true (by omega)

/-! ## The nearest place -/

/-- The place whose value is nearest to a number; if another one's is as near, it is even. -/
structure NearestPlace (i : ℤ) (q : ℚ) : Prop where
  near : ∀ j, |ladder i - q| ≤ |ladder j - q|
  even : ∀ j, j ≠ i → |ladder j - q| = |ladder i - q| → i % 2 = 0

variable {i : ℤ}

theorem NearestPlace.neg (h : NearestPlace i q) : NearestPlace (-i) (-q) := by
  have hflip : ∀ j, |ladder (-j) - -q| = |ladder j - q| := fun j => by
    rw [ladder_neg, neg_sub_neg, abs_sub_comm]
  refine ⟨fun j => ?_, fun j hj hequal => ?_⟩
  · have := h.near (-j)
    rwa [← hflip i, ← hflip (-j), neg_neg] at this
  · have := h.even (-j) (by omega)
    rw [← hflip i, ← hflip (-j), neg_neg] at this
    have := this hequal
    omega

/-- Which of two numbers is nearer to a third one is decided by the middle between them. -/
theorem abs_sub_le_abs_sub_iff {a b : ℚ} (h : a < b) : |b - q| ≤ |a - q| ↔ a + b ≤ 2 * q := by
  have hsquares : (a - q) ^ 2 - (b - q) ^ 2 = (b - a) * (2 * q - (a + b)) := by ring
  rw [← sq_le_sq, ← sub_nonneg, hsquares, mul_nonneg_iff_of_pos_left (sub_pos.2 h), sub_nonneg]

theorem abs_sub_le_abs_sub_iff' {a b : ℚ} (h : a < b) : |a - q| ≤ |b - q| ↔ 2 * q ≤ a + b := by
  have hsquares : (b - q) ^ 2 - (a - q) ^ 2 = (b - a) * (a + b - 2 * q) := by ring
  rw [← sq_le_sq, ← sub_nonneg, hsquares, mul_nonneg_iff_of_pos_left (sub_pos.2 h), sub_nonneg]

/-- A number between the midpoints to the two neighbours. -/
theorem nearestPlace_of_between (hlow : ladder (i - 1) + ladder i ≤ 2 * q)
    (hhigh : 2 * q ≤ ladder i + ladder (i + 1))
    (hinside : i % 2 = 1 → ladder (i - 1) + ladder i < 2 * q ∧ 2 * q < ladder i + ladder (i + 1)) :
    NearestPlace i q := by
  -- what lies beyond a neighbour is not nearer than the neighbour
  have hbelow : ∀ j < i, ladder j ≤ ladder (i - 1) := fun j hj => ladder_le (by omega)
  have habove : ∀ j > i, ladder (i + 1) ≤ ladder j := fun j hj => ladder_le (by omega)
  refine ⟨fun j => ?_, fun j hj hequal => ?_⟩
  · rcases lt_trichotomy j i with hj | rfl | hj
    · rw [abs_sub_le_abs_sub_iff (ladder_lt hj)]
      linarith [hbelow j hj]
    · exact le_rfl
    · rw [abs_sub_le_abs_sub_iff' (ladder_lt hj)]
      linarith [habove j hj]
  · by_contra hodd
    obtain ⟨hlow, hhigh⟩ := hinside (by omega)
    rcases lt_or_gt_of_ne hj with hj | hj
    · have hmiddle := (abs_sub_le_abs_sub_iff' (ladder_lt hj)).1 hequal.le
      linarith [hbelow j hj]
    · have hmiddle := (abs_sub_le_abs_sub_iff (ladder_lt hj)).1 hequal.le
      linarith [habove j hj]

/-- The gap below a place is twice what its double reaches downwards. -/
theorem ladder_pred (exponent : Nat) {fraction : Nat} (hfraction : fraction < 2 ^ 52) :
    ladder ((exponent * 2 ^ 52 + fraction : Nat) - 1) =
      (significand exponent fraction - 2 * reach exponent fraction) * 2 ^ scale exponent := by
  rcases hplace : exponent * 2 ^ 52 + fraction with _ | m
  · obtain ⟨rfl, rfl⟩ : exponent = 0 ∧ fraction = 0 := by omega
    rw [show ((0 : Nat) : ℤ) - 1 = -((0 + 1 : Nat) : ℤ) by rfl, ladder_neg, ladder_natCast,
      rung_succ, rung_zero, zero_add, significand, if_pos rfl, reach, if_neg (by omega)]
    norm_num
  have hvalue := rung_of_fields exponent hfraction
  rw [hplace, rung_succ, magnitude] at hvalue
  have hgap : (2 : ℚ) ^ scale (m / 2 ^ 52) = 2 * reach exponent fraction * 2 ^ scale exponent := by
    by_cases hzero : fraction = 0
    · rw [show m / 2 ^ 52 = exponent - 1 by omega]
      by_cases hone : exponent = 1
      · rw [hone, reach, if_neg (by omega), scale, scale, if_pos rfl, if_neg (by omega),
          show ((1 : Nat) : ℤ) - 1075 = -1074 by rfl]
        ring
      · rw [reach, if_pos ⟨hzero, by omega⟩, scale, scale, if_neg (by omega), if_neg (by omega),
          show (exponent : ℤ) - 1075 = ((exponent - 1 : Nat) : ℤ) - 1075 + 1 by omega,
          zpow_add_one₀ two_ne_zero]
        ring
    · rw [show m / 2 ^ 52 = exponent by omega, reach, if_neg (by omega)]
      ring
  rw [show ((m + 1 : Nat) : ℤ) - 1 = m by omega, ladder_natCast]
  linarith

theorem nearestPlace_of_attracts {exponent fraction : Nat} (hfraction : fraction < 2 ^ 52)
    (h : Attracts exponent fraction q) :
    NearestPlace (exponent * 2 ^ 52 + fraction : Nat) q := by
  have hbelow := ladder_pred exponent hfraction
  have hat : ladder (exponent * 2 ^ 52 + fraction : Nat) =
      significand exponent fraction * 2 ^ scale exponent := by
    rw [ladder_natCast, rung_of_fields _ hfraction, magnitude]
  have habove : ladder ((exponent * 2 ^ 52 + fraction : Nat) + 1) =
      (significand exponent fraction + 1) * 2 ^ scale exponent := by
    rw [← Nat.cast_succ, ladder_natCast, rung_succ, rung_of_fields _ hfraction, magnitude,
      show (exponent * 2 ^ 52 + fraction) / 2 ^ 52 = exponent by omega]
    ring
  refine nearestPlace_of_between ?_ ?_ fun hodd => ?_
  · rw [hbelow, hat]
    linarith [h.low]
  · rw [hat, habove]
    linarith [h.high]
  · obtain ⟨hlow, hhigh⟩ := h.inside (by omega)
    rw [hbelow, hat, habove]
    constructor <;> linarith

/-! ## The nearest double -/

/-- A double is the nearest one to what it attracts, on either side of zero. -/
theorem isNearest_of_attracts {negative : Bool} {exponent : Fin 2047}
    {fraction : Fin 0x10_0000_0000_0000} (h : Attracts exponent fraction |q|)
    (hsign : q = if negative then -|q| else |q|) :
    (Binary64.finite negative exponent fraction).IsNearest q := by
  have hfinite : (Binary64.finite negative exponent fraction).isFinite = true := rfl
  have hplace : NearestPlace (Binary64.finite negative exponent fraction).place q := by
    have hup := nearestPlace_of_attracts fraction.isLt h
    cases negative with
    | false =>
      rw [if_neg Bool.false_ne_true] at hsign
      rwa [hsign, place, if_neg Bool.false_ne_true]
    | true =>
      rw [if_pos rfl] at hsign
      rw [hsign, place, if_pos rfl]
      exact hup.neg
  refine ⟨hfinite, fun y hy => ?_, fun y hy hne hequal => ?_⟩
  · rw [← ladder_place hfinite, ← ladder_place hy]
    exact hplace.near _
  · rw [← ladder_place hfinite, ← ladder_place hy] at hequal hne
    exact (isEven_iff hfinite).2 (hplace.even _ (fun he => hne (congrArg ladder he)) hequal)

/-- Only one value is nearest: between two even doubles that are equally near lies a third one. -/
theorem IsNearest.toRat_eq (hx : x.IsNearest q) (hy : y.IsNearest q) : x.toRat = y.toRat := by
  have hequal : |x.toRat - q| = |y.toRat - q| :=
    le_antisymm (hx.near y hy.finite) (hy.near x hx.finite)
  by_contra hne
  have hevenx := (isEven_iff hx.finite).1 (hx.even y hy.finite (Ne.symm hne) hequal.symm)
  have heveny := (isEven_iff hy.finite).1 (hy.even x hx.finite hne hequal)
  wlog hlt : x.place < y.place generalizing x y
  · refine this hy hx hequal.symm (Ne.symm hne) heveny hevenx (lt_of_le_of_ne (not_lt.1 hlt) ?_)
    intro he
    rw [← ladder_place hx.finite, ← ladder_place hy.finite, he] at hne
    exact hne rfl
  have hrangex := natAbs_place_lt hx.finite
  have hrangey := natAbs_place_lt hy.finite
  obtain ⟨z, hz, hplace⟩ := exists_place (i := x.place + 1) (by omega)
  have hfirst : x.toRat < z.toRat := by
    rw [← ladder_place hx.finite, ← ladder_place hz, hplace]
    exact ladder_lt (by omega)
  have hsecond : z.toRat < y.toRat := by
    rw [← ladder_place hy.finite, ← ladder_place hz, hplace]
    exact ladder_lt (by omega)
  have hmiddle := (abs_sub_le_abs_sub_iff (hfirst.trans hsecond)).1 hequal.ge
  have hnearer := (abs_sub_le_abs_sub_iff' hfirst).1 (hx.near z hz)
  linarith

/-- No number that is at least `2 ^ 63` away from zero is rounded to one that is not. -/
theorem IsNearest.le_abs (h : x.IsNearest q) (hq : 2 ^ 63 ≤ |q|) : 2 ^ 63 ≤ |x.toRat| := by
  have hpower (negative : Bool) : (Binary64.finite negative ⟨1086, by decide⟩ 0).toRat =
      if negative then -2 ^ 63 else 2 ^ 63 := by
    norm_num [toRat, magnitude, significand, scale]
  by_contra hless
  obtain ⟨hlow, hhigh⟩ := abs_lt.1 (not_le.1 hless)
  rcases le_total 0 q with hpositive | hnegative
  · rw [abs_of_nonneg hpositive] at hq
    have hnear := h.near (.finite false ⟨1086, by decide⟩ 0) rfl
    rw [hpower, if_neg Bool.false_ne_true, abs_sub_le_abs_sub_iff' hhigh] at hnear
    linarith
  · rw [abs_of_nonpos hnegative] at hq
    have hnear := h.near (.finite true ⟨1086, by decide⟩ 0) rfl
    rw [hpower, if_pos rfl, abs_sub_le_abs_sub_iff hlow] at hnear
    linarith

/-! ## Whole doubles -/

theorem magnitude_nonneg (exponent fraction : Nat) : 0 ≤ magnitude exponent fraction := by
  unfold magnitude
  positivity

theorem magnitude_eq_natCast_iff {exponent fraction k : Nat} :
    magnitude exponent fraction = k ↔
      (ratio exponent fraction).1 % (ratio exponent fraction).2 = 0 ∧
        (ratio exponent fraction).1 / (ratio exponent fraction).2 = k := by
  have hden : 0 < (ratio exponent fraction).2 := by
    simp only [ratio, Nat.pow_eq]
    positivity
  rw [← ratio_eq, div_eq_iff (by positivity)]
  constructor
  · intro h
    have h : (ratio exponent fraction).1 = k * (ratio exponent fraction).2 := by exact_mod_cast h
    rw [h]
    exact ⟨Nat.mul_mod_left _ _, Nat.mul_div_cancel _ hden⟩
  · rintro ⟨hmod, rfl⟩
    exact_mod_cast (Nat.div_mul_cancel (Nat.dvd_of_mod_eq_zero hmod)).symm

/-- The integer of a double is its value. -/
theorem whole?_eq_some_iff {n : ℤ} : x.whole? = some n ↔ x.isFinite = true ∧ x.toRat = n := by
  cases x with
  | finite negative exponent fraction =>
    have hfinite : (Binary64.finite negative exponent fraction).isFinite = true := rfl
    rw [and_iff_right hfinite]
    by_cases hmod : (ratio exponent fraction).1 % (ratio exponent fraction).2 = 0
    · have hmagnitude := magnitude_eq_natCast_iff.2 ⟨hmod, rfl⟩
      have hwhole : (Binary64.finite negative exponent fraction).whole? =
          some (if negative then
            -(((ratio exponent fraction).1 / (ratio exponent fraction).2 : Nat) : ℤ)
          else ((ratio exponent fraction).1 / (ratio exponent fraction).2 : Nat)) := if_pos hmod
      rw [hwhole, Option.some.injEq, toRat, hmagnitude]
      cases negative with
      | false =>
        rw [if_neg Bool.false_ne_true, if_neg Bool.false_ne_true, ← Int.cast_natCast (R := ℚ),
          Int.cast_inj]
      | true =>
        rw [if_pos rfl, if_pos rfl, ← Int.cast_natCast (R := ℚ), ← Int.cast_neg, Int.cast_inj]
    · have hwhole : (Binary64.finite negative exponent fraction).whole? = none := if_neg hmod
      rw [hwhole]
      refine ⟨nofun, fun h => absurd ?_ hmod⟩
      have hmagnitude : magnitude exponent fraction = (n.natAbs : Nat) := by
        rw [Nat.cast_natAbs, Int.cast_abs, ← h, toRat]
        cases negative <;> simp [abs_of_nonneg, magnitude_nonneg]
      exact (magnitude_eq_natCast_iff.1 hmagnitude).1
  | infinite | nan => exact ⟨nofun, fun h => nomatch h.1⟩

end SellerApi.Number.Binary64
