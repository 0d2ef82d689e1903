/-! # Rounding a quotient

`divEven` is the natural number nearest to a quotient, and of two equally near ones the even one.
`divEven_near` says that it is at most half a unit away. -/

namespace SellerApi.Number

/-- The natural number nearest to `num / den`; halfway between two, the even one. -/
def divEven (num den : Nat) : Nat :=
  let q := num / den
  let r := num % den
  if 2 * r < den then q
  else if den < 2 * r then q + 1
  else q + q % 2

/-- The rounded quotient is at most half a unit away from the exact one. -/
theorem divEven_near (num : Nat) {den : Nat} (hd : 0 < den) :
    2 * num ≤ 2 * (den * divEven num den) + den ∧
      2 * (den * divEven num den) ≤ 2 * num + den := by
  have hr : num % den < den := Nat.mod_lt _ hd
  have hn : den * (num / den) + num % den = num := Nat.div_add_mod num den
  unfold divEven
  simp only
  split
  · constructor <;> omega
  · split
    · rw [Nat.mul_add, Nat.mul_one]; constructor <;> omega
    · rcases Nat.mod_two_eq_zero_or_one (num / den) with h | h
      · rw [h, Nat.add_zero]; constructor <;> omega
      · rw [h, Nat.mul_add, Nat.mul_one]; constructor <;> omega

end SellerApi.Number
