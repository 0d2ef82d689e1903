import SellerApi.Number.Binary64

/-! # Shortest decimal digits

`shortest` gives a finite double the fewest decimal digits that still read back as it: of the
decimals with one digit, with two, and so on, the first that lies in the interval of reals which
round to the value; of two such, the nearer one, and of two equally near the even one. Seventeen
digits always suffice. -/

namespace SellerApi.Number

/-- A positive decimal `digits · 10 ^ (exponent + 1 - count of digits)`: its first digit stands
for `10 ^ exponent`. -/
structure Digits where
  digits : List Char
  exponent : Int
  deriving DecidableEq, Repr

/-- The reals that round to a positive double, all over one denominator: the value and the two
ends, which belong to it or not. -/
structure Basin where
  low : Nat
  value : Nat
  high : Nat
  den : Nat
  closed : Bool

/-- The reals that round to the double of these fields. The interval reaches halfway to each
neighbour; the lower neighbour of a power of two is nearer. -/
def Basin.of (exponent fraction : Nat) : Basin :=
  let (n, d) := Binary64.ratio exponent fraction
  let half := 2 * Nat.pow 2 (Binary64.scale exponent).toNat
  let below := if fraction = 0 ∧ 1 < exponent then half / 2 else half
  ⟨4 * n - below, 4 * n, 4 * n + half, 4 * d, fraction % 2 = 0⟩

/-- Whether `n / d` lies in the interval. -/
def Basin.has (b : Basin) (n d : Nat) : Bool :=
  let x := n * b.den
  if b.closed then b.low * d ≤ x && x ≤ b.high * d else b.low * d < x && x < b.high * d

/-- The exponent of the power of ten at the first digit of `num / den`. -/
def decimalExponent (num den : Nat) : Int :=
  let guess := (((num.log2 : Int) - den.log2 - 1) * 30103).fdiv 100000
  let reaches (k : Int) : Bool := den * Nat.pow 10 k.toNat ≤ num * Nat.pow 10 (-k).toNat
  if reaches (guess + 2) then guess + 2 else if reaches (guess + 1) then guess + 1 else guess

/-- The decimal on the grid of step `10 ^ k` that reads back as the value, if one does. -/
def Basin.onGrid? (b : Basin) (k : Int) : Option Nat :=
  let up := Nat.pow 10 k.toNat
  let down := Nat.pow 10 (-k).toNat
  let num := b.value * down
  let den := b.den * up
  let q := num / den
  let r := num % den
  match 0 < q && b.has (q * up) down, b.has ((q + 1) * up) down with
  | true, true =>
    some (if 2 * r < den then q else if den < 2 * r then q + 1 else q + q % 2)
  | true, false => some q
  | false, true => some (q + 1)
  | false, false => none

/-- The first grid of at most `count` more digits that holds a decimal which reads back. -/
def Basin.search (b : Basin) (exponent : Int) : (count : Nat) → (done : Nat) → Nat × Int
  | 0, done => (b.value / b.den, (done : Int))
  | count + 1, done =>
    let k := exponent - done
    match b.onGrid? k with
    | some q => (q, k)
    | none => b.search exponent count (done + 1)

/-- The fewest digits that read back as the double of these fields. -/
def shortest (exponent fraction : Nat) : Digits :=
  let b := Basin.of exponent fraction
  let (q, k) := b.search (decimalExponent b.value b.den) 18 0
  let digits := Nat.toDigits 10 q
  let kept := (digits.reverse.dropWhile (· == '0')).reverse
  ⟨kept, k + digits.length - 1⟩

end SellerApi.Number
