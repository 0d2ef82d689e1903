import SellerApi.Number.Rounding

/-! # Double-precision numbers

`Binary64` holds the values of the 64-bit binary interchange format, field by field, so that each
value has one form (all not-a-numbers are one). Arithmetic is exact on natural numbers and rounded
once, to the nearest value and halfway to the even one. -/

namespace SellerApi.Number

/-- A value of the 64-bit binary interchange format. Its fraction has 52 binary digits. -/
inductive Binary64 where
  /-- A finite value by its sign, its biased exponent and the digits after the leading one. -/
  | finite (negative : Bool) (exponent : Fin 2047) (fraction : Fin 0x10_0000_0000_0000)
  | infinite (negative : Bool)
  | nan
  deriving DecidableEq, Repr

namespace Binary64

/-- Zero with a sign. -/
def zero (negative : Bool) : Binary64 :=
  .finite negative ⟨0, by decide⟩ ⟨0, by decide⟩

/-- The whole number that a finite value is a power of two times. -/
def significand (exponent fraction : Nat) : Nat :=
  if exponent = 0 then fraction else 0x10_0000_0000_0000 + fraction

/-- The exponent of the power of two that the significand is times. -/
def scale (exponent : Nat) : Int :=
  if exponent = 0 then -1074 else (exponent : Int) - 1075

/-- The value `m · 2 ^ e` for a significand of at most 53 binary digits, or one more than all of
them; infinite when the exponent is too large. -/
def ofScaled (negative : Bool) (m : Nat) (e : Int) : Binary64 :=
  if m < 0x10_0000_0000_0000 then .finite negative ⟨0, by decide⟩ (Fin.ofNat _ m)
  else
    let (m, e) := if m < 0x20_0000_0000_0000 then (m, e) else (0x10_0000_0000_0000, e + 1)
    if h : (e + 1075).toNat < 2047 then
      .finite negative ⟨(e + 1075).toNat, h⟩ (Fin.ofNat _ (m - 0x10_0000_0000_0000))
    else .infinite negative

/-- The exponent at which the quotient has 53 binary digits before the point, or the least
exponent of the format. -/
def scaleOfRatio (num den : Nat) : Int :=
  let guess : Int := (num.log2 : Int) - den.log2 - 52
  let q := num * Nat.pow 2 (-guess).toNat / (den * Nat.pow 2 guess.toNat)
  max (if q < 0x10_0000_0000_0000 then guess - 1 else guess) (-1074)

/-- The value nearest to `num / den`. -/
def ofRatio (negative : Bool) (num den : Nat) : Binary64 :=
  if num = 0 then zero negative
  else
    let e := scaleOfRatio num den
    ofScaled negative (divEven (num * Nat.pow 2 (-e).toNat) (den * Nat.pow 2 e.toNat)) e

/-- The value nearest to a natural number. -/
def ofNat (negative : Bool) (n : Nat) : Binary64 := ofRatio negative n 1

/-- The value nearest to `n · 10 ^ k`. The two outer cases are those whose magnitude alone makes
the value infinite or zero. -/
def ofDecimal (negative : Bool) (n : Nat) (k : Int) : Binary64 :=
  if n = 0 then zero negative
  else if 310 < k then .infinite negative
  else if k + n.log2 / 3 + 1 < -330 then zero negative
  else ofRatio negative (n * Nat.pow 10 k.toNat) (Nat.pow 10 (-k).toNat)

/-- A finite value without its sign as a quotient. -/
def ratio (exponent fraction : Nat) : Nat × Nat :=
  let e := scale exponent
  (significand exponent fraction * Nat.pow 2 e.toNat, Nat.pow 2 (-e).toNat)

/-- A finite value times ten to a power, rounded. -/
def timesPowerOfTen (x : Binary64) (k : Nat) : Binary64 :=
  match x, ofDecimal false 1 k with
  | .finite s e f, .finite _ e' f' =>
    let (n, d) := ratio e f
    let (n', d') := ratio e' f'
    ofRatio s (n * n') (d * d')
  | x, _ => x

/-- A finite value divided by ten to a power, rounded. -/
def overPowerOfTen (x : Binary64) (k : Nat) : Binary64 :=
  match x, ofDecimal false 1 k with
  | .finite s e f, .finite _ e' f' =>
    let (n, d) := ratio e f
    let (n', d') := ratio e' f'
    ofRatio s (n * d') (d * n')
  | x, _ => x

/-- The same value with its sign turned if asked. -/
def negateIf (negative : Bool) : Binary64 → Binary64
  | .finite s e f => .finite (s != negative) e f
  | .infinite s => .infinite (s != negative)
  | .nan => .nan

def isFinite : Binary64 → Bool
  | .finite .. => true
  | _ => false

def isZero : Binary64 → Bool
  | .finite _ e f => e.val == 0 && f.val == 0
  | _ => false

/-- The integer that a finite value is, if it is one. -/
def whole? : Binary64 → Option Int
  | .finite s e f =>
    let (n, d) := ratio e f
    if n % d = 0 then some (if s then -(n / d : Int) else (n / d : Int)) else none
  | _ => none

/-- The sign in front of the other 63 bits. -/
def signBit (negative : Bool) : Nat := if negative then 0x8000_0000_0000_0000 else 0

/-- The word of the interchange format; `none` for the values that are not numbers. -/
def bits? : Binary64 → Option Nat
  | .finite s e f => some (signBit s + e.val * 0x10_0000_0000_0000 + f.val)
  | .infinite s => some (signBit s + 2047 * 0x10_0000_0000_0000)
  | .nan => none

end Binary64
end SellerApi.Number
