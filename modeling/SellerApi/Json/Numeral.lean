import SellerApi.Number.Binary64
import SellerApi.Text.Integer

/-! # Numbers in JSON text

A `Numeral` is a number as a document writes it, a `Number` what it stands for: an integer when it
is written as one and fits 64 bits, else a double. A double is computed from the first digits that
fit an unsigned 64-bit word and one power of ten at a time, so that a long numeral may come out a
neighbour of the nearest double. `Numeral.number?` refuses what is too large for a double. -/

namespace SellerApi.Json

open SellerApi.Number SellerApi.Text

/-- A number as written. -/
structure Numeral where
  negative : Bool
  /-- The digits before the point, at least one. -/
  whole : List Char
  /-- The digits after the point, if there is one. -/
  fraction : Option (List Char)
  /-- Whether the exponent is negative and its digits, if there is one. -/
  exponent : Option (Bool × List Char)
  deriving DecidableEq, Repr

/-- What a numeral stands for. -/
inductive Number where
  | int (n : Int)
  | float (x : Binary64)
  deriving DecidableEq, Repr

/-- The digits that a 64-bit word takes in after a value, the value then, their count, and the
digits left over. -/
def absorb (word : Nat) : List Char → Nat × Nat × List Char
  | [] => (word, 0, [])
  | c :: cs =>
    let next := 10 * word + digitValue c
    if next < bound64 then
      let (w, count, rest) := absorb next cs
      (w, count + 1, rest)
    else (word, 0, c :: cs)

/-- A double times ten to a power, in steps of at most 308; `none` beyond the largest double. The
steps are one per 308 of the exponent and end early at zero. -/
def scaleDown (x : Binary64) : (steps : Nat) → (k : Nat) → Binary64
  | 0, _ => x
  | steps + 1, k =>
    if k ≤ 308 then x.overPowerOfTen k
    else if x.isZero then x
    else scaleDown (x.overPowerOfTen 308) steps (k - 308)

/-- The double `word · 10 ^ k`, by one product or by quotients. -/
def floatOfParts? (negative : Bool) (word : Nat) (k : Int) : Option Binary64 :=
  let x := Binary64.ofNat false word
  let y :=
    if k < 0 then some (scaleDown x 8 (min k.natAbs 2200))
    else if 308 < k then (if x.isZero then some x else none)
    else
      let y := x.timesPowerOfTen k.toNat
      if y.isFinite then some y else none
  y.map (·.negateIf negative)

/-- The double that a numeral stands for. -/
def Numeral.float? (n : Numeral) : Option Binary64 :=
  let (word, _, skipped) := absorb 0 n.whole
  let (word, taken, _) := absorb word (n.fraction.getD [])
  let k : Int := (skipped.length : Int) - taken
  match n.exponent with
  | none => floatOfParts? n.negative word k
  | some (down, digits) =>
    let e := digitsValue digits
    if 0x8000_0000 ≤ e then
      if word ≠ 0 ∧ ¬down then none else some (.zero n.negative)
    else floatOfParts? n.negative word (if down then k - e else k + e)

/-- What a numeral stands for; `none` if it is too large for a double. -/
def Numeral.number? (n : Numeral) : Option Number :=
  if n.fraction.isNone && n.exponent.isNone then
    let value := digitsValue n.whole
    if ¬n.negative ∧ value < bound64 then some (.int value)
    else if n.negative ∧ 0 < value ∧ value ≤ 0x8000_0000_0000_0000 then some (.int (-value))
    else n.float?.map .float
  else n.float?.map .float

end SellerApi.Json
