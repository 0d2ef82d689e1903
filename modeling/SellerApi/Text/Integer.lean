import SellerApi.Text.Digit

/-! # Whole numbers as text

`readNat?` reads one or more ASCII digits, `readSigned?` the same after an optional sign. Nothing
else is a whole number: no blanks, no separators. -/

namespace SellerApi.Text

/-- The value of digits, appended to a value read before. -/
def digitsValueFrom (n : Nat) : List Char → Nat
  | [] => n
  | c :: cs => digitsValueFrom (10 * n + digitValue c) cs

/-- The value of digits. -/
def digitsValue (cs : List Char) : Nat := digitsValueFrom 0 cs

/-- One or more ASCII digits. -/
def readNat? (cs : List Char) : Option Nat :=
  if cs ≠ [] ∧ cs.all isAsciiDigit then some (digitsValue cs) else none

/-- One or more ASCII digits after an optional `+`. -/
def readPositive? : List Char → Option Nat
  | '+' :: cs => readNat? cs
  | cs => readNat? cs

/-- One or more ASCII digits after an optional sign. -/
def readSigned? : List Char → Option Int
  | '-' :: cs => (readNat? cs).map fun n => -(n : Int)
  | cs => (readPositive? cs).map fun n => (n : Int)

/-- One more than the greatest natural number of 32 bits. -/
abbrev bound32 : Nat := 0x1_0000_0000

/-- One more than the greatest natural number of 64 bits. -/
abbrev bound64 : Nat := 0x1_0000_0000_0000_0000

/-- The integers of 64-bit signed storage. -/
def isInt64 (n : Int) : Bool := -0x8000_0000_0000_0000 ≤ n && n < 0x8000_0000_0000_0000

/-- A signed whole number that fits 64 bits. -/
def readInt64? (cs : List Char) : Option Int := (readSigned? cs).filter isInt64

/-- An unsigned whole number below a bound. -/
def readBelow? (bound : Nat) (cs : List Char) : Option Nat :=
  (readPositive? cs).filter (· < bound)

/-- The decimal text of a natural number. -/
def natText (n : Nat) : String := Nat.repr n

/-- The decimal text of an integer. -/
def intText (n : Int) : String :=
  match n with
  | .ofNat n => natText n
  | .negSucc n => "-" ++ natText (n + 1)

end SellerApi.Text
