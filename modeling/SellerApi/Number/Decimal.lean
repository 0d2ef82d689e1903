import SellerApi.Number.Binary64
import SellerApi.Text.Integer

/-! # Decimal numbers as text

`readDecimal?` reads a whole text as a number: an optional sign, then digits with an optional
point among or beside them and an optional exponent, or one of the words `inf`, `infinity` and
`nan` in any case. The result is the double nearest to what the text denotes. -/

namespace SellerApi.Number

open SellerApi.Text

/-- A decimal literal as written. -/
structure Decimal where
  negative : Bool
  whole : List Char
  fraction : List Char
  exponent : Int
  deriving DecidableEq, Repr

/-- The value that a literal denotes, as a whole number times a power of ten. -/
def Decimal.scaled (d : Decimal) : Nat × Int :=
  (digitsValue (d.whole ++ d.fraction), d.exponent - d.fraction.length)

/-- The double nearest to what a literal denotes. -/
def Decimal.value (d : Decimal) : Binary64 :=
  .ofDecimal d.negative d.scaled.1 d.scaled.2

/-- The optional exponent at the end of a literal. -/
def readExponent? : List Char → Option Int
  | [] => some 0
  | c :: cs => if c = 'e' ∨ c = 'E' then readSigned? cs else none

/-- The sign in front of a literal and what follows it. -/
def splitSign : List Char → Bool × List Char
  | '-' :: cs => (true, cs)
  | '+' :: cs => (false, cs)
  | cs => (false, cs)

/-- A literal of digits. -/
def readLiteral? (cs : List Char) : Option Decimal :=
  let (negative, cs) := splitSign cs
  let whole := cs.takeWhile isAsciiDigit
  let rest := cs.dropWhile isAsciiDigit
  let (fraction, rest) :=
    match rest with
    | '.' :: tail => (tail.takeWhile isAsciiDigit, tail.dropWhile isAsciiDigit)
    | rest => ([], rest)
  if whole.isEmpty && fraction.isEmpty then none
  else (readExponent? rest).map fun e => ⟨negative, whole, fraction, e⟩

/-- One of the words for a value without digits. -/
def readWord? (cs : List Char) : Option Binary64 :=
  let (negative, cs) := splitSign cs
  let word := String.ofList (cs.map Char.toLower)
  if word = "inf" ∨ word = "infinity" then some (.infinite negative)
  else if word = "nan" then some .nan
  else none

/-- The double that a text denotes. -/
def readDecimal? (cs : List Char) : Option Binary64 :=
  (readWord? cs).orElse fun _ => (readLiteral? cs).map Decimal.value

end SellerApi.Number
