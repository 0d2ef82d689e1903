import SellerApi.Number.Shortest

/-! # Doubles as text

A `FloatStyle` holds the decisions of an output format: which exponents are written positionally
and how the others look. The digits are always the shortest that read back. -/

namespace SellerApi.Number

/-- How a format writes doubles. -/
structure FloatStyle where
  /-- The least decimal exponent written positionally. -/
  lowest : Int
  /-- The greatest decimal exponent written positionally. -/
  highest : Int
  /-- Whether a single digit before an exponent is followed by `.0`. -/
  pointed : Bool
  /-- Whether a positive exponent has a `+`. -/
  plus : Bool

/-- Digits with the point where it belongs and at least one digit on each side of it. -/
def positional (d : Digits) : List Char :=
  if d.exponent < 0 then
    '0' :: '.' :: List.replicate (-d.exponent - 1).toNat '0' ++ d.digits
  else
    let whole := d.exponent.toNat + 1
    let tail := d.digits.drop whole
    d.digits.take whole ++ List.replicate (whole - d.digits.length) '0' ++
      '.' :: (if tail.isEmpty then ['0'] else tail)

/-- One digit, the others behind a point, and the exponent. -/
def scientific (style : FloatStyle) (d : Digits) : List Char :=
  let tail := d.digits.drop 1
  let tail := if tail.isEmpty && style.pointed then ['0'] else tail
  let sign := if d.exponent < 0 then ['-'] else if style.plus then ['+'] else []
  d.digits.take 1 ++ (if tail.isEmpty then [] else '.' :: tail) ++
    'e' :: sign ++ Nat.toDigits 10 d.exponent.natAbs

/-- The text of a finite double; `none` for the others. -/
def floatText? (style : FloatStyle) : Binary64 → Option (List Char)
  | .finite s e f =>
    let d := if e.val = 0 ∧ f.val = 0 then ⟨['0'], 0⟩ else shortest e f
    let text :=
      if style.lowest ≤ d.exponent ∧ d.exponent ≤ style.highest then positional d
      else scientific style d
    some (if s then '-' :: text else text)
  | _ => none

end SellerApi.Number
