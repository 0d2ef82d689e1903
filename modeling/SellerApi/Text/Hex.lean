/-! # Hexadecimal text

Octets and words as lowercase hexadecimal digits, two per octet, and back. -/

namespace SellerApi.Text.Hex

/-- The lowercase digit of a value below sixteen. -/
def digit (n : Nat) : Char :=
  if n < 10 then Char.ofNat (48 + n) else Char.ofNat (87 + n)

/-- The uppercase digit of a value below sixteen. -/
def upperDigit (n : Nat) : Char :=
  if n < 10 then Char.ofNat (48 + n) else Char.ofNat (55 + n)

/-- The value of a hexadecimal digit in either case. -/
def value? (c : Char) : Option Nat :=
  let n := c.toNat
  if 48 ≤ n ∧ n ≤ 57 then some (n - 48)
  else if 97 ≤ n ∧ n ≤ 102 then some (n - 87)
  else if 65 ≤ n ∧ n ≤ 70 then some (n - 55)
  else none

/-- A number in a fixed count of lowercase digits, its high digits first; what does not fit is
dropped. -/
def fixed : Nat → Nat → List Char
  | 0, _ => []
  | k + 1, n => fixed k (n / 16) ++ [digit (n % 16)]

/-- The digits of a number without leading zeros. -/
def ofNat (n : Nat) : List Char :=
  if n < 16 then [digit n] else ofNat (n / 16) ++ [digit (n % 16)]
termination_by n
decreasing_by omega

/-- Two lowercase digits per octet. -/
def encode : List UInt8 → List Char
  | [] => []
  | b :: bs => digit (b.toNat / 16) :: digit (b.toNat % 16) :: encode bs

/-- The octets that pairs of digits stand for; `none` for an odd count or another character. -/
def decode? : List Char → Option (List UInt8)
  | [] => some []
  | [_] => none
  | h :: l :: rest => do
    let h ← value? h
    let l ← value? l
    let bs ← decode? rest
    return (16 * h + l).toUInt8 :: bs

end SellerApi.Text.Hex
