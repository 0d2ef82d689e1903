/-! # Base64

Three octets as four characters of the standard alphabet, the last group filled up with `=`. -/

namespace SellerApi.Text.Base64

/-- The alphabet, in the order of its values. -/
def alphabet : List Char :=
  "ABCDEFGHIJKLMNOPQRSTUVWXYZabcdefghijklmnopqrstuvwxyz0123456789+/".toList

/-- The character of a value below 64. -/
def letter (n : Nat) : Char := alphabet.getD (n % 64) 'A'

def encode : List UInt8 → List Char
  | [] => []
  | [a] =>
    let n := a.toNat * 0x10
    [letter (n / 0x40), letter n, '=', '=']
  | [a, b] =>
    let n := (a.toNat * 0x100 + b.toNat) * 4
    [letter (n / 0x1000), letter (n / 0x40), letter n, '=']
  | a :: b :: c :: rest =>
    let n := a.toNat * 0x10000 + b.toNat * 0x100 + c.toNat
    letter (n / 0x40000) :: letter (n / 0x1000) :: letter (n / 0x40) :: letter n :: encode rest

end SellerApi.Text.Base64
