import SellerApi.Text.Pieces
import SellerApi.Url.Percent
import SellerApi.Url.Punycode

/-! # Host names

A host name is brought into ASCII: letters become lowercase, and a label with other characters
becomes a Punycode label. Some characters cannot stand in a host name at all. -/

namespace SellerApi.Url

open SellerApi.Text

/-- The ASCII characters that no host name holds. -/
def isForbidden (c : Char) : Bool :=
  isControl c || " %#/:<>?@[\\]^|".toList.contains c

/-- A letter in lowercase, for the Latin, Greek and Cyrillic letters of two octets and for the
wide forms of ASCII characters, which become narrow. -/
def foldChar (c : Char) : List Char :=
  let n := c.toNat
  let code :=
    if 0x41 ≤ n ∧ n ≤ 0x5A then n + 32
    else if 0xC0 ≤ n ∧ n ≤ 0xDE ∧ n ≠ 0xD7 then n + 32
    else if (0x100 ≤ n ∧ n ≤ 0x137 ∧ n ≠ 0x130 ∧ n ≠ 0x131) ∨ (0x14A ≤ n ∧ n ≤ 0x177) then
      n / 2 * 2 + 1
    else if (0x139 ≤ n ∧ n ≤ 0x148) ∨ (0x179 ≤ n ∧ n ≤ 0x17E) then (n + 1) / 2 * 2
    else if 0x391 ≤ n ∧ n ≤ 0x3A9 then n + 32
    else if 0x410 ≤ n ∧ n ≤ 0x42F then n + 32
    else if 0x400 ≤ n ∧ n ≤ 0x40F then n + 80
    else if 0xFF21 ≤ n ∧ n ≤ 0xFF3A then n - 0xFF21 + 97
    else if 0xFF01 ≤ n ∧ n ≤ 0xFF5E then n - 0xFF01 + 33
    else if n = 0x3002 ∨ n = 0xFF61 then 0x2E
    else n
  if n = 0xAD ∨ n = 0x200B ∨ n = 0x2060 ∨ n = 0xFEFF then [] else [Char.ofNat code]

/-- One label in ASCII. A label that claims to be Punycode has to be. -/
def asciiLabel? (label : List Char) : Option (List Char) :=
  if label.all (·.toNat < 0x80) then
    match dropStart? "xn--".toList label with
    | some code =>
      match Punycode.decode? code with
      | some inner => if inner.any (0x80 ≤ ·.toNat) then some label else none
      | none => none
    | none => some label
  else some ("xn--".toList ++ Punycode.encode label)

/-- A host name in ASCII. -/
def asciiDomain? (cs : List Char) : Option (List Char) := do
  let folded := cs.flatMap foldChar
  if folded.any fun c => isForbidden c || c = '\uFFFD' then none
  let labels ← (splitAt '.' folded).mapM asciiLabel?
  return joinWith '.' labels

end SellerApi.Url
