import SellerApi.Text.Hex
import SellerApi.Text.Integer
import SellerApi.Text.Pieces

/-! # Network addresses

Hosts that are numbers. A short address of four octets may have fewer parts, the last one standing
for the octets left, and parts may be hexadecimal or octal. A long address has eight groups of
four hexadecimal digits; `::` stands for one or more groups of zeros. -/

namespace SellerApi.Url

open SellerApi.Text

/-- The value of digits of a base; `none` when one is no such digit. -/
def readBase? (base : Nat) (cs : List Char) : Option Nat :=
  cs.foldlM (fun n c => ((Hex.value? c).filter (· < base)).map (base * n + ·)) 0

/-- One part of a short address: `0x` starts hexadecimal digits, `0` octal ones. -/
def readPart? : List Char → Option Nat
  | [] => none
  | '0' :: 'x' :: cs | '0' :: 'X' :: cs => readBase? 16 cs
  | '0' :: c :: cs => readBase? 8 (c :: cs)
  | cs => readBase? 10 cs

/-- The parts between dots; a dot at the end does not count. -/
def addressParts (cs : List Char) : List (List Char) :=
  let parts := splitAt '.' cs
  if parts.getLast? = some [] then parts.dropLast else parts

/-- Whether a host name ends like a number and so has to be a short address. -/
def endsInNumber (cs : List Char) : Bool :=
  match (addressParts cs).getLast? with
  | none => false
  | some part => (part ≠ [] && part.all isAsciiDigit) || (readPart? part).isSome

/-- The address that a host name stands for. -/
def readAddress4? (cs : List Char) : Option Nat := do
  let numbers ← (addressParts cs).mapM readPart?
  let last ← numbers.getLast?
  let firsts := numbers.dropLast
  if 3 < firsts.length || Nat.pow 256 (4 - firsts.length) ≤ last || firsts.any (255 < ·) then none
  else return firsts.zipIdx.foldl (fun sum (n, i) => sum + n * Nat.pow 256 (3 - i)) last

/-- Four numbers with dots between them. -/
def writeAddress4 (n : Nat) : List Char :=
  joinWith '.' ([n / 0x100_0000, n / 0x1_0000 % 256, n / 0x100 % 256, n % 256].map fun p =>
    (natText p).toList)

/-- A decimal octet without a leading zero. -/
def readOctet? (cs : List Char) : Option Nat :=
  if cs.length ≤ 3 ∧ (cs.head? = some '0' → cs.length = 1) then (readNat? cs).filter (· < 256)
  else none

/-- Four decimal octets as two groups. -/
def readQuad? (cs : List Char) : Option (List Nat) :=
  match (splitAt '.' cs).mapM readOctet? with
  | some [a, b, c, d] => some [256 * a + b, 256 * c + d]
  | _ => none

/-- A group of one to four hexadecimal digits. -/
def readGroup? (cs : List Char) : Option Nat :=
  if cs ≠ [] ∧ cs.length ≤ 4 then readBase? 16 cs else none

/-- Groups with colons between them; the last may be four decimal octets. -/
def readGroups? : List (List Char) → Option (List Nat)
  | [] => some []
  | [part] => if part.contains '.' then readQuad? part else (readGroup? part).map fun g => [g]
  | part :: parts => do
    let g ← readGroup? part
    let gs ← readGroups? parts
    return g :: gs

/-- A text before and behind the first `::`. -/
def splitGap : List Char → Option (List Char × List Char)
  | [] => none
  | ':' :: ':' :: rest => some ([], rest)
  | c :: cs => (splitGap cs).map fun (before, after) => (c :: before, after)

/-- The groups of a text that may be empty. -/
def readSide? (cs : List Char) : Option (List Nat) :=
  if cs = [] then some [] else readGroups? (splitAt ':' cs)

/-- The eight groups of a long address. -/
def readAddress6? (cs : List Char) : Option (List Nat) :=
  match splitGap cs with
  | none => (readSide? cs).filter (·.length = 8)
  | some (before, after) => do
    if before.contains '.' then none
    let before ← readSide? before
    let after ← readSide? after
    let size := before.length + after.length
    if 7 < size then none
    else return before ++ List.replicate (8 - size) 0 ++ after

/-- The length of the run of zeros in front. -/
def zerosAhead : List Nat → Nat
  | 0 :: gs => zerosAhead gs + 1
  | _ => 0

/-- The place and length of the first longest run of zeros. -/
def longestZeros (groups : List Nat) : Nat × Nat :=
  (List.range groups.length).foldl (fun best i =>
    let n := zerosAhead (groups.drop i)
    if best.2 < n then (i, n) else best) (0, 0)

def writeGroups (groups : List Nat) : List Char := joinWith ':' (groups.map Hex.ofNat)

/-- A long address; its first longest run of at least two zeros is written `::`. -/
def writeAddress6 (groups : List Nat) : List Char :=
  let (start, length) := longestZeros groups
  if length < 2 then writeGroups groups
  else writeGroups (groups.take start) ++ ':' :: ':' :: writeGroups (groups.drop (start + length))

end SellerApi.Url
