import SellerApi.Text.Integer

/-! # Punycode

Labels of host names in ASCII. `encode?` writes the basic characters of a label, a dash, and where
the others belong; `decode?` reads such a label. -/

namespace SellerApi.Url.Punycode

/-- Divides a delta until it is small; every division moves the bias on by a digit. -/
def shrink : (fuel : Nat) → (delta k : Nat) → Nat
  | 0, delta, k => k + 36 * delta / (delta + 38)
  | fuel + 1, delta, k =>
    if 455 < delta then shrink fuel (delta / 35) (k + 36) else k + 36 * delta / (delta + 38)

/-- The bias after a delta, over so many characters. -/
def adapt (delta count : Nat) (first : Bool) : Nat :=
  let delta := if first then delta / 700 else delta / 2
  shrink 32 (delta + delta / count) 0

/-- The least digit that ends a number, at a position. -/
def threshold (k bias : Nat) : Nat := min 26 (max 1 (k - bias))

/-- A digit of base 36. -/
def digit (n : Nat) : Char := if n < 26 then Char.ofNat (97 + n) else Char.ofNat (22 + n)

def value? (c : Char) : Option Nat :=
  let n := c.toNat
  if 97 ≤ n ∧ n ≤ 122 then some (n - 97)
  else if 65 ≤ n ∧ n ≤ 90 then some (n - 65)
  else if 48 ≤ n ∧ n ≤ 57 then some (n - 22)
  else none

/-- A number in digits of varying weight, the least first. -/
def writeNumber (bias : Nat) : (fuel : Nat) → (k q : Nat) → List Char
  | 0, _, _ => []
  | fuel + 1, k, q =>
    let t := threshold k bias
    if q < t then [digit q]
    else digit (t + (q - t) % (36 - t)) :: writeNumber bias fuel (k + 36) ((q - t) / (36 - t))

/-- The state of a writer: the next code point, the delta so far, the bias, and the number of
characters written. -/
structure Pen where
  code : Nat
  delta : Nat
  bias : Nat
  count : Nat

/-- Writes the characters of one code point, wherever they stand. -/
def writeCode (basic m : Nat) : List Nat → Pen → List Char × Pen
  | [], pen => ([], pen)
  | c :: cs, pen =>
    if c < m then writeCode basic m cs { pen with delta := pen.delta + 1 }
    else if c = m then
      let digits := writeNumber pen.bias 40 36 pen.delta
      let bias := adapt pen.delta (pen.count + 1) (pen.count = basic)
      let (rest, last) := writeCode basic m cs { pen with delta := 0, bias, count := pen.count + 1 }
      (digits ++ rest, last)
    else writeCode basic m cs pen

/-- Writes the code points that are still to come, from the least up. -/
def writeCodes (codes : List Nat) (basic : Nat) : (fuel : Nat) → Pen → List Char
  | 0, _ => []
  | fuel + 1, pen =>
    match (codes.filter (pen.code ≤ ·)).min? with
    | none => []
    | some m =>
      let pen := { pen with delta := pen.delta + (m - pen.code) * (pen.count + 1), code := m }
      let (digits, pen) := writeCode basic m codes pen
      digits ++ writeCodes codes basic fuel { pen with delta := pen.delta + 1, code := m + 1 }

/-- A label in ASCII, without the mark that says so. -/
def encode (label : List Char) : List Char :=
  let basic := label.filter (·.toNat < 0x80)
  let start := if basic.isEmpty then [] else basic ++ ['-']
  start ++ writeCodes (label.map Char.toNat) basic.length (label.length + 1)
    ⟨0x80, 0, 72, basic.length⟩

/-- A number and what follows it. -/
def readNumber? (bias : Nat) : (k weight sum : Nat) → List Char → Option (Nat × List Char)
  | _, _, _, [] => none
  | k, weight, sum, c :: cs =>
    match value? c with
    | none => none
    | some d =>
      let sum := sum + d * weight
      let t := threshold k bias
      if Text.bound32 ≤ sum then none
      else if d < t then some (sum, cs)
      else readNumber? bias (k + 36) (weight * (36 - t)) sum cs

/-- Puts the characters that numbers stand for among those read before. -/
def readCodes? : (fuel : Nat) → (code i bias : Nat) → List Nat → List Char → Option (List Nat)
  | _, _, _, _, out, [] => some out
  | 0, _, _, _, _, _ :: _ => none
  | fuel + 1, code, i, bias, out, cs =>
    match readNumber? bias 36 1 0 cs with
    | none => none
    | some (delta, rest) =>
      let size := out.length + 1
      let place := i + delta
      let code := code + place / size
      let spot := place % size
      if 0x10FFFF < code ∨ (0xD800 ≤ code ∧ code ≤ 0xDFFF) then none
      else
        readCodes? fuel code (spot + 1) (adapt delta size (i = 0))
          (out.take spot ++ code :: out.drop spot) rest

/-- The label that ASCII text stands for. -/
def decode? (label : List Char) : Option (List Char) :=
  let tail := (label.reverse.takeWhile (· ≠ '-')).reverse
  let basic := (label.take (label.length - tail.length)).dropLast
  if basic.any (0x80 ≤ ·.toNat) then none
  else
    (readCodes? (tail.length + 1) 0x80 0 72 (basic.map Char.toNat) tail).map fun codes =>
      codes.map Char.ofNat

end SellerApi.Url.Punycode
