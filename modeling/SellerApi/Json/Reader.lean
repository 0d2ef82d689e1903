import SellerApi.Json.Node
import SellerApi.Text.Hex
import SellerApi.Text.Utf8

/-! # Reading JSON text

`readNode?` reads a whole document from octets. The grammar is strict: blanks are space, tab, line
feed and carriage return, no comma ends a list, no control character stands in a text. Octets that
are no character may stand in a text only, which is then no Unicode text. -/

namespace SellerApi.Json

open SellerApi.Text

/-- The characters of a document, `none` where octets stand for none. -/
abbrev Source := List (Option Char)

/-- The blanks between tokens. -/
def isGap : Option Char → Bool
  | some c => c = ' ' || c = '\t' || c = '\n' || c = '\r'
  | none => false

def skipGap (cs : Source) : Source := cs.dropWhile isGap

/-- What a text is made of. -/
inductive Piece where
  | char (c : Char)
  /-- A UTF-16 code unit written as an escape. -/
  | unit (n : Nat)
  /-- Octets that are no character. -/
  | junk
  deriving DecidableEq, Repr

/-- The character that two surrogate code units stand for. -/
def surrogatePair (high low : Nat) : Char :=
  Char.ofNat (0x10000 + (high - 0xD800) * 0x400 + (low - 0xDC00))

/-- The characters of a text; `none` if a surrogate stands alone or octets are no character. -/
def assemble? : List Piece → Option (List Char)
  | [] => some []
  | .char c :: ps => (assemble? ps).map (c :: ·)
  | .junk :: _ => none
  | .unit n :: ps =>
    if n < 0xD800 ∨ 0xDFFF < n then (assemble? ps).map (Char.ofNat n :: ·)
    else if 0xDBFF < n then none
    else
      match ps with
      | .unit m :: rest =>
        if 0xDC00 ≤ m ∧ m ≤ 0xDFFF then (assemble? rest).map (surrogatePair n m :: ·) else none
      | _ => none

/-- The character after a backslash that stands for one character. -/
def simpleEscape? : Char → Option Char
  | '"' => some '"'
  | '\\' => some '\\'
  | '/' => some '/'
  | 'b' => some '\x08'
  | 'f' => some '\x0c'
  | 'n' => some '\n'
  | 'r' => some '\r'
  | 't' => some '\t'
  | _ => none

/-- The value of four hexadecimal digits. -/
def hexUnit? (a b c d : Char) : Option Nat := do
  let a ← Hex.value? a
  let b ← Hex.value? b
  let c ← Hex.value? c
  let d ← Hex.value? d
  return ((a * 16 + b) * 16 + c) * 16 + d

/-- The pieces of a text up to its closing quote, and what follows the quote. -/
def readPieces? : Source → Option (List Piece × Source)
  | [] => none
  | none :: cs => (readPieces? cs).map fun (ps, rest) => (.junk :: ps, rest)
  | some '"' :: cs => some ([], cs)
  | some '\\' :: some 'u' :: some a :: some b :: some c :: some d :: cs =>
    match hexUnit? a b c d with
    | some n => (readPieces? cs).map fun (ps, rest) => (.unit n :: ps, rest)
    | none => none
  | some '\\' :: some e :: cs =>
    match simpleEscape? e with
    | some c => (readPieces? cs).map fun (ps, rest) => (.char c :: ps, rest)
    | none => none
  | some c :: cs =>
    if c = '\\' ∨ c.toNat < 0x20 then none
    else (readPieces? cs).map fun (ps, rest) => (.char c :: ps, rest)

/-- The text after an opening quote. -/
def readText? (cs : Source) : Option (Option String × Source) :=
  (readPieces? cs).map fun (ps, rest) => ((assemble? ps).map String.ofList, rest)

/-- Whether an entry is a digit. -/
def isDigitAt : Option Char → Bool
  | some c => isAsciiDigit c
  | none => false

/-- The digits in front and what follows them. -/
def splitDigits (cs : Source) : List Char × Source :=
  ((cs.takeWhile isDigitAt).filterMap id, cs.dropWhile isDigitAt)

/-- An optional point with digits, at least one. -/
def readFraction? : Source → Option (Option (List Char) × Source)
  | some '.' :: cs =>
    let (digits, rest) := splitDigits cs
    if digits.isEmpty then none else some (some digits, rest)
  | cs => some (none, cs)

/-- An optional exponent with digits, at least one. -/
def readPower? : Source → Option (Option (Bool × List Char) × Source)
  | some c :: cs =>
    if c = 'e' ∨ c = 'E' then
      let (down, cs) :=
        match cs with
        | some '-' :: cs => (true, cs)
        | some '+' :: cs => (false, cs)
        | cs => (false, cs)
      let (digits, rest) := splitDigits cs
      if digits.isEmpty then none else some (some (down, digits), rest)
    else some (none, some c :: cs)
  | cs => some (none, cs)

/-- A numeral: its whole part has no needless zero in front. -/
def readNumeral? (negative : Bool) (cs : Source) : Option (Numeral × Source) := do
  let (whole, rest) := splitDigits cs
  if whole.isEmpty || (whole.head? == some '0' && whole.length != 1) then none
  let (fraction, rest) ← readFraction? rest
  let (exponent, rest) ← readPower? rest
  return (⟨negative, whole, fraction, exponent⟩, rest)

/-- What follows a word that the source starts with. -/
def dropWord? : List Char → Source → Option Source
  | [], cs => some cs
  | w :: ws, some c :: cs => if w = c then dropWord? ws cs else none
  | _ :: _, _ => none

mutual
/-- One value and what follows it, after blanks. The fuel bounds the values and separators. -/
def readValue? : (fuel : Nat) → Source → Option (Node × Source)
  | 0, _ => none
  | fuel + 1, cs =>
    match skipGap cs with
    | some '"' :: cs => (readText? cs).map fun (s, rest) => (.text s, rest)
    | some '[' :: cs =>
      match skipGap cs with
      | some ']' :: rest => some (.list [], rest)
      | cs => (readItems? fuel cs).map fun (items, rest) => (.list items, rest)
    | some '{' :: cs =>
      match skipGap cs with
      | some '}' :: rest => some (.record [], rest)
      | cs => (readMembers? fuel cs).map fun (members, rest) => (.record members, rest)
    | some 't' :: cs => (dropWord? ['r', 'u', 'e'] cs).map fun rest => (.bool true, rest)
    | some 'f' :: cs => (dropWord? ['a', 'l', 's', 'e'] cs).map fun rest => (.bool false, rest)
    | some 'n' :: cs => (dropWord? ['u', 'l', 'l'] cs).map fun rest => (.null, rest)
    | some '-' :: cs => (readNumeral? true cs).map fun (n, rest) => (.number n, rest)
    | cs => (readNumeral? false cs).map fun (n, rest) => (.number n, rest)

/-- The items of a list that is not empty, through its closing bracket. -/
def readItems? : (fuel : Nat) → Source → Option (List Node × Source)
  | 0, _ => none
  | fuel + 1, cs => do
    let (item, cs) ← readValue? fuel cs
    match skipGap cs with
    | some ',' :: cs =>
      let (items, rest) ← readItems? fuel cs
      return (item :: items, rest)
    | some ']' :: rest => return ([item], rest)
    | _ => none

/-- The members of a record that is not empty, through its closing brace. -/
def readMembers? : (fuel : Nat) → Source → Option (List (Option String × Node) × Source)
  | 0, _ => none
  | fuel + 1, cs => do
    let some '"' :: cs := skipGap cs | none
    let (name, cs) ← readText? cs
    let some ':' :: cs := skipGap cs | none
    let (value, cs) ← readValue? fuel cs
    match skipGap cs with
    | some ',' :: cs =>
      let (members, rest) ← readMembers? fuel cs
      return ((name, value) :: members, rest)
    | some '}' :: rest => return ([(name, value)], rest)
    | _ => none
end

/-- The document that a source holds, with nothing but blanks around it. -/
def readSource? (cs : Source) : Option Node := do
  let (node, rest) ← readValue? (cs.length + 1) cs
  if (skipGap rest).isEmpty then some node else none

/-- The document that octets hold. -/
def readNode? (octets : List UInt8) : Option Node := readSource? (Utf8.decode octets)

/-- The document that a text holds. -/
def readTextNode? (s : String) : Option Node := readSource? (s.toList.map some)

end SellerApi.Json
