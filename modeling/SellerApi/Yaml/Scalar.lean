import SellerApi.Text.Hex
import SellerApi.Yaml.Layout

/-! # Texts in YAML

A text is written plain, between quotes of two kinds, or as a block of lines. Outside blocks a
single line break stands for a blank and several for one less: `Fold` joins the lines. In a folded
block the same holds between lines that are not indented further. -/

namespace SellerApi.Yaml

open SellerApi.Text

/-- How a text is written. -/
inductive Style where
  | plain
  | quoted
  | literal
  | folded
  deriving DecidableEq, Repr

/-- A text under way: what is certain, and the gap behind it, both from the end. -/
structure Fold where
  done : List Char := []
  /-- The spaces of a gap that breaks no line. -/
  spaces : List Char := []
  /-- The first line break of a gap; empty when it was escaped. -/
  firstBreak : Option (List Char) := none
  /-- The line breaks after the first. -/
  breaks : List Char := []

namespace Fold

/-- A gap as it is read: the text that it adds. -/
def close (f : Fold) : Fold :=
  match f.firstBreak with
  | none => { done := f.spaces ++ f.done }
  | some ['\n'] => { done := if f.breaks = [] then ' ' :: f.done else f.breaks ++ f.done }
  | some first => { done := f.breaks ++ first ++ f.done }

/-- Adds a character behind the gap. -/
def push (f : Fold) (c : Char) : Fold := { done := c :: f.close.done }

/-- A space at the start of a line does not count. -/
def space (f : Fold) (c : Char) : Fold :=
  if f.firstBreak.isSome then f else { f with spaces := c :: f.spaces }

def lineBreak (f : Fold) (c : Char) : Fold :=
  if f.firstBreak.isSome then { f with breaks := c :: f.breaks }
  else { f with spaces := [], firstBreak := some [c] }

/-- A line break that stands for nothing. -/
def escapedBreak (f : Fold) : Fold := { f.close with firstBreak := some [] }

/-- The text without the gap at its end. -/
def text (f : Fold) : String := String.ofList f.done.reverse

end Fold

/-- A character that ends a plain text inside brackets. -/
def isFlowEnd (c : Char) : Bool := c = ',' || c = '[' || c = ']' || c = '{' || c = '}'

/-- Reads a plain text. `indent` is the column that its further lines must reach outside brackets;
`gap` says that a space or line break comes before. -/
def readPlain (flow : Bool) (indent : Nat) (f : Fold) (gap : Bool) (p : Position) :
    List Char → Except Fault (Fold × Cursor)
  | [] => .ok (f, ⟨[], p⟩)
  | c :: cs =>
    if isSpace c then
      if c = '\t' ∧ f.firstBreak.isSome ∧ p.column < indent then .error .tab
      else readPlain flow indent (f.space c) true (p.next 1) cs
    else if isBreak c then readPlain flow indent (f.lineBreak c) true p.nextLine cs
    else if gap ∧ ((¬flow ∧ p.column < indent) ∨ isMarker p.column (c :: cs) ∨ c = '#') then
      .ok (f, ⟨c :: cs, p⟩)
    else if flow ∧ c = ':' ∧ cs.head?.any (fun d => d = '?' || isFlowEnd d) then .error .strayColon
    else if (c = ':' ∧ endsWord cs) ∨ (flow ∧ isFlowEnd c) then .ok (f, ⟨c :: cs, p⟩)
    else readPlain flow indent (f.push c) false (p.next 1) cs

/-- Reads a text behind a single quote. -/
def readSingle (f : Fold) (p : Position) : List Char → Except Fault (Fold × Cursor)
  | [] => .error .openQuote
  | '\'' :: '\'' :: cs => readSingle (f.push '\'') (p.next 2) cs
  | c :: cs =>
    if isMarker p.column (c :: cs) then .error .openQuote
    else if c = '\'' then .ok (f.close, ⟨cs, p.next 1⟩)
    else if isSpace c then readSingle (f.space c) (p.next 1) cs
    else if isBreak c then readSingle (f.lineBreak c) p.nextLine cs
    else readSingle (f.push c) (p.next 1) cs

/-- What a character behind a backslash stands for. -/
def escaped? (c : Char) : Option Char :=
  match c with
  | '0' => some '\x00'
  | 'a' => some '\x07'
  | 'b' => some '\x08'
  | 't' | '\t' => some '\t'
  | 'n' => some '\n'
  | 'v' => some '\x0b'
  | 'f' => some '\x0c'
  | 'r' => some '\r'
  | 'e' => some '\x1b'
  | ' ' | '"' | '/' | '\\' => some c
  | 'N' => some '\u0085'
  | '_' => some '\u00a0'
  | 'L' => some '\u2028'
  | 'P' => some '\u2029'
  | _ => none

/-- How many digits follow a letter that announces a code point. -/
def codeLength? (c : Char) : Option Nat :=
  match c with
  | 'x' => some 2
  | 'u' => some 4
  | 'U' => some 8
  | _ => none

/-- A code point that is a character. -/
def charOf? (n : Nat) : Option Char :=
  if n < 0xD800 ∨ (0xE000 ≤ n ∧ n < 0x110000) then some (Char.ofNat n) else none

/-- What comes next in a text between double quotes. -/
inductive Expected where
  | character
  /-- The character behind a backslash. -/
  | escape
  /-- So many digits of a code point, behind others of the given value. -/
  | digits (count value : Nat)

/-- Reads a text behind a double quote. -/
def readDouble (f : Fold) (e : Expected) (p : Position) : List Char → Except Fault (Fold × Cursor)
  | [] => .error .openQuote
  | c :: cs =>
    match e with
    | .character =>
      if isMarker p.column (c :: cs) then .error .openQuote
      else if c = '"' then .ok (f.close, ⟨cs, p.next 1⟩)
      else if c = '\\' then readDouble f .escape (p.next 1) cs
      else if isSpace c then readDouble (f.space c) .character (p.next 1) cs
      else if isBreak c then readDouble (f.lineBreak c) .character p.nextLine cs
      else readDouble (f.push c) .character (p.next 1) cs
    | .escape =>
      if isBreak c then readDouble f.escapedBreak .character p.nextLine cs
      else
        match escaped? c, codeLength? c with
        | some d, _ => readDouble (f.push d) .character (p.next 1) cs
        | none, some count => readDouble f (.digits count 0) (p.next 1) cs
        | none, none => .error .badEscape
    | .digits count value =>
      match Hex.value? c with
      | none => .error .badEscape
      | some d =>
        let value := 16 * value + d
        if 1 < count then readDouble f (.digits (count - 1) value) (p.next 1) cs
        else
          match charOf? value with
          | some d => readDouble (f.push d) .character (p.next 1) cs
          | none => .error .badEscape

/-- What a block keeps of the line breaks at its end. -/
inductive Chomping where
  | strip
  | clip
  | keep
  deriving DecidableEq, Repr

/-- The header of a block behind its first character: what is kept at the end, and how much deeper
than its surroundings the block stands, if the header says so. -/
def readBlockHeader (cs : List Char) : Except Fault (Chomping × Option Nat × List Char) :=
  let chomping? (c : Char) : Option Chomping :=
    if c = '+' then some .keep else if c = '-' then some .strip else none
  let depth? (c : Char) : Option Nat :=
    if '1' ≤ c ∧ c ≤ '9' then some (c.toNat - '0'.toNat) else none
  match cs with
  | [] => .ok (.clip, none, [])
  | '0' :: _ => .error .badBlockHeader
  | c :: cs =>
    match chomping? c, depth? c with
    | some chomping, _ =>
      match cs with
      | '0' :: _ => .error .badBlockHeader
      | d :: ds =>
        match depth? d with
        | some depth => .ok (chomping, some depth, ds)
        | none => .ok (chomping, none, cs)
      | [] => .ok (chomping, none, [])
    | none, some depth =>
      match cs with
      | d :: ds =>
        match chomping? d with
        | some chomping => .ok (chomping, some depth, ds)
        | none => .ok (.clip, some depth, cs)
      | [] => .ok (.clip, some depth, [])
    | none, none => .ok (.clip, none, c :: cs)

/-- Passes over the indentation of the next line and the empty lines before it. `indent` is the
depth of the block, zero if it is not known yet, and `deepest` the deepest column seen. The result
has the line breaks passed over, last one first. -/
def blockGap (indent deepest : Nat) (breaks : List Char) (p : Position) :
    List Char → Except Fault (Nat × List Char × Cursor)
  | [] => .ok (max deepest p.column, breaks, ⟨[], p⟩)
  | c :: cs =>
    let within := indent = 0 ∨ p.column < indent
    if within ∧ c = ' ' then blockGap indent deepest breaks (p.next 1) cs
    else if within ∧ c = '\t' then .error .tab
    else if isBreak c then blockGap indent (max deepest p.column) (c :: breaks) p.nextLine cs
    else .ok (max deepest p.column, breaks, ⟨c :: cs, p⟩)

/-- What separates a line of a folded block from the one before: `first` is the line break behind
that one. -/
def joinLines (literal : Bool) (first breaks : List Char) (indented : Bool) : List Char :=
  if !literal && first = ['\n'] && !indented then
    if breaks = [] then [' '] else breaks
  else breaks ++ first

/-- Reads the lines of a block of a known depth. `done` is the text so far and `first` and `breaks`
the line breaks behind it, all from the end; `wasIndented` says whether the last line was indented
further. The fuel bounds the lines. -/
def readBlockLines (literal : Bool) (chomping : Chomping) (indent : Nat) :
    (fuel : Nat) → (done first breaks : List Char) → (wasIndented : Bool) → Cursor →
    Except Fault (List Char × Cursor)
  | 0, done, _, _, _, c => .ok (done, c)
  | fuel + 1, done, first, breaks, wasIndented, c =>
    if c.position.column = indent ∧ c.rest ≠ [] then do
      let indented := c.rest.head?.any isSpace
      let line := c.rest.takeWhile (!isBreak ·)
      let before := joinLines literal first breaks (wasIndented || indented) ++ done
      let c := c.skip line.length
      let first := c.rest.take 1
      let c := c.pastBreak
      let (_, breaks, c) ← blockGap indent 0 [] c.position c.rest
      readBlockLines literal chomping indent fuel (line.reverse ++ before) first breaks indented c
    else
      .ok (match chomping with
        | .strip => done
        | .clip => first ++ done
        | .keep => breaks ++ first ++ done, c)

/-- Reads a block behind its first character. `parent` is the column of what holds it. -/
def readBlock (literal : Bool) (parent : Int) (c : Cursor) : Except Fault (String × Cursor) := do
  let (chomping, depth, rest) ← readBlockHeader c.rest
  let c := c.skip (c.rest.length - rest.length)
  let c ← c.lineEnd .badBlockHeader
  let c := c.pastBreak
  let known := match depth with
    | some d => (max parent 0 + d).toNat
    | none => 0
  let (deepest, breaks, c) ← blockGap known 0 [] c.position c.rest
  let indent := if known = 0 then max (max deepest (parent + 1).toNat) 1 else known
  let (done, c) ←
    readBlockLines literal chomping indent (c.rest.length + 1) [] [] breaks false c
  return (String.ofList done.reverse, c)

end SellerApi.Yaml
