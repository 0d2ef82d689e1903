import SellerApi.Yaml.Fault

/-! # Layout of a YAML text

Positions in a text and the characters that lay it out. Line breaks of the common kinds are made
equal before anything is read: `normalise`. -/

namespace SellerApi.Yaml

/-- Where a character stands. -/
structure Position where
  line : Nat := 0
  column : Nat := 0
  /-- How many characters stand before it. -/
  index : Nat := 0
  deriving DecidableEq, Repr

/-- Behind a character that breaks no line. -/
def Position.next (p : Position) (count : Nat) : Position :=
  { p with column := p.column + count, index := p.index + count }

/-- Behind a line break. -/
def Position.nextLine (p : Position) : Position := ⟨p.line + 1, 0, p.index + 1⟩

/-- Characters still to be read and where they begin. -/
structure Cursor where
  rest : List Char
  position : Position := {}

def Cursor.skip (c : Cursor) (count : Nat) : Cursor :=
  ⟨c.rest.drop count, c.position.next count⟩

/-- Line breaks of a carriage return, with or without a line feed, and of U+0085 become line
feeds. -/
def normalise : List Char → List Char
  | [] => []
  | '\r' :: '\n' :: cs => '\n' :: normalise cs
  | c :: cs => (if c = '\r' ∨ c = '\u0085' then '\n' else c) :: normalise cs

/-- A character that a text may hold. -/
def isAllowed (c : Char) : Bool :=
  let n := c.toNat
  n = 0x09 || n = 0x0A || n = 0x0D || (0x20 ≤ n && n ≤ 0x7E) || n = 0x85 ||
    (0xA0 ≤ n && n ≤ 0xFFFD) || 0x10000 ≤ n

def isBreak (c : Char) : Bool := c = '\n' || c = '\u2028' || c = '\u2029'

/-- A character that separates within a line. -/
def isSpace (c : Char) : Bool := c = ' ' || c = '\t'

/-- Whether a word ends here: at a space, a line break or the end of the text. -/
def endsWord (cs : List Char) : Bool :=
  match cs with
  | [] => true
  | c :: _ => isSpace c || isBreak c

/-- Whether a line ends here. -/
def endsLine (cs : List Char) : Bool :=
  match cs with
  | [] => true
  | c :: _ => isBreak c

/-- A line that starts or ends a document begins here. -/
def isMarker (column : Nat) (cs : List Char) : Bool :=
  column = 0 &&
    match cs with
    | '-' :: '-' :: '-' :: rest => endsWord rest
    | '.' :: '.' :: '.' :: rest => endsWord rest
    | _ => false

/-- A character of a name. -/
def isNameChar (c : Char) : Bool := c.isAlphanum || c = '_' || c = '-'

/-- Past the spaces in front. -/
def Cursor.pastSpaces (c : Cursor) : Cursor := c.skip (c.rest.takeWhile isSpace).length

/-- Past a comment in front, up to the end of its line. -/
def Cursor.pastComment (c : Cursor) : Cursor :=
  match c.rest with
  | '#' :: _ => c.skip (c.rest.takeWhile (!isBreak ·)).length
  | _ => c

/-- Past a line break in front. -/
def Cursor.pastBreak (c : Cursor) : Cursor :=
  match c.rest with
  | b :: rest => if isBreak b then ⟨rest, c.position.nextLine⟩ else c
  | [] => c

/-- Past the spaces and the comment at the end of a line, which has to end there. -/
def Cursor.lineEnd (c : Cursor) (fault : Fault) : Except Fault Cursor :=
  let c := c.pastSpaces.pastComment
  if endsLine c.rest then .ok c else .error fault

end SellerApi.Yaml
