import SellerApi.Yaml.Scalar
import SellerApi.Yaml.Tag

/-! # Tokens of YAML

`tokens` takes a text apart. Indentation becomes tokens of its own, so that blocks have a beginning
and an end as brackets have. That a text was a key is known only at the colon behind it; then a
token `key` is put in front of it, and the beginning of a block if one begins there. -/

namespace SellerApi.Yaml

/-- A piece of a YAML text. -/
inductive Token where
  | directive (d : Directive)
  | documentStart
  | documentEnd
  /-- A block of entries begins. -/
  | sequenceStart
  /-- A block of keys and values begins. -/
  | mappingStart
  | blockEnd
  | listOpen
  | listClose
  | recordOpen
  | recordClose
  | comma
  | entry
  | key
  | value
  | alias (name : String)
  | anchor (name : String)
  | tag (name : TagName)
  | scalar (style : Style) (text : String)
  deriving DecidableEq, Repr

/-- A place where a key may have begun. -/
structure KeyStart where
  /-- How many tokens come before it. -/
  token : Nat
  position : Position
  /-- Nothing but a key can stand there. -/
  required : Bool

/-- The state between two tokens. -/
structure Scanner where
  cursor : Cursor
  tokens : List Token := []
  /-- The column of the innermost block, before any block -1. -/
  indent : Int := -1
  /-- The columns of the blocks around it. -/
  outer : List Int := []
  /-- How many brackets are open. -/
  depth : Nat := 0
  /-- Whether a key may begin here. -/
  keyAllowed : Bool := true
  /-- Where a key may have begun, innermost bracket first. -/
  keys : List (Option KeyStart) := [none]

namespace Scanner

def inFlow (s : Scanner) : Bool := s.depth ≠ 0

def column (s : Scanner) : Nat := s.cursor.position.column

def emit (s : Scanner) (t : Token) : Scanner := { s with tokens := s.tokens ++ [t] }

/-- Puts a token before those behind a place. -/
def emitAt (s : Scanner) (place : Nat) (t : Token) : Scanner :=
  { s with tokens := s.tokens.take place ++ t :: s.tokens.drop place }

def moveTo (s : Scanner) (c : Cursor) : Scanner := { s with cursor := c }

def skip (s : Scanner) (count : Nat) : Scanner := s.moveTo (s.cursor.skip count)

def allowKey (s : Scanner) (allowed : Bool) : Scanner := { s with keyAllowed := allowed }

/-- Gives up the innermost place where a key may have begun. -/
def dropKey (s : Scanner) : Except Fault Scanner :=
  match s.keys with
  | some k :: ks => if k.required then .error .missingColon else .ok { s with keys := none :: ks }
  | _ => .ok s

/-- Notes that a key may begin here. -/
def noteKey (s : Scanner) : Except Fault Scanner :=
  if s.keyAllowed then do
    let s ← s.dropKey
    let start : KeyStart :=
      ⟨s.tokens.length, s.cursor.position, !s.inFlow && s.indent = s.column⟩
    return { s with keys := some start :: s.keys.drop 1 }
  else .ok s

/-- Gives up the places that are too far back: on another line, or over 1024 characters away. -/
def dropStaleKeys (s : Scanner) : Except Fault Scanner := do
  let here := s.cursor.position
  let isStale (k : KeyStart) : Bool :=
    k.position.line < here.line || k.position.index + 1024 < here.index
  if s.keys.any fun k => k.any fun k => isStale k && k.required then throw .missingColon
  return { s with keys := s.keys.map fun k => k.filter (!isStale ·) }

/-- Closes the blocks that are deeper than a column. -/
def closeBlocks (s : Scanner) (column : Int) : Scanner :=
  if s.inFlow then s
  else
    let inner := (s.indent :: s.outer).takeWhile (column < ·)
    match (s.indent :: s.outer).drop inner.length with
    | indent :: outer =>
      { s with tokens := s.tokens ++ inner.map (fun _ => Token.blockEnd), indent, outer }
    | [] => s

/-- Opens a block at a column if it is deeper than the one around it; its token goes to a place. -/
def openBlock (s : Scanner) (column place : Nat) (t : Token) : Scanner :=
  if s.inFlow ∨ (column : Int) ≤ s.indent then s
  else { s.emitAt place t with indent := column, outer := s.indent :: s.outer }

/-- Passes over blanks, comments and line breaks. Outside brackets a key may begin on each new line,
and a tab separates only where none may. -/
def toNext (allowed flow : Bool) (p : Position) (inComment : Bool) :
    List Char → Bool × Cursor
  | [] => (allowed, ⟨[], p⟩)
  | c :: cs =>
    if isBreak c then toNext (allowed || !flow) flow p.nextLine false cs
    else if inComment then toNext allowed flow (p.next 1) true cs
    else if c = ' ' ∨ (c = '\t' ∧ (flow ∨ ¬allowed)) then toNext allowed flow (p.next 1) false cs
    else if c = '#' then toNext allowed flow (p.next 1) true cs
    else (allowed, ⟨c :: cs, p⟩)

/-- An entry of a block. -/
def scanEntry (s : Scanner) : Except Fault Scanner := do
  if !s.inFlow && !s.keyAllowed then throw .strayEntry
  let s := s.openBlock s.column s.tokens.length .sequenceStart
  let s ← s.dropKey
  return ((s.allowKey true).emit .entry).skip 1

/-- A key that is marked as one. -/
def scanKey (s : Scanner) : Except Fault Scanner := do
  if !s.inFlow && !s.keyAllowed then throw .strayKey
  let s := s.openBlock s.column s.tokens.length .mappingStart
  let s ← s.dropKey
  return ((s.allowKey (!s.inFlow)).emit .key).skip 1

/-- A colon: what came before was a key if one may have begun. -/
def scanValue (s : Scanner) : Except Fault Scanner := do
  let s ← match s.keys with
    | some k :: ks =>
      let s := s.emitAt k.token .key
      let s := s.openBlock k.position.column k.token .mappingStart
      pure { s with keys := none :: ks, keyAllowed := false }
    | _ =>
      if !s.inFlow && !s.keyAllowed then throw .strayValue
      pure ((s.openBlock s.column s.tokens.length .mappingStart).allowKey (!s.inFlow))
  return (s.emit .value).skip 1

/-- An opening bracket. -/
def scanOpen (s : Scanner) (t : Token) : Except Fault Scanner := do
  let s ← s.noteKey
  let s := { s with depth := s.depth + 1, keys := none :: s.keys, keyAllowed := true }
  return (s.emit t).skip 1

/-- A closing bracket. -/
def scanClose (s : Scanner) (t : Token) : Except Fault Scanner := do
  let s ← s.dropKey
  let keys := if s.depth = 0 then s.keys else s.keys.drop 1
  let s := { s with depth := s.depth - 1, keys, keyAllowed := false }
  return (s.emit t).skip 1

/-- A line that starts or ends a document. -/
def scanMarker (s : Scanner) (t : Token) : Except Fault Scanner := do
  let s ← (s.closeBlocks (-1)).dropKey
  return ((s.allowKey false).emit t).skip 3

/-- Something that can be a key, with its token and the cursor behind it. -/
def scanKeyLike (s : Scanner) (read : Cursor → Except Fault (Token × Cursor)) :
    Except Fault Scanner := do
  let s ← s.noteKey
  let (t, c) ← read s.cursor
  return ((s.allowKey false).emit t).moveTo c

/-- A plain text; a key may begin behind it if it ended with a line. -/
def scanPlain (s : Scanner) : Except Fault Scanner := do
  let s ← s.noteKey
  let (f, c) ←
    readPlain s.inFlow (s.indent + 1).toNat {} false s.cursor.position s.cursor.rest
  return ((s.allowKey f.firstBreak.isSome).emit (.scalar .plain f.text)).moveTo c

/-- A block of lines. -/
def scanBlock (s : Scanner) (style : Style) : Except Fault Scanner := do
  let s ← s.dropKey
  let (text, c) ← readBlock (style = .literal) s.indent (s.cursor.skip 1)
  return ((s.allowKey true).emit (.scalar style text)).moveTo c

/-- A directive. -/
def scanDirective (s : Scanner) : Except Fault Scanner := do
  let s ← (s.closeBlocks (-1)).dropKey
  let (d, c) ← readDirective (s.cursor.skip 1)
  return ((s.allowKey false).emit (.directive d)).moveTo c

/-- A quoted text, by its reader behind the quote. -/
def quotedBy (read : Fold → Position → List Char → Except Fault (Fold × Cursor)) (c : Cursor) :
    Except Fault (Token × Cursor) := do
  let c := c.skip 1
  let (f, c) ← read {} c.position c.rest
  return (.scalar .quoted f.text, c)

/-- A character that starts no plain text, unless one that says otherwise follows. -/
def isIndicator (c : Char) : Bool := "-?:,[]\x7b\x7d#&*!|>'\"%@`".toList.contains c

/-- The token that begins with a character. -/
def scanOne (s : Scanner) (c : Char) (cs : List Char) : Except Fault Scanner :=
  if s.column = 0 ∧ c = '%' then s.scanDirective
  else if isMarker s.column (c :: cs) then
    s.scanMarker (if c = '-' then .documentStart else .documentEnd)
  else if c = '[' then s.scanOpen .listOpen
  else if c = '{' then s.scanOpen .recordOpen
  else if c = ']' then s.scanClose .listClose
  else if c = '}' then s.scanClose .recordClose
  else if c = ',' then do
    let s ← s.dropKey
    return ((s.allowKey true).emit .comma).skip 1
  else if c = '-' ∧ endsWord cs then s.scanEntry
  else if c = '?' ∧ (s.inFlow ∨ endsWord cs) then s.scanKey
  else if c = ':' ∧ (s.inFlow ∨ endsWord cs) then s.scanValue
  else if c = '*' then s.scanKeyLike fun c => (readName (c.skip 1)).map fun (n, c) => (.alias n, c)
  else if c = '&' then s.scanKeyLike fun c => (readName (c.skip 1)).map fun (n, c) => (.anchor n, c)
  else if c = '!' then s.scanKeyLike fun c => (readTag s.inFlow c).map fun (t, c) => (.tag t, c)
  else if c = '|' ∧ ¬s.inFlow then s.scanBlock .literal
  else if c = '>' ∧ ¬s.inFlow then s.scanBlock .folded
  else if c = '\'' then s.scanKeyLike (quotedBy readSingle)
  else if c = '"' then s.scanKeyLike (quotedBy fun f p cs => readDouble f .character p cs)
  else if !(isSpace c || isIndicator c) || (c = '-' && !cs.head?.any isSpace) ||
      (!s.inFlow && (c = '?' || c = ':') && !endsWord cs) then s.scanPlain
  else .error .strayCharacter

/-- Scans the tokens to come; every one takes a character at least, so that the fuel bounds them. -/
def scan : (fuel : Nat) → Scanner → Except Fault Scanner
  | 0, s => .ok s
  | fuel + 1, s => do
    let (allowed, c) :=
      toNext s.keyAllowed s.inFlow s.cursor.position false s.cursor.rest
    let s ← ((s.moveTo c).allowKey allowed).dropStaleKeys
    let s := s.closeBlocks s.column
    match c.rest with
    | [] => (s.closeBlocks (-1)).dropKey
    | c :: cs => (← s.scanOne c cs).scan fuel

end Scanner

/-- Where a text begins: a mark of the byte order in front is passed over, but takes a column. -/
def Cursor.start : List Char → Cursor
  | '\uFEFF' :: cs => ⟨cs, Position.next {} 1⟩
  | cs => ⟨cs, {}⟩

/-- The tokens of a text. -/
def tokens (text : String) : Except Fault (List Token) := do
  if text.toList.any (!isAllowed ·) then throw .controlCharacter
  let cs := normalise text.toList
  let start : Scanner := { cursor := .start cs }
  return (← start.scan (cs.length + 1)).tokens

end SellerApi.Yaml
