import SellerApi.Text.Hex
import SellerApi.Text.Utf8
import SellerApi.Text.Integer
import SellerApi.Yaml.Layout

/-! # Names in YAML

Anchors, tags and directives. A tag is a handle and a suffix; what the handle stands for is said by
the directives of the document. -/

namespace SellerApi.Yaml

open SellerApi.Text

/-- The name behind `&` or `*`. -/
def readName (c : Cursor) : Except Fault (String × Cursor) :=
  let name := c.rest.takeWhile isNameChar
  let after := c.skip name.length
  let closed := endsWord after.rest ||
    after.rest.head?.any fun d => "?:,]\x7d%@`".toList.contains d
  if name = [] ∨ ¬closed then .error .badAnchor else .ok (String.ofList name, after)

/-- A character of a tag; brackets and commas only where the tag stands between angles. -/
def isTagChar (verbatim : Bool) (c : Char) : Bool :=
  isNameChar c || ";/?:@&=+$.!~*'()".toList.contains c || (verbatim && ",[]".toList.contains c)

/-- The characters of a tag as octets, those behind a percent sign decoded, and the rest. -/
def tagOctets (verbatim : Bool) : List Char → Except Fault (List UInt8 × List Char)
  | [] => .ok ([], [])
  | '%' :: h :: l :: cs =>
    match Hex.value? h, Hex.value? l with
    | some h, some l => do
      let (octets, rest) ← tagOctets verbatim cs
      return ((16 * h + l).toUInt8 :: octets, rest)
    | _, _ => .error .badTag
  | c :: cs =>
    if isTagChar verbatim c then do
      let (octets, rest) ← tagOctets verbatim cs
      return (Utf8.encodeChar c ++ octets, rest)
    else if c = '%' then .error .badTag
    else .ok ([], c :: cs)

/-- The characters of a tag. -/
def readTagText (verbatim : Bool) (c : Cursor) : Except Fault (String × Cursor) := do
  let (octets, rest) ← tagOctets verbatim c.rest
  match Utf8.text? octets with
  | some text => return (String.ofList text, c.skip (c.rest.length - rest.length))
  | none => throw .badTag

/-- A tag as written: a handle, empty for a whole tag, and what follows it. -/
structure TagName where
  handle : String
  suffix : String
  deriving DecidableEq, Repr

/-- The handle in front: an exclamation mark, a name and perhaps another mark. -/
def handleLength (cs : List Char) : Nat :=
  match cs with
  | '!' :: cs =>
    let name := (cs.takeWhile isNameChar).length
    if (cs.drop name).head? = some '!' then name + 2 else name + 1
  | _ => 0

/-- A tag, which has to be followed by the end of a word, or by a comma inside brackets. -/
def readTag (flow : Bool) (c : Cursor) : Except Fault (TagName × Cursor) := do
  let (name, after) ← match c.rest with
    | '!' :: '<' :: _ => do
      let (text, after) ← readTagText true (c.skip 2)
      if text = "" then throw .badTag
      match after.rest with
      | '>' :: _ => pure ((⟨"", text⟩ : TagName), after.skip 1)
      | _ => throw .badTag
    | _ =>
      let length := handleLength c.rest
      if 2 ≤ length ∧ (c.rest.drop (length - 1)).head? = some '!' then do
        let (text, after) ← readTagText false (c.skip length)
        if text = "" then throw .badTag
        pure (⟨String.ofList (c.rest.take length), text⟩, after)
      else do
        let (text, after) ← readTagText false (c.skip 1)
        pure (if text = "" then ⟨"", "!"⟩ else ⟨"!", text⟩, after)
  if endsWord after.rest || (flow && after.rest.head? = some ',') then return (name, after)
  else throw .badTag

/-- A line that starts with a percent sign. -/
inductive Directive where
  | version (major minor : Nat)
  | tag (handle meaning : String)
  deriving DecidableEq, Repr

/-- A number of a version. -/
def readVersionNumber (c : Cursor) : Except Fault (Nat × Cursor) :=
  let digits := c.rest.takeWhile isAsciiDigit
  if digits = [] ∨ 9 < digits.length then .error .badDirective
  else .ok (digitsValue digits, c.skip digits.length)

/-- A directive behind its percent sign, up to the end of the line. -/
def readDirective (c : Cursor) : Except Fault (Directive × Cursor) := do
  let name := c.rest.takeWhile isNameChar
  let c := c.skip name.length
  if name = [] || !endsWord c.rest then throw .badDirective
  let c := c.pastSpaces
  let (directive, c) ←
    if name = "YAML".toList then do
      let (major, c) ← readVersionNumber c
      if c.rest.head? ≠ some '.' then throw .badDirective
      let (minor, c) ← readVersionNumber (c.skip 1)
      pure (Directive.version major minor, c)
    else if name = "TAG".toList then do
      let length := handleLength c.rest
      let handle := c.rest.take length
      if length = 0 || (1 < length && handle.getLast? ≠ some '!') then throw .badDirective
      let c := c.skip length
      if !c.rest.head?.any isSpace then throw .badDirective
      let (meaning, c) ← readTagText true c.pastSpaces
      if meaning = "" || !endsWord c.rest then throw .badDirective
      pure (Directive.tag (String.ofList handle) meaning, c)
    else throw .unknownDirective
  return (directive, (← c.lineEnd .badDirective).pastBreak)

end SellerApi.Yaml
