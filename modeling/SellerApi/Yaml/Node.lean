import SellerApi.Yaml.Token

/-! # YAML documents

A `Node` is a document with its aliases put in. `Node.read` wants a text of one document; a text of
blanks and comments only is an empty one. -/

namespace SellerApi.Yaml

/-- A YAML document. -/
inductive Node where
  | scalar (tag : Option String) (style : Style) (text : String)
  | list (tag : Option String) (items : List Node)
  | mapping (tag : Option String) (entries : List (Node × Node))

namespace Node

/-- What stands where nothing is written. -/
def empty : Node := .scalar none .plain ""

end Node

/-- What a document has declared so far. -/
structure Scope where
  /-- The meanings of tag handles. -/
  handles : List (String × String) := []
  /-- The nodes that have a name, latest first. -/
  anchors : List (String × Node) := []

/-- The prefix of the tags that everybody knows. -/
def commonTags : String := "tag:yaml.org,2002:"

/-- A whole tag. The tag of a lone mark says nothing of a text but that it is none else. -/
def Scope.tag (s : Scope) (t : TagName) : Except Fault String :=
  if t.handle = "" then .ok t.suffix
  else
    match s.handles.find? (·.1 = t.handle) with
    | some (_, meaning) => .ok (meaning ++ t.suffix)
    | none =>
      if t.handle = "!" then .ok ("!" ++ t.suffix)
      else if t.handle = "!!" then .ok (commonTags ++ t.suffix)
      else .error .unknownTagHandle

/-- The tag and the anchor in front of a node, in either order. -/
def readProperties (s : Scope) (ts : List Token) :
    Except Fault (Option String × Option String × List Token) :=
  match ts with
  | .anchor a :: .tag t :: ts => do return (some (← s.tag t), some a, ts)
  | .tag t :: .anchor a :: ts => do return (some (← s.tag t), some a, ts)
  | .anchor a :: ts => .ok (none, some a, ts)
  | .tag t :: ts => do return (some (← s.tag t), none, ts)
  | ts => .ok (none, none, ts)

/-- The tag that counts for a text: a lone mark is none for a plain text. -/
def scalarTag (tag : Option String) : Option String := tag.filter (· ≠ "!")

/-- Whether the tokens to come begin with one of some. -/
def startsWith (ts : List Token) (wanted : List Token) : Bool := ts.head?.any wanted.contains

/-- What is read from tokens: something, the scope after it and the rest. -/
abbrev Parsed (α : Type) := α × Scope × List Token

/-- A scope in which a node has a name, if it has one. -/
def Scope.name (s : Scope) (anchor : Option String) (n : Node) : Scope :=
  match anchor with
  | some a => { s with anchors := (a, n) :: s.anchors }
  | none => s

mutual

/-- A node. Blocks count only where `block` says so, and entries without a block around them where
`bare` says so. The fuel bounds the tokens. -/
def readNode (block bare : Bool) : (fuel : Nat) → Scope → List Token → Except Fault (Parsed Node)
  | 0, _, _ => .error .missingContent
  | _ + 1, s, .alias a :: ts =>
    match s.anchors.find? (·.1 = a) with
    | some (_, n) => .ok (n, s, ts)
    | none => .error .unknownAlias
  | fuel + 1, s, ts => do
    let (tag, anchor, ts) ← readProperties s ts
    let (n, s, ts) ← match ts with
      | .scalar style text :: ts =>
        pure (.scalar (if style = .plain then scalarTag tag else tag) style text, s, ts)
      | .listOpen :: ts => do
        let (items, s, ts) ← readList true fuel s ts
        pure (.list tag items, s, ts)
      | .recordOpen :: ts => do
        let (entries, s, ts) ← readRecord true fuel s ts
        pure (.mapping tag entries, s, ts)
      | .entry :: _ =>
        if bare then do
          let (items, s, ts) ← readBareEntries fuel s ts
          pure (.list tag items, s, ts)
        else if tag.isSome || anchor.isSome then pure (.scalar tag .plain "", s, ts)
        else throw .missingContent
      | .sequenceStart :: rest =>
        if block then do
          let (items, s, ts) ← readEntries fuel s rest
          pure (.list tag items, s, ts)
        else if tag.isSome || anchor.isSome then pure (.scalar tag .plain "", s, ts)
        else throw .missingContent
      | .mappingStart :: rest =>
        if block then do
          let (entries, s, ts) ← readPairs fuel s rest
          pure (.mapping tag entries, s, ts)
        else if tag.isSome || anchor.isSome then pure (.scalar tag .plain "", s, ts)
        else throw .missingContent
      | ts =>
        if tag.isSome || anchor.isSome then pure (.scalar tag .plain "", s, ts)
        else throw .missingContent
    return (n, s.name anchor n, ts)

/-- A node, or an empty one where one of some tokens follows. -/
def readOptional (block bare : Bool) (ends : List Token) :
    (fuel : Nat) → Scope → List Token → Except Fault (Parsed Node)
  | 0, _, _ => .error .missingContent
  | fuel + 1, s, ts =>
    if startsWith ts ends then .ok (.empty, s, ts) else readNode block bare fuel s ts

/-- The entries of a block, up to its end. -/
def readEntries : (fuel : Nat) → Scope → List Token → Except Fault (Parsed (List Node))
  | fuel + 1, s, .entry :: ts => do
    let (n, s, ts) ← readOptional true false [.entry, .blockEnd] fuel s ts
    let (ns, s, ts) ← readEntries fuel s ts
    return (n :: ns, s, ts)
  | _ + 1, s, .blockEnd :: ts => .ok ([], s, ts)
  | _, _, _ => .error .missingDelimiter

/-- Entries without a block of their own. -/
def readBareEntries : (fuel : Nat) → Scope → List Token → Except Fault (Parsed (List Node))
  | fuel + 1, s, .entry :: ts => do
    let (n, s, ts) ← readOptional true false [.entry, .key, .value, .blockEnd] fuel s ts
    let (ns, s, ts) ← readBareEntries fuel s ts
    return (n :: ns, s, ts)
  | _, s, ts => .ok ([], s, ts)

/-- The keys and values of a block, up to its end. -/
def readPairs : (fuel : Nat) → Scope → List Token → Except Fault (Parsed (List (Node × Node)))
  | fuel + 1, s, .key :: ts => do
    let (k, s, ts) ← readOptional true true [.key, .value, .blockEnd] fuel s ts
    let (v, s, ts) ← readBlockValue fuel s ts
    let (rest, s, ts) ← readPairs fuel s ts
    return ((k, v) :: rest, s, ts)
  | fuel + 1, s, .value :: ts => do
    let (v, s, ts) ← readBlockValue fuel s (.value :: ts)
    let (rest, s, ts) ← readPairs fuel s ts
    return ((.empty, v) :: rest, s, ts)
  | _ + 1, s, .blockEnd :: ts => .ok ([], s, ts)
  | _, _, _ => .error .missingDelimiter

/-- The value behind a key of a block, empty when there is no colon. -/
def readBlockValue : (fuel : Nat) → Scope → List Token → Except Fault (Parsed Node)
  | fuel + 1, s, .value :: ts => readOptional true true [.key, .value, .blockEnd] fuel s ts
  | _, s, ts => .ok (.empty, s, ts)

/-- The items between brackets, up to the closing one; a key or a colon makes an item a mapping of
one entry. -/
def readList (first : Bool) : (fuel : Nat) → Scope → List Token → Except Fault (Parsed (List Node))
  | 0, _, _ => .error .missingDelimiter
  | _ + 1, s, .listClose :: ts => .ok ([], s, ts)
  | fuel + 1, s, ts => do
    let ts ← if first then pure ts else
      match ts with
      | .comma :: ts => pure ts
      | _ => throw .missingDelimiter
    match ts with
    | .listClose :: ts => return ([], s, ts)
    | .key :: ts =>
      let ends := [.value, .comma, .listClose]
      let (k, s, ts) ← readOptional false false ends fuel s ts
      let (v, s, ts) ← readFlowValue [.comma, .listClose] fuel s ts
      let (ns, s, ts) ← readList false fuel s ts
      return (.mapping none [(k, v)] :: ns, s, ts)
    | ts =>
      let (n, s, ts) ← readNode false false fuel s ts
      let (ns, s, ts) ← readList false fuel s ts
      return (n :: ns, s, ts)

/-- The members between braces, up to the closing one. -/
def readRecord (first : Bool) :
    (fuel : Nat) → Scope → List Token → Except Fault (Parsed (List (Node × Node)))
  | 0, _, _ => .error .missingDelimiter
  | _ + 1, s, .recordClose :: ts => .ok ([], s, ts)
  | fuel + 1, s, ts => do
    let ts ← if first then pure ts else
      match ts with
      | .comma :: ts => pure ts
      | _ => throw .missingDelimiter
    match ts with
    | .recordClose :: ts => return ([], s, ts)
    | .key :: ts =>
      let ends := [.value, .comma, .recordClose]
      let (k, s, ts) ← readOptional false false ends fuel s ts
      let (v, s, ts) ← readFlowValue [.comma, .recordClose] fuel s ts
      let (rest, s, ts) ← readRecord false fuel s ts
      return ((k, v) :: rest, s, ts)
    | ts =>
      let (k, s, ts) ← readNode false false fuel s ts
      let (rest, s, ts) ← readRecord false fuel s ts
      return ((k, .empty) :: rest, s, ts)

/-- The value behind a key between brackets, empty when there is no colon. -/
def readFlowValue (ends : List Token) :
    (fuel : Nat) → Scope → List Token → Except Fault (Parsed Node)
  | fuel + 1, s, .value :: ts => readOptional false false ends fuel s ts
  | _, s, ts => .ok (.empty, s, ts)

end

/-- The directives in front of a document. Of a version the first number is one and the second one
or two. -/
def readDirectives (seen : Bool) (s : Scope) : List Token → Except Fault (Scope × List Token)
  | .directive (.version major minor) :: ts =>
    if seen ∨ major ≠ 1 ∨ (minor ≠ 1 ∧ minor ≠ 2) then .error .badVersion
    else readDirectives true s ts
  | .directive (.tag handle meaning) :: ts =>
    if s.handles.any (·.1 = handle) then .error .badDirective
    else readDirectives seen { s with handles := s.handles ++ [(handle, meaning)] } ts
  | ts => .ok (s, ts)

/-- A document that was begun. -/
def readContent (s : Scope) (ts : List Token) : Except Fault (Node × List Token) :=
  match ts with
  | [] | .documentStart :: _ | .documentEnd :: _ | .directive _ :: _ => .ok (.empty, ts)
  | ts => do
    let (n, _, ts) ← readNode true false (3 * ts.length + 3) s ts
    return (n, ts)

/-- The node of a document behind which nothing but its end follows. -/
def onlyDocument : Node × List Token → Except Fault Node
  | (n, ts) =>
    match ts.dropWhile (· = .documentEnd) with
    | [] => .ok n
    | .documentStart :: _ | .directive _ :: _ => .error .severalDocuments
    | _ => .error .missingDocumentStart

/-- The one document of a text; none if the text holds no document. -/
def Node.read (text : String) : Except Fault (Option Node) := do
  let ts ← tokens text
  match ts with
  | [] => return none
  | .directive _ :: _ | .documentStart :: _ =>
    let (s, ts) ← readDirectives false {} ts
    match ts with
    | .documentStart :: ts => return some (← onlyDocument (← readContent s ts))
    | _ => throw .missingDocumentStart
  | ts =>
    let (n, _, ts) ← readNode true false (3 * ts.length + 3) {} ts
    return some (← onlyDocument (n, ts))

end SellerApi.Yaml
