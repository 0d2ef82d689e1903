import SellerApi.Settings.Basic
import SellerApi.Yaml.Node

/-! # Settings in YAML

A settings file is one YAML mapping; an empty text stands for one without entries. Texts may be
written in any way, numbers only plain. Keys that are not known are passed over, those that are may
not be repeated. Why a text is refused is told in the words of the reader in use. -/

namespace SellerApi.Yaml

open SellerApi.Text

/-- The texts that stand for nothing where a value may be missing. -/
def isNullText (text : String) : Bool :=
  text = "null" || text = "Null" || text = "NULL" || text = "~"

namespace Node

/-- The text of a scalar. -/
def text? : Node → Option String
  | .scalar _ _ text => some text
  | _ => none

/-- Whether a node stands for a missing value; fails on one that is tagged so but says something. -/
def isMissing? : Node → Option Bool
  | .scalar tag .plain text =>
    match tag with
    | none => some (text = "" || isNullText text)
    | some tag =>
      if tag = commonTags ++ "null" then if isNullText text then some true else none
      else some false
  | _ => some false

/-- A value that may be missing. -/
def optional {α : Type} (read : Node → Option α) (n : Node) : Option (Option α) := do
  if ← n.isMissing? then return none else return some (← read n)

/-- Digits of a base, without a sign. -/
def digits? (base : Nat) (cs : List Char) : Option Nat :=
  if cs = [] then none
  else
    (cs.mapM fun c => (Hex.value? c).filter (· < base)).map fun ds =>
      ds.foldl (fun n d => base * n + d) 0

/-- A number as YAML writes it: of base sixteen, eight or two behind `0x`, `0o` or `0b`, else of
base ten without zeros in front. -/
def number? (text : List Char) : Option Nat :=
  let cs := match text with
    | '+' :: cs => cs
    | cs => cs
  match cs with
  | '0' :: 'x' :: ds => digits? 16 ds
  | '0' :: 'o' :: ds => digits? 8 ds
  | '0' :: 'b' :: ds => digits? 2 ds
  | '0' :: _ :: _ => none
  | ds => digits? 10 ds

/-- A natural number below a bound; a block of lines can be one if it is tagged so. -/
def below? (bound : Nat) : Node → Option Nat
  | .scalar tag style text =>
    if style = .plain ∨ (style = .literal ∧ tag = some (commonTags ++ "int")) then
      (number? text.toList).filter (· < bound)
    else none
  | _ => none

/-- A word of a fixed choice: a text, or a tag of its own in front of nothing. -/
def choice? {α : Type} (ofWord? : String → Option α) : Node → Option α
  | .scalar tag style text =>
    match (tag.getD "").toList with
    | '!' :: word =>
      let word := if word = [] then "!" else String.ofList word
      if style = .plain ∧ (text = "" ∨ isNullText text) then ofWord? word else none
    | _ => ofWord? text
  | _ => none

/-- The entries of a mapping by their keys, which have to be texts. What is not written stands for a
mapping without entries. -/
def entries? : Node → Option (List (String × Node))
  | .mapping _ entries => entries.mapM fun (k, v) => k.text?.map (·, v)
  | .scalar _ .plain "" => some []
  | _ => none

/-- The value of a known key, which may not be repeated. -/
def valueAt? (entries : List (String × Node)) (key : String) : Option (Option Node) :=
  match entries.filter (·.1 = key) with
  | [] => some none
  | [(_, v)] => some (some v)
  | _ => none

/-- What a known key says, or else something given. -/
def entryOr {α : Type} (entries : List (String × Node)) (key : String) (fallback : α)
    (read : Node → Option α) : Option α := do
  match ← valueAt? entries key with
  | some v => read v
  | none => return fallback

/-- What a known key says, which has to be there. -/
def requiredEntry {α : Type} (entries : List (String × Node)) (key : String)
    (read : Node → Option α) : Option α := do
  match ← valueAt? entries key with
  | some v => read v
  | none => none

/-- A pacing; both numbers have to be there. -/
def pacing? (n : Node) : Option Pacing := do
  let es ← n.entries?
  return ⟨← requiredEntry es "requests_per_second" (below? bound32),
    ← requiredEntry es "burst_size" (below? bound32)⟩

def secrets? (n : Node) : Option Secrets := do
  let es ← n.entries?
  return {
    bearerToken := ← entryOr es "bearer_token" none (optional text?)
    apiKey := ← entryOr es "api_key" none (optional text?)
    scope := ← entryOr es "scope" .readonly (choice? Scope.ofWord?) }

def settings? (n : Node) : Option Settings := do
  let es ← n.entries?
  return {
    baseUrl := ← entryOr es "base_url" defaultBaseUrl text?
    userAgent := ← entryOr es "user_agent" none (optional text?)
    timeoutSeconds := ← entryOr es "timeout_secs" 30 (below? bound64)
    pacing := ← entryOr es "rate_limit" (some {}) (optional pacing?)
    secrets := ← entryOr es "auth" {} secrets?
    pageSize := ← entryOr es "page_size" none (optional (below? bound32))
    compression := ← entryOr es "parquet_compression" none (optional text?) }

end Node
end SellerApi.Yaml

namespace SellerApi

/-- Settings from the text of a file. -/
def Settings.ofYaml [Yaml.Wording] (text : String) : Except Failure Settings :=
  if Text.isAllBlank text then .ok {}
  else
    match Yaml.Node.read text with
    | .error fault => .error (.yaml (Yaml.Wording.tell text fault))
    | .ok none => .ok {}
    | .ok (some n) =>
      match n.settings? with
      | some s => .ok s
      | none => .error (.yaml (Yaml.Wording.tell text .badShape))

end SellerApi
