import SellerApi.Failure
import SellerApi.Text.Pieces

/-! # Path templates

A template such as `adclients/{adClientId}/adunits` names the segments of a path. `expandPath`
puts identifiers in place of the names in braces. The result holds raw segments: a slash inside an
identifier does not divide it. -/

namespace SellerApi

open SellerApi.Text

/-- One piece of a template. -/
inductive PathPiece where
  | literal (text : String)
  /-- A name in braces. -/
  | placeholder (name : String)
  deriving DecidableEq, Repr

/-- The name between braces; every other piece is literal. -/
def PathPiece.ofChars (cs : List Char) : PathPiece :=
  match cs with
  | '{' :: inner =>
    match dropLast? '}' inner with
    | some name => .placeholder (String.ofList name)
    | none => .literal (String.ofList cs)
  | _ => .literal (String.ofList cs)

/-- The pieces of a template; empty ones do not count. -/
def templatePieces (template : String) : List PathPiece :=
  ((splitAt '/' template.toList).filter (· ≠ [])).map PathPiece.ofChars

/-- Identifiers by name. Of two with one name the first counts. -/
abbrev Bindings := List (String × String)

def Bindings.find? (bs : Bindings) (name : String) : Option String :=
  (List.find? (fun b => b.1 = name) bs).map (·.2)

/-- The identifier for a name. An identifier may be neither empty nor a step to the same or the
parent segment. -/
def identifier (bs : Bindings) (name : String) : Except Failure String :=
  match bs.find? name with
  | none => .error (.badParameter name "is required")
  | some value =>
    if value = "" then .error (.badParameter name "must not be empty")
    else if value = "." ∨ value = ".." then
      .error (.badParameter name ("'" ++ value ++ "' is not a valid identifier"))
    else .ok value

/-- The segment that a piece becomes. -/
def PathPiece.segment (bs : Bindings) : PathPiece → Except Failure String
  | .literal text => .ok text
  | .placeholder name => identifier bs name

/-- The raw segments of a path; fails for the leftmost name without an identifier. -/
def expandPath (template : String) (bs : Bindings) : Except Failure (List String) :=
  (templatePieces template).mapM (PathPiece.segment bs)

end SellerApi
