import SellerApi.Json.Record
import SellerApi.Json.Value

/-! # Response formats and scopes

A format says how the server should answer, a scope what a credential allows. Both travel as one
of two words. -/

namespace SellerApi

open SellerApi.Json

/-- How the server should answer. -/
inductive Format where
  /-- A document to decode. -/
  | json
  /-- The raw content, handed on as it is. -/
  | media
  deriving DecidableEq, Repr

def Format.word : Format → String
  | .json => "json"
  | .media => "media"

def Format.ofWord? (w : String) : Option Format :=
  if w = "json" then some .json else if w = "media" then some .media else none

/-- What a credential allows. -/
inductive Scope where
  /-- To view and to manage. -/
  | full
  /-- To view. -/
  | readonly
  deriving DecidableEq, Repr

def Scope.word : Scope → String
  | .full => "full"
  | .readonly => "readonly"

def Scope.ofWord? (w : String) : Option Scope :=
  if w = "full" then some .full else if w = "readonly" then some .readonly else none

/-- A scope as a diagnostic shows it. -/
def Scope.describe : Scope → String
  | .full => "Full"
  | .readonly => "Readonly"

/-- The name under which a credential provider knows a scope. -/
def Scope.url : Scope → String
  | .full => "https://www.googleapis.com/auth/adexchange.seller"
  | .readonly => "https://www.googleapis.com/auth/adexchange.seller.readonly"

/-- A word of a fixed choice: a text, or a record whose one member has the word as its name and
null as its value. -/
def Node.choice? {α : Type} (ofWord? : String → Option α) : Node → Option α
  | .text (some w) => ofWord? w
  | .record [(some w, .null)] => ofWord? w
  | _ => none

def Format.ofNode? : Node → Option Format := Node.choice? Format.ofWord?

def Scope.ofNode? : Node → Option Scope := Node.choice? Scope.ofWord?

end SellerApi
