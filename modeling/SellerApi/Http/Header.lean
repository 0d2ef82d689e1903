/-! # Header fields

Header fields keep the order in which they arrived; names are compared without case and kept in
lowercase. -/

namespace SellerApi.Http

/-- A header field with its name in lowercase. -/
structure Header where
  name : String
  value : String
  deriving DecidableEq, Repr

abbrev Headers := List Header

/-- A text with its ASCII letters in lowercase. -/
def lowercase (s : String) : String := String.ofList (s.toList.map Char.toLower)

def Header.of (name value : String) : Header := ⟨lowercase name, value⟩

/-- The characters of a header name. -/
def isTokenChar (c : Char) : Bool :=
  c.isAlphanum || "!#$%&'*+-.^_`|~".toList.contains c

/-- A text that can name a header field. -/
def isHeaderName (s : String) : Bool := !s.isEmpty && s.toList.all isTokenChar

/-- A text that can be sent as the value of a header field: no control but the tab. -/
def isHeaderValue (s : String) : Bool :=
  s.toList.all fun c => c = '\t' || (0x20 ≤ c.toNat && c.toNat != 0x7F)

/-- Whether a value is made of tabs and visible ASCII only. -/
def isPlainValue (s : String) : Bool :=
  s.toList.all fun c => c = '\t' || (0x20 ≤ c.toNat && c.toNat < 0x7F)

/-- The value as a text; `none` when it is not plain. -/
def Header.text? (h : Header) : Option String := if isPlainValue h.value then some h.value else none

/-- The first field of a name. -/
def Headers.find? (hs : Headers) (name : String) : Option Header :=
  List.find? (fun h => h.name = lowercase name) hs

/-- The text of the first field of a name. -/
def Headers.text? (hs : Headers) (name : String) : Option String :=
  (hs.find? name).bind Header.text?

end SellerApi.Http
