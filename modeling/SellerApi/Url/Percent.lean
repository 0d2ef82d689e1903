import SellerApi.Text.Hex
import SellerApi.Text.Utf8

/-! # Percent encoding

A character that a place in a URL cannot hold is written as one triple `%XX` per octet of its
UTF-8 form. Which ASCII characters those are depends on the place; other characters always are. -/

namespace SellerApi.Url

open SellerApi.Text

/-- The ASCII characters that a place cannot hold. -/
abbrev EscapeSet := Char → Bool

def isControl (c : Char) : Bool := c.toNat < 0x20 || c.toNat = 0x7F

/-- What a path without segments cannot hold. -/
def controls : EscapeSet := isControl

/-- What a fragment cannot hold. -/
def fragmentSet : EscapeSet := fun c => isControl c || " \"<>\x60".toList.contains c

/-- What a query cannot hold. -/
def querySet : EscapeSet := fun c => isControl c || " \"#<>".toList.contains c

/-- What a query of a web scheme cannot hold. -/
def webQuerySet : EscapeSet := fun c => querySet c || c = '\''

/-- What a path cannot hold. -/
def pathSet : EscapeSet := fun c => fragmentSet c || "#?\x7b\x7d".toList.contains c

/-- What one segment of a path cannot hold. -/
def segmentSet : EscapeSet := fun c => pathSet c || c = '/' || c = '%'

/-- What one segment of a path of a web scheme cannot hold. -/
def webSegmentSet : EscapeSet := fun c => segmentSet c || c = '\\'

/-- What a user name or a password cannot hold. -/
def userSet : EscapeSet := fun c => pathSet c || "/:;=@[\\]^|".toList.contains c

/-- The triple of an octet. -/
def triple (b : UInt8) : List Char :=
  ['%', Hex.upperDigit (b.toNat / 16), Hex.upperDigit (b.toNat % 16)]

def escapeChar (set : EscapeSet) (c : Char) : List Char :=
  if c.toNat < 0x80 ∧ ¬set c then [c] else (Utf8.encodeChar c).flatMap triple

/-- A text as a place holds it. -/
def escape (set : EscapeSet) (cs : List Char) : List Char := cs.flatMap (escapeChar set)

/-- The value of an octet that is a hexadecimal digit. -/
def octetDigit? (b : UInt8) : Option Nat := Hex.value? (Char.ofNat b.toNat)

/-- Octets with the triples among them undone; what is no triple stays. -/
def unescape : List UInt8 → List UInt8
  | [] => []
  | b :: rest =>
    if b = 37 then
      match rest with
      | h :: l :: tail =>
        match octetDigit? h, octetDigit? l with
        | some h, some l => (16 * h + l).toUInt8 :: unescape tail
        | _, _ => b :: unescape (h :: l :: tail)
      | short => b :: short
    else b :: unescape rest

/-- The octets that a text stands for. -/
def unescapeText (cs : List Char) : List UInt8 := unescape (Utf8.encode cs)

end SellerApi.Url
