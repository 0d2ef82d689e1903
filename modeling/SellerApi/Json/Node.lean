import SellerApi.Json.Numeral

/-! # JSON documents as written

A `Node` keeps what the text of a document says and judges as little as possible: numbers stay
numerals, and a text may be no Unicode text at all. So a reader of records can pass over members it
does not know, whatever they hold. -/

namespace SellerApi.Json

/-- A JSON document as written. -/
inductive Node where
  | null
  | bool (b : Bool)
  | number (n : Numeral)
  /-- A text; `none` when its escapes or octets stand for no Unicode text. -/
  | text (s : Option String)
  | list (items : List Node)
  /-- The members in the order written, repeated names included. -/
  | record (members : List (Option String × Node))

end SellerApi.Json
