import SellerApi.Failure
import SellerApi.Request.FieldMask
import SellerApi.Request.Format
import SellerApi.Request.Path
import SellerApi.Request.Query
import SellerApi.Url.Basic

/-! # Requests

A `Request` is all that one call needs before it touches the network: the template of its path and
the identifiers bound to it, the query parameters that were set, the cache tag and the format.
`Request.resolve` is its URL under a base. -/

namespace SellerApi

/-- What one call asks for. -/
structure Request where
  /-- The name of the method, for diagnostics. -/
  method : String
  template : String
  bindings : Bindings := []
  query : Query := {}
  /-- The tag of the version that the caller holds. -/
  cacheTag : Option String := none
  format : Format := .json
  /-- In milliseconds. -/
  deadline : Option Nat := none
  /-- Whether the caller's cancellation signal ends the request. -/
  watched : Bool := false

namespace Request

/-- Asks for the parts of a mask, unless it names none. -/
def select (r : Request) : Option FieldMask → Request
  | some mask => if mask.isEmpty then r else { r with query := r.query.push "fields" mask.toText }
  | none => r

/-- The pairs that go behind the base's query: the format comes first. -/
def pairs (r : Request) : List (String × String) := ("alt", r.format.word) :: r.query.pairs

/-- The URL of a request under a base. -/
def resolve (r : Request) (base : Url) : Except Failure Url := do
  let segments ← expandPath r.template r.bindings
  match base.extendPath? segments with
  | some url => return url.appendPairs r.pairs
  | none => throw (.settings ("Base URL cannot hold a path: " ++ base.toText))

end Request
end SellerApi
