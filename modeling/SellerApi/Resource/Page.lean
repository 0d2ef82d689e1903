import SellerApi.Resource.Inventory

/-! # Pages

One page of a listing: its resources in server order and the token of the page after it. -/

namespace SellerApi.Resource

open SellerApi.Json

/-- One page of a listing. -/
structure Page (α : Type) where
  kind : Option String := none
  /-- The cache tag of this page. -/
  etag : Option String := none
  items : List α := []
  /-- Absent on the last page. -/
  nextPageToken : Option String := none
  deriving DecidableEq, Repr

/-- A type of resources that travel as JSON. -/
class Wire (α : Type) where
  ofNode? : Node → Option α
  toValue : α → Value

instance : Wire AdClient := ⟨AdClient.ofNode?, AdClient.toValue⟩
instance : Wire AdUnit := ⟨AdUnit.ofNode?, AdUnit.toValue⟩
instance : Wire CustomChannel := ⟨CustomChannel.ofNode?, CustomChannel.toValue⟩
instance : Wire UrlChannel := ⟨UrlChannel.ofNode?, UrlChannel.toValue⟩
instance : Wire SavedReport := ⟨SavedReport.ofNode?, SavedReport.toValue⟩

variable {α : Type} [Wire α]

def Page.ofNode? (n : Node) : Option (Page α) := do
  let [kind, etag, items, nextPageToken] ←
    n.fields? ["kind", "etag", "items", "nextPageToken"] | none
  return {
    kind := ← optional Node.text? kind
    etag := ← optional Node.text? etag
    items := ← orElse [] (Node.list? Wire.ofNode?) items
    nextPageToken := ← optional Node.text? nextPageToken }

def Page.toValue (p : Page α) : Value :=
  recordOf [whenSome "kind" .text p.kind, whenSome "etag" .text p.etag,
    whenAny "items" Wire.toValue p.items, whenSome "nextPageToken" .text p.nextPageToken]

instance : Wire (Page α) := ⟨Page.ofNode?, Page.toValue⟩

/-- Any value, kept as it is. -/
instance : Wire Value := ⟨Node.value? depthLimit, id⟩

end SellerApi.Resource
