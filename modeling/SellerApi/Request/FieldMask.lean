import SellerApi.Text.Blank

/-! # Field masks

A field mask names the parts of a response that the caller wants. It keeps no empty selector. -/

namespace SellerApi

/-- Field selectors in order, none of them empty. -/
structure FieldMask where
  selectors : List String
  ne_empty : ∀ s ∈ selectors, s ≠ ""

namespace FieldMask

/-- The selectors of a list that are not empty. -/
def ofList (selectors : List String) : FieldMask :=
  ⟨selectors.filter (· ≠ ""), by simp⟩

/-- One selector, without the blanks around it. -/
def ofText (s : String) : FieldMask := ofList [Text.trim s]

/-- One selector more, if it is not empty. -/
def add (m : FieldMask) (selector : String) : FieldMask := ofList (m.selectors ++ [selector])

def isEmpty (m : FieldMask) : Bool := m.selectors.isEmpty

/-- The selectors with commas between them. -/
def toText (m : FieldMask) : String := ",".intercalate m.selectors

end FieldMask
end SellerApi
