import SellerApi.Request.Basic
import SellerApi.Text.Integer

/-! # Options of calls

Every call has `CallOptions`, a call for a list has `PageOptions` too. What is not set is not sent;
a count above its ceiling is lowered to the ceiling. -/

namespace SellerApi

open SellerApi.Text

/-- The most items on one page. -/
def maxListResults : Nat := 10000

/-- The most saved reports on one page. -/
def maxSavedReports : Nat := 100

/-- The most rows of one report. -/
def maxReportRows : Nat := 50000

/-- The last row at which a report can start. -/
def maxStartIndex : Nat := 5000

/-- What can be set on every call. -/
structure CallOptions where
  fields : Option FieldMask := none
  cacheTag : Option String := none
  /-- In milliseconds. -/
  deadline : Option Nat := none
  /-- Whether the caller's cancellation signal ends the call. -/
  watched : Bool := false

/-- What can be set on a call for a list. -/
structure PageOptions where
  maxResults : Option Nat := none
  /-- The page to start from. -/
  pageToken : Option String := none
  deriving DecidableEq, Repr

/-- A count that is at most its ceiling. -/
def clamp (ceiling n : Nat) : Nat := min n ceiling

/-- Adds a count, lowered to its ceiling, if there is one. -/
def Query.pushCount (q : Query) (key : String) (ceiling : Nat) (n : Option Nat) : Query :=
  q.pushOption key (n.map fun n => natText (clamp ceiling n))

/-- A request with the options of its call. The signal is not among them: whoever sends the request
attaches it. -/
def CallOptions.apply (o : CallOptions) (r : Request) : Request :=
  { r.select o.fields with cacheTag := o.cacheTag, deadline := o.deadline }

/-- A request for one page; an empty token counts as none. -/
def PageOptions.apply (o : PageOptions) (ceiling : Nat) (token : Option String) (r : Request) :
    Request :=
  let q := r.query.pushCount "maxResults" ceiling o.maxResults
  { r with query := q.pushOption "pageToken" (token.filter (· ≠ "")) }

/-- One setting of a call. -/
inductive CallOptions.Setting where
  | fields (mask : FieldMask)
  | cacheTag (tag : String)
  | deadline (ms : Nat)
  | watched

/-- Options with one thing set anew. -/
def CallOptions.set (o : CallOptions) : CallOptions.Setting → CallOptions
  | .fields mask => { o with fields := some mask }
  | .cacheTag tag => { o with cacheTag := some tag }
  | .deadline ms => { o with deadline := some ms }
  | .watched => { o with watched := true }

end SellerApi
