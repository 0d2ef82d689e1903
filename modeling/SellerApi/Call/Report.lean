import SellerApi.Call.Endpoint
import SellerApi.Call.Options
import SellerApi.Report.Parameter.Date
import SellerApi.Report.Parameter.Expression

/-! # Calls for reports

The parameters of a report are checked before anything is sent, in a fixed order; the first bad one
is named. A saved report brings its own parameters, so that only its locale is checked. -/

namespace SellerApi

/-- Which rows of a report are wanted, and in which language its headers are. -/
structure ReportWindow where
  locale : Option String := none
  maxResults : Option Nat := none
  startIndex : Option Nat := none
  deriving DecidableEq, Repr

/-- A locale has the form of a name. -/
def ReportWindow.check (w : ReportWindow) : Except Failure Unit :=
  match w.locale with
  | some locale => Parameter.checkName "locale" locale
  | none => .ok ()

def ReportWindow.apply (w : ReportWindow) (q : Query) : Query :=
  ((q.pushOption "locale" w.locale).pushCount "maxResults" maxReportRows w.maxResults).pushCount
    "startIndex" maxStartIndex w.startIndex

/-- A call for a new report. -/
structure ReportCall where
  startDate : String
  endDate : String
  dimensions : List String := []
  metrics : List String := []
  filters : List String := []
  sorts : List String := []
  window : ReportWindow := {}
  options : CallOptions := {}

namespace ReportCall

/-- Checks the parameters in the order in which they are sent. -/
def check (c : ReportCall) : Except Failure Unit := do
  Parameter.checkDate "startDate" c.startDate
  Parameter.checkDate "endDate" c.endDate
  c.dimensions.forM (Parameter.checkName "dimension")
  c.metrics.forM (Parameter.checkName "metric")
  c.filters.forM Parameter.checkFilter
  c.sorts.forM Parameter.checkSort
  c.window.check

/-- The query of a report. -/
def query (c : ReportCall) : Query :=
  let q := (Query.empty.push "startDate" c.startDate).push "endDate" c.endDate
  let q := (q.pushAll "dimension" c.dimensions).pushAll "metric" c.metrics
  let q := (q.pushAll "filter" c.filters).pushAll "sort" c.sorts
  c.window.apply q

def request (c : ReportCall) : Except Failure Request := do
  c.check
  return c.options.apply { Endpoint.report.request with query := c.query }

/-- One step in building a call: to add a parameter or to set an option. -/
inductive Setting where
  | option (s : CallOptions.Setting)
  | dimension (name : String)
  | dimensions (names : List String)
  | metric (name : String)
  | metrics (names : List String)
  | filter (expression : String)
  | sort (expression : String)
  | locale (name : String)
  | maxResults (n : Nat)
  | startIndex (n : Nat)

def set (c : ReportCall) : Setting → ReportCall
  | .option s => { c with options := c.options.set s }
  | .dimension name => { c with dimensions := c.dimensions ++ [name] }
  | .dimensions names => { c with dimensions := c.dimensions ++ names }
  | .metric name => { c with metrics := c.metrics ++ [name] }
  | .metrics names => { c with metrics := c.metrics ++ names }
  | .filter expression => { c with filters := c.filters ++ [expression] }
  | .sort expression => { c with sorts := c.sorts ++ [expression] }
  | .locale name => { c with window := { c.window with locale := some name } }
  | .maxResults n => { c with window := { c.window with maxResults := some n } }
  | .startIndex n => { c with window := { c.window with startIndex := some n } }

end ReportCall

/-- A call for a report whose parameters are saved with the server. -/
structure SavedReportCall where
  id : String
  window : ReportWindow := {}
  options : CallOptions := {}

namespace SavedReportCall

def request (c : SavedReportCall) : Except Failure Request := do
  c.window.check
  return c.options.apply
    { (Endpoint.savedReport c.id).request with query := c.window.apply Query.empty }

/-- One setting of a call for a saved report. -/
inductive Setting where
  | option (s : CallOptions.Setting)
  | locale (name : String)
  | maxResults (n : Nat)
  | startIndex (n : Nat)

def set (c : SavedReportCall) : Setting → SavedReportCall
  | .option s => { c with options := c.options.set s }
  | .locale name => { c with window := { c.window with locale := some name } }
  | .maxResults n => { c with window := { c.window with maxResults := some n } }
  | .startIndex n => { c with window := { c.window with startIndex := some n } }

end SavedReportCall

end SellerApi
