import SellerApi.Failure
import SellerApi.Resource.Page
import SellerApi.Text.Blank

/-! # Reports

A report is a table of text cells: one header per column, data rows, and a row of averages and a
row of totals that may be missing. `Report.misfit?` finds the first row that is not as wide as the
headers. -/

namespace SellerApi

open SellerApi.Json SellerApi.Text

/-- What a column of a report holds. -/
inductive Role where
  /-- A value to group by. -/
  | dimension
  /-- An integer count. -/
  | tally
  | ratio
  /-- A monetary amount. -/
  | currency
  /-- A word that this library does not know. -/
  | other (word : String)
  deriving DecidableEq, Repr

namespace Role

/-- The word on the wire. -/
def word : Role → String
  | .dimension => "DIMENSION"
  | .tally => "METRIC_TALLY"
  | .ratio => "METRIC_RATIO"
  | .currency => "METRIC_CURRENCY"
  | .other w => w

def ofWord (w : String) : Role :=
  if w = "DIMENSION" then .dimension
  else if w = "METRIC_TALLY" then .tally
  else if w = "METRIC_RATIO" then .ratio
  else if w = "METRIC_CURRENCY" then .currency
  else .other w

def isMetric : Role → Bool
  | .tally | .ratio | .currency => true
  | _ => false

def isOther : Role → Bool
  | .other _ => true
  | _ => false

/-- Every word reads back. -/
@[simp] theorem word_ofWord (w : String) : (ofWord w).word = w := by
  unfold ofWord
  split
  · simp_all [word]
  · split
    · simp_all [word]
    · split
      · simp_all [word]
      · split <;> simp_all [word]

def ofNode? (n : Node) : Option Role := n.text?.map ofWord

def toValue (r : Role) : Value := .text r.word

end Role

/-- The header of a column. -/
structure Column where
  name : String := ""
  role : Role := .other ""
  /-- The currency of the amounts, by its three-letter code. -/
  currency : Option String := none
  deriving DecidableEq, Repr

def Column.ofNode? (n : Node) : Option Column := do
  let [name, role, currency] ← n.fields? ["name", "type", "currency"] | none
  return {
    name := ← orElse "" Node.text? name
    role := ← orElse (.other "") Role.ofNode? role
    currency := ← optional Node.text? currency }

def Column.toValue (c : Column) : Value :=
  recordOf [present "name" (.text c.name), present "type" c.role.toValue,
    whenSome "currency" .text c.currency]

/-- A generated report. -/
structure Report where
  kind : Option String := none
  columns : List Column := []
  rows : List (List String) := []
  averages : List String := []
  totals : List String := []
  /-- How many rows matched before their number was limited. -/
  matchedRows : Option Int := none
  warnings : List String := []
  deriving DecidableEq, Repr

/-- A count that travels as a text: an integer, or the text of one between blanks; a blank text
stands for none. Both must fit 64 bits. -/
def countOfNode? : Option Node → Option (Option Int)
  | none | some .null => some none
  | some (.number n) =>
    match n.number? with
    | some (.int i) => if isInt64 i then some (some i) else none
    | _ => none
  | some (.text (some s)) =>
    let inner := trimChars s.toList
    if inner.isEmpty then some none else (readInt64? inner).map some
  | _ => none

namespace Report

def ofNode? (n : Node) : Option Report := do
  let [kind, columns, rows, averages, totals, matchedRows, warnings] ←
    n.fields? ["kind", "headers", "rows", "averages", "totals", "totalMatchedRows", "warnings"]
    | none
  return {
    kind := ← optional Node.text? kind
    columns := ← orElse [] (Node.list? Column.ofNode?) columns
    rows := ← orElse [] (Node.list? (Node.list? Node.text?)) rows
    averages := ← orElse [] (Node.list? Node.text?) averages
    totals := ← orElse [] (Node.list? Node.text?) totals
    matchedRows := ← countOfNode? matchedRows
    warnings := ← orElse [] (Node.list? Node.text?) warnings }

/-- A list of texts. -/
def textsValue (cells : List String) : Value := .list (cells.map .text)

def toValue (r : Report) : Value :=
  recordOf [whenSome "kind" .text r.kind, whenAny "headers" Column.toValue r.columns,
    whenAny "rows" textsValue r.rows, whenAny "averages" .text r.averages,
    whenAny "totals" .text r.totals,
    whenSome "totalMatchedRows" (fun n => .text (intText n)) r.matchedRows,
    whenAny "warnings" .text r.warnings]

instance : Resource.Wire Report := ⟨ofNode?, toValue⟩

/-- The number of columns. -/
def width (r : Report) : Nat := r.columns.length

end Report

/-- A row that is not as wide as the headers. -/
inductive Misfit where
  | row (index cells width : Nat)
  | averages (cells width : Nat)
  | totals (cells width : Nat)
  deriving DecidableEq, Repr

/-- The two numbers that differ. -/
def widthsText (cells width : Nat) : String :=
  " has " ++ natText cells ++ " cells but there are " ++ natText width ++ " headers"

def Misfit.message : Misfit → String
  | .row index cells width => "report row " ++ natText index ++ widthsText cells width
  | .averages cells width => "report averages" ++ widthsText cells width
  | .totals cells width => "report totals" ++ widthsText cells width

namespace Report

/-- The first of the rows, counted from `index`, that has another width. -/
def misfitRow? (width : Nat) : (index : Nat) → List (List String) → Option Misfit
  | _, [] => none
  | index, row :: rows =>
    if row.length = width then misfitRow? width (index + 1) rows
    else some (.row index row.length width)

/-- The first misfit: among the data rows in order, then the averages, then the totals. Averages
and totals may be missing. -/
def misfit? (r : Report) : Option Misfit :=
  match misfitRow? r.width 0 r.rows with
  | some m => some m
  | none =>
    if r.averages ≠ [] ∧ r.averages.length ≠ r.width then
      some (.averages r.averages.length r.width)
    else if r.totals ≠ [] ∧ r.totals.length ≠ r.width then
      some (.totals r.totals.length r.width)
    else none

/-- Fails with the first misfit. -/
def check (r : Report) : Except Failure Unit :=
  match r.misfit? with
  | some m => .error (.undecodable m.message)
  | none => .ok ()

end Report
end SellerApi
