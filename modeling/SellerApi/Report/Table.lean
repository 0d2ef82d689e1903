import SellerApi.Report.Basic
import SellerApi.Number.Decimal

/-! # Tables

A `Table` is a report turned into columns, each with a `Field` that says what it is. In
`Report.typedTable` a count column holds integers, a ratio or amount column doubles and every other
column the texts themselves; a cell that does not read as its column's kind is null. In
`Report.textTable` every cell is its own text, and rows of totals and averages may follow the data.
Both refuse a report with a misfit, with that misfit. -/

namespace SellerApi

open SellerApi.Number SellerApi.Text

/-- What the cells of a column are. -/
inductive CellKind where
  | text
  | integer
  | real
  deriving DecidableEq, Repr

def Role.cellKind : Role → CellKind
  | .tally => .integer
  | .ratio | .currency => .real
  | .dimension | .other _ => .text

/-- The cells of a column, from the first row to the last. -/
inductive Cells where
  | texts (cells : List String)
  | integers (cells : List (Option Int))
  | reals (cells : List (Option Binary64))
  deriving DecidableEq, Repr

def Cells.kind : Cells → CellKind
  | .texts _ => .text
  | .integers _ => .integer
  | .reals _ => .real

def Cells.length : Cells → Nat
  | .texts cs => cs.length
  | .integers cs => cs.length
  | .reals cs => cs.length

def Cells.hasNull : Cells → Bool
  | .texts _ => false
  | .integers cs => cs.any (·.isNone)
  | .reals cs => cs.any (·.isNone)

/-- The name under which a field carries the currency of its column. -/
def currencyKey : String := "currency"

/-- What a column of a table is: its name, the kind of its cells, whether they may be null, and what
else is told of it. -/
structure Field where
  name : String
  kind : CellKind
  nullable : Bool
  metadata : List (String × String)
  deriving DecidableEq, Repr

/-- The field of a column whose cells are read as a kind. -/
def Column.field (c : Column) (kind : CellKind) : Field where
  name := c.name
  kind := kind
  nullable := true
  metadata := match c.currency with
    | some currency => [(currencyKey, currency)]
    | none => []

/-- A field with the cells that it allows. -/
@[ext]
structure TableColumn where
  field : Field
  cells : Cells
  kind_eq : cells.kind = field.kind
  nullable_of_hasNull : cells.hasNull = true → field.nullable = true
  deriving DecidableEq, Repr

namespace TableColumn

def name (c : TableColumn) : String := c.field.name

def currency (c : TableColumn) : Option String := c.field.metadata.lookup currencyKey

end TableColumn

/-- Columns of one length. -/
@[ext]
structure Table where
  columns : List TableColumn
  rowCount : Nat
  length_eq : ∀ c ∈ columns, c.cells.length = rowCount
  deriving DecidableEq, Repr

def Table.fields (t : Table) : List Field := t.columns.map (·.field)

/-- A cell as a double, blanks around it aside. -/
def cellNumber? (cell : String) : Option Binary64 :=
  let inner := trimChars cell.toList
  if inner.isEmpty then none else readDecimal? inner

/-- A cell as an integer of 64 bits: written as one, or a number without a fraction whose
magnitude is below `2 ^ 63`. -/
def cellTally? (cell : String) : Option Int :=
  match readInt64? (trimChars cell.toList) with
  | some n => some n
  | none =>
    ((cellNumber? cell).bind Binary64.whole?).filter fun n => n.natAbs < 0x8000_0000_0000_0000

/-- Cells read as a kind. -/
def Cells.ofTexts : CellKind → List String → Cells
  | .text, cells => .texts cells
  | .integer, cells => .integers (cells.map cellTally?)
  | .real, cells => .reals (cells.map cellNumber?)

@[simp] theorem Cells.kind_ofTexts (kind : CellKind) (cells : List String) :
    (ofTexts kind cells).kind = kind := by
  cases kind <;> rfl

@[simp] theorem Cells.length_ofTexts (kind : CellKind) (cells : List String) :
    (ofTexts kind cells).length = cells.length := by
  cases kind <;> simp [ofTexts, length]

/-- A column with its cells, read as a kind. -/
def Column.filled (c : Column) (kind : CellKind) (cells : List String) : TableColumn where
  field := c.field kind
  cells := .ofTexts kind cells
  kind_eq := Cells.kind_ofTexts kind cells
  nullable_of_hasNull := fun _ => rfl

section
variable (c : Column) (kind : CellKind) (cells : List String)

@[simp] theorem Column.field_filled : (c.filled kind cells).field = c.field kind := rfl

@[simp] theorem Column.name_filled : (c.filled kind cells).name = c.name := rfl

@[simp] theorem Column.cells_filled : (c.filled kind cells).cells = .ofTexts kind cells := rfl

end

/-- The label of the row of totals. -/
def totalsLabel : String := "TOTALS"

/-- The label of the row of averages. -/
def averagesLabel : String := "AVERAGES"

/-- A summary row; its label stands in the first cell if that is empty. -/
def labelled (label : String) : List String → List String
  | "" :: cells => label :: cells
  | cells => cells

namespace Report

/-- The rows of totals and of averages that the report has, labelled. -/
def summaryRows (r : Report) : List (List String) :=
  [(totalsLabel, r.totals), (averagesLabel, r.averages)].filterMap fun (label, cells) =>
    if cells.isEmpty then none else some (labelled label cells)

/-- One column of rows; a row that is too short has an empty cell there. -/
def columnCells (rows : List (List String)) (i : Nat) : List String := rows.map (·.getD i "")

/-- The columns of rows, each read as a kind. -/
def tableOf (r : Report) (kind : Column → CellKind) (rows : List (List String)) : Table where
  columns := r.columns.zipIdx.map fun (c, i) => c.filled (kind c) (columnCells rows i)
  rowCount := rows.length
  length_eq := by
    intro c hc
    obtain ⟨_, -, rfl⟩ := List.mem_map.1 hc
    simp [columnCells]

@[simp] theorem columns_tableOf (r : Report) (kind : Column → CellKind)
    (rows : List (List String)) : (r.tableOf kind rows).columns =
      r.columns.zipIdx.map fun (c, i) => c.filled (kind c) (columnCells rows i) := rfl

@[simp] theorem rowCount_tableOf (r : Report) (kind : Column → CellKind)
    (rows : List (List String)) : (r.tableOf kind rows).rowCount = rows.length := rfl

/-- The data rows, each column read as its role says. -/
def typedTable (r : Report) : Except Failure Table := do
  r.check
  return r.tableOf (·.role.cellKind) r.rows

/-- The rows as texts, with the summary rows behind the data if asked. -/
def textTable (r : Report) (summary : Bool) : Except Failure Table := do
  r.check
  return r.tableOf (fun _ => .text) (r.rows ++ if summary then r.summaryRows else [])

/-- The fields of the typed table. -/
def fields (r : Report) : List Field := r.columns.map fun c => c.field c.role.cellKind

/-- The names and kinds of the columns of the typed table. -/
def schema (r : Report) : List (String × CellKind) := r.fields.map fun f => (f.name, f.kind)

/-- The position of the first column of a name. -/
def columnIndex? (r : Report) (name : String) : Option Nat :=
  r.columns.findIdx? fun c => c.name = name

/-- A cell as a double, by row and column; blanks around the cell do not count. -/
def cellNumber? (r : Report) (row column : Nat) : Option Binary64 := do
  let cells ← r.rows[row]?
  let cell ← cells[column]?
  readDecimal? (trimChars cell.toList)

/-- The columns to group by. -/
def dimensions (r : Report) : List Column := r.columns.filter fun c => c.role = .dimension

/-- The columns of amounts, counts and ratios. -/
def metrics (r : Report) : List Column := r.columns.filter fun c => c.role.isMetric

/-- A row as a record from column names to cells, in the order of the names; of columns with one
name the last counts. Cells beyond the headers are dropped. -/
def rowRecord (r : Report) (row : List String) : List (String × Json.Value) :=
  (r.columns.zip row).foldl (fun ms (c, cell) => Json.putMember c.name (.text cell) ms) []

/-- Every row as a record. -/
def rowRecords (r : Report) : List Json.Value := r.rows.map fun row => .record (r.rowRecord row)

end Report
end SellerApi
