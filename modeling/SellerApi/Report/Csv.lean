import SellerApi.Report.Table

/-! # Comma-separated values

A report as lines of comma-separated fields: the column names, the data rows, then totals and
averages. A line ends with a line feed. A field stands between quotes, with its own quotes
doubled, if it holds a comma, a quote or a line break, or if it is empty and alone on its line. -/

namespace SellerApi.Csv

/-- A character that a field cannot hold outside quotes. -/
def isSpecial (c : Char) : Bool := c = ',' || c = '"' || c = '\n' || c = '\r'

/-- The text of a quoted field, its quotes doubled. -/
def doubled (cs : List Char) : List Char :=
  cs.flatMap fun c => if c = '"' then ['"', '"'] else [c]

/-- A field between quotes. -/
def quote (cs : List Char) : List Char := '"' :: doubled cs ++ ['"']

/-- A field, quoted if it has to be. -/
def field (s : String) : List Char :=
  if s.toList.any isSpecial then quote s.toList else s.toList

/-- Fields and the commas between them. -/
def fields : List String → List Char
  | [] => []
  | [s] => field s
  | s :: t :: ss => field s ++ ',' :: fields (t :: ss)

/-- A line without its end. -/
def line : List String → List Char
  | [] => quote []
  | [s] => if s = "" then quote [] else field s
  | ss => fields ss

/-- Lines with their ends. -/
def lines (rows : List (List String)) : List Char := rows.flatMap fun row => line row ++ ['\n']

end SellerApi.Csv

namespace SellerApi

/-- The text of a cell that is a text. -/
def Cells.textAt (cells : Cells) (i : Nat) : String :=
  match cells with
  | .texts cs => cs.getD i ""
  | _ => ""

/-- The rows of a table of texts. -/
def Table.textRows (t : Table) : List (List String) :=
  (List.range t.rowCount).map fun i => t.columns.map fun c => c.cells.textAt i

/-- The report as comma-separated values. -/
def Report.toCsv (r : Report) : Except Failure String := do
  let t ← r.textTable true
  return String.ofList (Csv.lines (t.columns.map (·.name) :: t.textRows))

end SellerApi
