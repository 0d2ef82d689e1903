import SellerApi.Json.Writer
import SellerApi.Report.Table

/-! # JSON lines

A report as one JSON record per data row, each on a line of its own. The members are the columns
in order, without those whose cell is null; a double that is no finite number is written `null`. -/

namespace SellerApi

open SellerApi.Number

namespace JsonLines

/-- Doubles in report rows: positional from `1e-5` to below `1e10`. -/
def floatStyle : FloatStyle := ⟨-5, 9, true, false⟩

/-- The text of a cell; `none` for a null one. -/
def cell? (cells : Cells) (i : Nat) : Option (List Char) :=
  match cells with
  | .texts cs => cs[i]?.map Json.renderText
  | .integers cs => (cs.getD i none).map fun n => (Text.intText n).toList
  | .reals cs => (cs.getD i none).map fun x => (floatText? floatStyle x).getD "null".toList

/-- Members and the commas between them. -/
def joined : List (List Char) → List Char
  | [] => []
  | [m] => m
  | m :: n :: ms => m ++ ',' :: joined (n :: ms)

/-- The record of one row. -/
def line (columns : List TableColumn) (i : Nat) : List Char :=
  '{' :: joined (columns.filterMap fun c =>
    (cell? c.cells i).map fun text => Json.renderText c.name ++ ':' :: text) ++ ['}']

end JsonLines

/-- The report as JSON lines. -/
def Report.toJsonLines (r : Report) : Except Failure String := do
  let t ← r.typedTable
  return String.ofList
    ((List.range t.rowCount).flatMap fun i => JsonLines.line t.columns i ++ ['\n'])

end SellerApi
