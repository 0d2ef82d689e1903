import SellerApi.Report.Csv
import SellerApi.Report.JsonLines
import SellerApi.Storage.Disk

/-! # Exports

A report is written to an `Outlet` piece by piece. An outlet may refuse a piece, and what it took
before stays taken. The table is made before anything is written: then comma-separated values and
JSON records follow line by line, and a Parquet file begins with its first octets as soon as there
is a writer for it. -/

namespace SellerApi

/-- Something that takes content piece by piece. -/
structure Outlet (σ : Type) where
  take : Content → σ → Except Failure Unit × σ

/-- Gives an outlet lines with their ends, until it refuses one. -/
def Outlet.takeLines {σ : Type} (o : Outlet σ) : List (List Char) → σ → Except Failure Unit × σ
  | [], s => (.ok (), s)
  | line :: lines, s =>
    match o.take (.octets (Text.Utf8.encode (line ++ ['\n']))) s with
    | (.ok (), s) => o.takeLines lines s
    | refused => refused

/-- The octets that a Parquet file begins with. -/
def Parquet.magic : List UInt8 := [0x50, 0x41, 0x52, 0x31]

namespace Report

variable {σ : Type}

/-- Writes the lines of a table, if there is one. -/
def writeLines (table : Except Failure Table) (lines : Table → List (List Char)) (o : Outlet σ)
    (s : σ) : Except Failure Unit × σ :=
  match table with
  | .error f => (.error f, s)
  | .ok t => o.takeLines (lines t) s

/-- Writes the report as comma-separated values. -/
def writeCsv (r : Report) : Outlet σ → σ → Except Failure Unit × σ :=
  writeLines (r.textTable true) fun t => (t.columns.map (·.name) :: t.textRows).map Csv.line

/-- Writes the report as JSON lines. -/
def writeJsonLines (r : Report) : Outlet σ → σ → Except Failure Unit × σ :=
  writeLines r.typedTable fun t => (List.range t.rowCount).map (JsonLines.line t.columns)

end Report
end SellerApi
