import Mathlib.Data.List.Forall2
import SellerApi.Proofs.Report.Csv

/-! # Reports as tables

A table holds rows of texts under fields if each of its cells is the text there, read as its field's
kind (`Table.Holds`). Fields and rows determine the table (`Table.Holds.eq`), and a report without a
misfit is turned into the table that holds its rows, and its summary rows behind them if asked for
(`Report.converts`).
-/

namespace SellerApi

open SellerApi.Number SellerApi.Text

/-! ## Numbers -/

theorem readDecimal?_nil : readDecimal? [] = none := by decide

/-- Blanks alone are no number, whether or not they are asked for first. -/
theorem cellNumber?_eq (cell : String) :
    cellNumber? cell = readDecimal? (trimChars cell.toList) := by
  unfold cellNumber?
  cases trimChars cell.toList with
  | nil => exact readDecimal?_nil.symm
  | cons => rfl

theorem Report.cellNumber?_eq (r : Report) (i j : Nat) :
    r.cellNumber? i j = (r.rows[i]?.bind fun row => row[j]?).bind SellerApi.cellNumber? := by
  rw [Option.bind_assoc, funext SellerApi.cellNumber?_eq]
  rfl

/-! ## Cells -/

/-- A cell of a table, null if it holds `none`. A text is never null. -/
inductive Cell where
  | text (s : String)
  | integer (n : Option Int)
  | real (x : Option Binary64)
  deriving DecidableEq

/-- A text read as a kind. -/
def Cell.read : CellKind → String → Cell
  | .text, s => .text s
  | .integer, s => .integer (cellTally? s)
  | .real, s => .real (cellNumber? s)

namespace Cells

/-- The cell of a row. -/
def at? (cells : Cells) (i : Nat) : Option Cell :=
  match cells with
  | .texts cs => cs[i]?.map .text
  | .integers cs => cs[i]?.map .integer
  | .reals cs => cs[i]?.map .real

theorem at?_ofTexts (kind : CellKind) (texts : List String) (i : Nat) :
    (ofTexts kind texts).at? i = texts[i]?.map (Cell.read kind) := by
  cases kind with
  | text => rfl
  | integer | real => simp only [ofTexts, at?, List.getElem?_map, Option.map_map]; rfl

theorem at?_of_length_le {cells : Cells} {i : Nat} (h : cells.length ≤ i) : cells.at? i = none := by
  cases cells <;> simpa [at?, length] using h

/-- Cells of one kind differ in some row if they differ. -/
theorem ext_at? {a b : Cells} (hkind : a.kind = b.kind) (h : ∀ i, a.at? i = b.at? i) : a = b := by
  cases a with
  | texts cs =>
    cases b with
    | texts ds => exact congrArg texts (List.ext_getElem? fun i =>
        Option.map_injective (fun _ _ => Cell.text.inj) (h i))
    | integers | reals => cases hkind
  | integers cs =>
    cases b with
    | integers ds => exact congrArg integers (List.ext_getElem? fun i =>
        Option.map_injective (fun _ _ => Cell.integer.inj) (h i))
    | texts | reals => cases hkind
  | reals cs =>
    cases b with
    | reals ds => exact congrArg reals (List.ext_getElem? fun i =>
        Option.map_injective (fun _ _ => Cell.real.inj) (h i))
    | texts | integers => cases hkind

end Cells

/-! ## Tables -/

namespace Table

variable {t u : Table} {fields : List Field} {rows : List (List String)}

/-- The cell of a row and a column. -/
def cell? (t : Table) (i j : Nat) : Option Cell := t.columns[j]?.bind fun c => c.cells.at? i

/-- The table has a column for each field and a row for each of these, and its cells are theirs. -/
structure Holds (t : Table) (fields : List Field) (rows : List (List String)) : Prop where
  fields_eq : t.fields = fields
  rowCount_eq : t.rowCount = rows.length
  width_eq : ∀ row ∈ rows, row.length = fields.length
  cell_eq : ∀ {i j row text field}, rows[i]? = some row → row[j]? = some text →
    fields[j]? = some field → t.cell? i j = some (.read field.kind text)

theorem Holds.at?_eq (h : t.Holds fields rows) {j : Nat} (hj : j < t.columns.length) (i : Nat) :
    t.columns[j].cells.at? i =
      (rows[i]?.bind fun row => row[j]?).map (Cell.read t.columns[j].field.kind) := by
  have hfield : fields[j]? = some t.columns[j].field := by
    rw [← h.fields_eq, Table.fields, List.getElem?_map, List.getElem?_eq_getElem hj,
      Option.map_some]
  rcases Nat.lt_or_ge i rows.length with hi | hi
  · have hwidth := h.width_eq rows[i] (List.getElem_mem hi)
    have hcell : j < rows[i].length := hwidth ▸ (List.getElem?_eq_some_iff.1 hfield).1
    have hrow : rows[i]? = some rows[i] := List.getElem?_eq_getElem hi
    have htext : rows[i][j]? = some rows[i][j] := List.getElem?_eq_getElem hcell
    have heq := h.cell_eq hrow htext hfield
    rw [cell?, List.getElem?_eq_getElem hj, Option.bind_some] at heq
    rw [heq, hrow, Option.bind_some, htext, Option.map_some]
  · have hlength : t.columns[j].cells.length ≤ i := by
      rwa [t.length_eq _ (List.getElem_mem hj), h.rowCount_eq]
    rw [Cells.at?_of_length_le hlength, List.getElem?_eq_none hi]
    rfl

/-- Fields and rows determine a table. -/
theorem Holds.eq (h : t.Holds fields rows) (h' : u.Holds fields rows) : t = u := by
  have hfields : t.fields = u.fields := h.fields_eq.trans h'.fields_eq.symm
  have hlength : t.columns.length = u.columns.length := by
    simpa [Table.fields] using congrArg List.length hfields
  refine Table.ext (List.ext_getElem hlength fun j hj hj' => ?_)
    (h.rowCount_eq.trans h'.rowCount_eq.symm)
  have hfield : t.columns[j].field = u.columns[j].field := by
    have hget := congrArg (·[j]?) hfields
    simpa [Table.fields, hj, hj'] using hget
  refine TableColumn.ext hfield (Cells.ext_at? ?_ fun i => ?_)
  · rw [t.columns[j].kind_eq, u.columns[j].kind_eq, hfield]
  · rw [h.at?_eq hj, h'.at?_eq hj', hfield]

end Table

/-! ## Fields -/

/-- The field describes a column whose cells are of a kind: they may be null, and what else is told
is the currency, if the column has one. -/
structure Field.Describes (field : Field) (c : Column) (kind : CellKind) : Prop where
  name_eq : field.name = c.name
  kind_eq : field.kind = kind
  nullable : field.nullable = true
  mem_metadata_iff : ∀ key value,
    (key, value) ∈ field.metadata ↔ key = "currency" ∧ c.currency = some value

theorem Column.describes_field (c : Column) (kind : CellKind) :
    (c.field kind).Describes c kind := by
  refine ⟨rfl, rfl, rfl, fun key value => ?_⟩
  unfold field
  cases c.currency with
  | none => simp
  | some currency => simp [currencyKey, eq_comm]

/-! ## Conversion -/

namespace Report

variable {r : Report}

theorem holds_tableOf (kind : Column → CellKind) {rows : List (List String)}
    (h : ∀ row ∈ rows, row.length = r.columns.length) :
    (r.tableOf kind rows).Holds (r.columns.map fun c => c.field (kind c)) rows := by
  refine ⟨?_, rfl, fun row hrow => by rw [h row hrow, List.length_map], ?_⟩
  · refine List.ext_getElem (by simp [Table.fields]) fun j _ _ => ?_
    simp [Table.fields]
  · intro i j row text field hrow htext hfield
    rw [List.getElem?_map, Option.map_eq_some_iff] at hfield
    obtain ⟨c, hc, rfl⟩ := hfield
    have hcolumn : (r.tableOf kind rows).columns[j]? =
        some (c.filled (kind c) (columnCells rows j)) := by
      simp [List.getElem?_zipIdx, hc]
    rw [Table.cell?, hcolumn, Option.bind_some, Column.cells_filled, Cells.at?_ofTexts,
      columnCells, List.getElem?_map, hrow, Option.map_some, List.getD_eq_getElem?_getD, htext]
    rfl

/-- What a report is converted to: nothing, with the failure of its check, or the table that holds
these rows under these fields. -/
structure Converts (r : Report) (fields : List Field) (rows : List (List String))
    (result : Except Failure Table) : Prop where
  error_iff : ∀ f, result = .error f ↔ r.check = .error f
  ok_iff : ∀ t, result = .ok t ↔ r.check = .ok () ∧ t.Holds fields rows

theorem converts_tableOf (kind : Column → CellKind) {rows : List (List String)}
    (h : r.check = .ok () → ∀ row ∈ rows, row.length = r.columns.length) :
    r.Converts (r.columns.map fun c => c.field (kind c)) rows
      (r.check.bind fun _ => .ok (r.tableOf kind rows)) := by
  cases hcheck : r.check with
  | error f =>
    refine ⟨fun g => ?_, fun t => ⟨fun h => ?_, fun h => ?_⟩⟩
    · rw [hcheck, Except.bind, Except.error.injEq, Except.error.injEq]
    · cases h
    · cases hcheck.symm.trans h.1
  | ok =>
    have hholds := holds_tableOf kind (h hcheck)
    refine ⟨fun f => ⟨fun h => ?_, fun h => ?_⟩, fun t => ⟨fun h => ?_, fun h => ?_⟩⟩
    · cases h
    · cases hcheck.symm.trans h
    · obtain rfl : r.tableOf kind rows = t := Except.ok.inj h
      exact ⟨hcheck, hholds⟩
    · exact congrArg Except.ok (hholds.eq h.2)

/-- A report is converted if it passes its check, and else fails with its failure. The typed table
has a field for each column, of the kind that its role calls for, and its cells are those of the
data rows; the table of texts has nothing but texts, and if asked for the totals and the averages
behind the data, as far as the report has them. A cell that is asked for as a number is read as one
in a column of numbers is. -/
theorem converts (r : Report) :
    r.Converts r.fields r.rows r.typedTable ∧
    List.Forall₂ (fun field c => field.Describes c c.role.cellKind) r.fields r.columns ∧
    (∀ asked : Bool, r.Converts (r.columns.map fun c => c.field .text)
      (r.rows ++ if asked then summary "TOTALS" r.totals ++ summary "AVERAGES" r.averages else [])
      (r.textTable asked)) ∧
    List.Forall₂ (fun field c => field.Describes c .text)
      (r.columns.map fun c => c.field .text) r.columns ∧
    ∀ i j, r.cellNumber? i j = (r.rows[i]?.bind fun row => row[j]?).bind SellerApi.cellNumber? := by
  have hdescribed : ∀ kind : Column → CellKind, List.Forall₂ (fun field c =>
      field.Describes c (kind c)) (r.columns.map fun c => c.field (kind c)) r.columns := fun kind =>
    List.forall₂_map_left_iff.2 (List.forall₂_same.2 fun c _ => c.describes_field (kind c))
  refine ⟨?_, hdescribed _, fun asked => ?_, hdescribed _, r.cellNumber?_eq⟩
  · exact converts_tableOf _ fun hcheck => (check_eq_ok_iff.1 hcheck).1
  · have hsummary : r.summaryRows = summary "TOTALS" r.totals ++ summary "AVERAGES" r.averages :=
      r.summaryRows_eq
    rw [← hsummary]
    refine converts_tableOf _ fun hcheck row hrow => ?_
    refine length_of_mem_grid hcheck (List.mem_cons_of_mem _ ?_)
    rw [← hsummary]
    cases asked with
    | true => exact hrow
    | false => exact List.mem_append_left _ (by simpa using hrow)

/-- A count may be written with a point; an amount that is missing is null, and so is it if it is
asked for as a number. -/
example :
    let r : Report := { columns := [⟨"day", .dimension, none⟩, ⟨"clicks", .tally, none⟩,
      ⟨"paid", .currency, some "EUR"⟩], rows := [[" 7", " 12.0", " "]] }
    (r.typedTable.toOption.map fun t => (List.range 4).map (t.cell? 0)) =
      some [some (.text " 7"), some (.integer (some 12)), some (.real none), none] ∧
    r.cellNumber? 0 2 = none := by
  decide +kernel

end Report
end SellerApi
