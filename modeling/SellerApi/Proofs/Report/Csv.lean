import SellerApi.Proofs.Report.CsvReader

/-! # Reports as comma-separated values

A report that fits its headers is written without loss: its lines read back as the column names,
the data rows and the summary rows (`Report.toCsv_reads_back`). A table of texts is built column by
column, and its rows are those that it was built from when they are as wide as the headers
(`Report.textRows_tableOf`).
-/

namespace SellerApi.Report

theorem misfitRow?_eq_none_iff {width index : Nat} {rows : List (List String)} :
    misfitRow? width index rows = none ↔ ∀ row ∈ rows, row.length = width := by
  induction rows generalizing index with
  | nil => simp [misfitRow?]
  | cons row rows ih =>
    rw [misfitRow?, List.forall_mem_cons]
    split
    · next h => rw [ih, and_iff_right h]
    · next h => simp [h]

/-- What a report keeps to that has no misfit. -/
theorem check_eq_ok_iff {r : Report} : r.check = .ok () ↔
    (∀ row ∈ r.rows, row.length = r.columns.length) ∧
      (r.averages ≠ [] → r.averages.length = r.columns.length) ∧
        (r.totals ≠ [] → r.totals.length = r.columns.length) := by
  have hmisfit : r.check = .ok () ↔ r.misfit? = none := by
    unfold check
    split <;> simp_all
  have hrows : misfitRow? r.columns.length 0 r.rows = none ↔
      ∀ row ∈ r.rows, row.length = r.columns.length := misfitRow?_eq_none_iff
  rw [hmisfit, misfit?, ← hrows]
  cases hrow : misfitRow? r.width 0 r.rows with
  | some m => simp [show misfitRow? r.columns.length 0 r.rows = some m from hrow]
  | none =>
    rw [and_iff_right (show misfitRow? r.columns.length 0 r.rows = none from hrow)]
    by_cases ha : r.averages ≠ [] ∧ r.averages.length ≠ r.width
    · simp only [if_pos ha, reduceCtorEq, false_iff]
      exact fun h => ha.2 (h.1 ha.1)
    · by_cases ht : r.totals ≠ [] ∧ r.totals.length ≠ r.width
      · simp only [if_neg ha, if_pos ht, reduceCtorEq, false_iff]
        exact fun h => ht.2 (h.2 ht.1)
      · simp only [if_neg ha, if_neg ht, true_iff]
        rw [not_and, not_not] at ha ht
        exact ⟨ha, ht⟩

/-- A table's column of cells, read downwards. -/
theorem textAt_columnCells {rows : List (List String)} {i j : Nat} (hi : i < rows.length) :
    (Cells.ofTexts .text (columnCells rows j)).textAt i = rows[i].getD j "" := by
  simp [Cells.ofTexts, Cells.textAt, columnCells, List.getD_eq_getElem?_getD, hi]

/-- Turned into columns and back, rows of the right width are the same. -/
theorem textRows_tableOf {r : Report} {rows : List (List String)}
    (h : ∀ row ∈ rows, row.length = r.columns.length) :
    (r.tableOf (fun _ => .text) rows).textRows = rows := by
  refine List.ext_getElem (by simp [Table.textRows]) fun i _ hi => ?_
  have hwidth := h rows[i] (List.getElem_mem hi)
  refine List.ext_getElem (by simp [Table.textRows, hwidth]) fun j _ hj => ?_
  simp only [Table.textRows, columns_tableOf, List.getElem_map, List.getElem_range,
    Column.cells_filled, List.getElem_zipIdx, Nat.zero_add]
  rw [textAt_columnCells hi, List.getD_eq_getElem?_getD, List.getElem?_eq_getElem hj,
    Option.getD_some]

theorem names_tableOf (r : Report) (kind : Column → CellKind) (rows : List (List String)) :
    (r.tableOf kind rows).columns.map (·.name) = r.columns.map (·.name) := by
  refine List.ext_getElem (by simp) fun i _ _ => ?_
  simp

/-- The row that stands for a summary, if there is one: as it was sent, but for an empty first cell,
which is the label. -/
def summary (label : String) : List String → List (List String)
  | [] => []
  | first :: rest => [(if first = "" then label else first) :: rest]

theorem summaryRows_eq (r : Report) :
    r.summaryRows = summary totalsLabel r.totals ++ summary averagesLabel r.averages := by
  have hrow : ∀ label cells, (if cells.isEmpty then none else some (labelled label cells)) =
      (summary label cells).head? := by
    intro label cells
    cases cells with
    | nil => rfl
    | cons first rest =>
      by_cases hf : first = ""
      · subst hf
        rfl
      · simp [summary, labelled, hf]
  have hone : ∀ label cells, (summary label cells).head?.toList = summary label cells := by
    intro label cells
    cases cells <;> rfl
  rw [← hone totalsLabel, ← hone averagesLabel, ← hrow, ← hrow, summaryRows]
  cases r.totals <;> cases r.averages <;> rfl

theorem length_of_mem_summary {label : String} {cells row : List String} {n : Nat}
    (h : cells ≠ [] → cells.length = n) (hrow : row ∈ summary label cells) : row.length = n := by
  cases cells with
  | nil => contradiction
  | cons first rest =>
    rw [summary, List.mem_singleton] at hrow
    rw [hrow, ← h (List.cons_ne_nil _ _), List.length_cons, List.length_cons]

/-- What stands in the lines of a report: the names of its columns, its rows, and the summaries. -/
def grid (r : Report) : List (List String) :=
  r.columns.map (·.name) ::
    (r.rows ++ (summary "TOTALS" r.totals ++ summary "AVERAGES" r.averages))

theorem length_of_mem_grid {r : Report} (h : r.check = .ok ()) {record : List String}
    (hrecord : record ∈ r.grid) : record.length = r.columns.length := by
  obtain ⟨hrows, haverages, htotals⟩ := check_eq_ok_iff.1 h
  rw [grid, List.mem_cons, List.mem_append, List.mem_append] at hrecord
  rcases hrecord with rfl | hrow | htotal | haverage
  · exact List.length_map _
  · exact hrows record hrow
  · exact length_of_mem_summary htotals htotal
  · exact length_of_mem_summary haverages haverage

theorem toCsv_eq {r : Report} (h : r.check = .ok ()) :
    r.toCsv = .ok (String.ofList (Csv.lines r.grid)) := by
  have hrows : ∀ row ∈ r.rows ++ r.summaryRows, row.length = r.columns.length := by
    intro row hrow
    rw [summaryRows_eq] at hrow
    exact length_of_mem_grid h (List.mem_cons_of_mem _ hrow)
  have htable : r.textTable true = .ok (r.tableOf (fun _ => .text) (r.rows ++ r.summaryRows)) := by
    simp [textTable, h, bind, Except.bind, pure, Except.pure]
  calc r.toCsv
    _ = .ok (String.ofList (Csv.lines
          ((r.tableOf (fun _ => .text) (r.rows ++ r.summaryRows)).columns.map (·.name) ::
            (r.tableOf (fun _ => .text) (r.rows ++ r.summaryRows)).textRows))) := by
      rw [toCsv, htable]
      rfl
    _ = .ok (String.ofList (Csv.lines r.grid)) := by
      rw [names_tableOf, textRows_tableOf hrows, summaryRows_eq]
      rfl

/-- A report that fits its headers reads back from its lines, whether or not the reader takes a
blank line for a record. Every record is as wide as the headers. -/
theorem toCsv_reads_back {r : Report} (hcheck : r.check = .ok ()) (hcolumns : r.columns ≠ [])
    (blank : Bool) : ∃ text, r.toCsv = .ok text ∧ Csv.read blank text = some r.grid ∧
      ∀ record ∈ r.grid, record.length = r.columns.length := by
  refine ⟨_, toCsv_eq hcheck, Csv.read_lines blank fun record hrecord => ?_, fun record hrecord =>
    length_of_mem_grid hcheck hrecord⟩
  have hlen := length_of_mem_grid hcheck hrecord
  have hpos := List.length_pos_of_ne_nil hcolumns
  exact List.ne_nil_of_length_pos (by omega)

/-- Cells with each special character, an empty cell, and one summary that has its own label. -/
def quotedReport : Report :=
  { columns := [{ name := "D,ay" }, { name := "" }]
    rows := [["1\n2", "\"\""], ["", "\r\n,é"]], averages := ["all", ""], totals := ["", "3"] }

theorem toCsv_reads_back_quoted : quotedReport.check = .ok () ∧
    ∃ text, quotedReport.toCsv = .ok text ∧
      Csv.read false text = some [["D,ay", ""], ["1\n2", "\"\""], ["", "\r\n,é"], ["TOTALS", "3"],
        ["all", ""]] := by
  refine ⟨rfl, ?_⟩
  obtain ⟨text, htext, hread, -⟩ := toCsv_reads_back (r := quotedReport) rfl (by decide) false
  exact ⟨text, htext, hread⟩

end SellerApi.Report
