import SellerApi.Call.Send
import SellerApi.Proofs.Client.Fetching
import SellerApi.Proofs.Json.Record
import SellerApi.Proofs.Report.Csv

/-! # Rectangular reports

A report that passes its check is rectangular, and one that does not names its first misfit. Calls
hand out rectangular reports only, and every cell that the tables ask for is there
(`Report.rectangular`). -/

namespace SellerApi

namespace Report

open SellerApi.Json

/-- Every row has one cell for each column, and so have the averages and the totals unless they are
missing. -/
structure IsRectangular (r : Report) : Prop where
  rows : ∀ row ∈ r.rows, row.length = r.columns.length
  averages : r.averages = [] ∨ r.averages.length = r.columns.length
  totals : r.totals = [] ∨ r.totals.length = r.columns.length

/-- What does not fit first: a data row before the averages, and these before the totals. -/
inductive FirstMisfit (r : Report) : Misfit → Prop where
  | row {index : Nat} {row : List String} (hrow : r.rows[index]? = some row)
    (hwidth : row.length ≠ r.columns.length)
    (hbefore : ∀ i < index, ∀ row', r.rows[i]? = some row' → row'.length = r.columns.length) :
    FirstMisfit r (.row index row.length r.columns.length)
  | averages (hrows : ∀ row ∈ r.rows, row.length = r.columns.length) (hsome : r.averages ≠ [])
    (hwidth : r.averages.length ≠ r.columns.length) :
    FirstMisfit r (.averages r.averages.length r.columns.length)
  | totals (hrows : ∀ row ∈ r.rows, row.length = r.columns.length)
    (haverages : r.averages = [] ∨ r.averages.length = r.columns.length) (hsome : r.totals ≠ [])
    (hwidth : r.totals.length ≠ r.columns.length) :
    FirstMisfit r (.totals r.totals.length r.columns.length)

variable {r : Report}

/-! ## The check -/

theorem isRectangular_iff : r.IsRectangular ↔ r.check = .ok () := by
  have hfits : ∀ cells : List String, (cells = [] ∨ cells.length = r.columns.length) ↔
      (cells ≠ [] → cells.length = r.columns.length) := fun cells => by
    rw [← or_iff_not_imp_left]
  rw [check_eq_ok_iff, ← hfits, ← hfits]
  exact ⟨fun h => ⟨h.rows, h.averages, h.totals⟩, fun h => ⟨h.1, h.2.1, h.2.2⟩⟩

theorem misfitRow?_eq_some_iff {width index : Nat} {rows : List (List String)} {m : Misfit} :
    misfitRow? width index rows = some m ↔ ∃ i row, rows[i]? = some row ∧ row.length ≠ width ∧
      (∀ j < i, ∀ row', rows[j]? = some row' → row'.length = width) ∧
        m = .row (index + i) row.length width := by
  induction rows generalizing index with
  | nil => simp [misfitRow?]
  | cons first rows ih =>
    rw [misfitRow?]
    split
    · next hfirst =>
      rw [ih]
      constructor
      · rintro ⟨i, row, hrow, hwidth, hbefore, rfl⟩
        refine ⟨i + 1, row, hrow, hwidth, fun j hj row' hrow' => ?_, by
          rw [Nat.add_right_comm]
          rfl⟩
        cases j with
        | zero =>
          obtain rfl := Option.some.inj hrow'
          exact hfirst
        | succ j => exact hbefore j (by omega) row' hrow'
      · rintro ⟨i, row, hrow, hwidth, hbefore, rfl⟩
        cases i with
        | zero =>
          obtain rfl := Option.some.inj hrow
          exact absurd hfirst hwidth
        | succ i =>
          exact ⟨i, row, hrow, hwidth, fun j hj => hbefore (j + 1) (by omega), by
            rw [Nat.add_right_comm]; rfl⟩
    · next hfirst =>
      constructor
      · intro h
        obtain rfl := Option.some.inj h
        exact ⟨0, first, rfl, hfirst, fun j hj => absurd hj (Nat.not_lt_zero j), rfl⟩
      · rintro ⟨i, row, hrow, hwidth, hbefore, rfl⟩
        cases i with
        | zero =>
          obtain rfl := Option.some.inj hrow
          rfl
        | succ i => exact absurd (hbefore 0 (Nat.succ_pos i) first rfl) hfirst

theorem FirstMisfit.misfit?_eq {m : Misfit} (h : r.FirstMisfit m) : r.misfit? = some m := by
  have hfit : (∀ row ∈ r.rows, row.length = r.columns.length) →
      misfitRow? r.width 0 r.rows = none := misfitRow?_eq_none_iff.2
  unfold misfit?
  cases h with
  | @row index row hrow hwidth hbefore =>
    have hfirst : misfitRow? r.width 0 r.rows = some (.row index row.length r.width) :=
      misfitRow?_eq_some_iff.2 ⟨index, row, hrow, hwidth, hbefore, by rw [Nat.zero_add]⟩
    rw [hfirst]
    rfl
  | averages hrows hsome hwidth =>
    rw [hfit hrows]
    exact if_pos ⟨hsome, hwidth⟩
  | totals hrows haverages hsome hwidth =>
    rw [hfit hrows]
    refine (if_neg fun h => ?_).trans (if_pos ⟨hsome, hwidth⟩)
    exact haverages.elim h.1 h.2

theorem firstMisfit_of_misfit? {m : Misfit} (h : r.misfit? = some m) : r.FirstMisfit m := by
  unfold misfit? at h
  split at h
  · next hfound =>
    obtain ⟨index, row, hrow, hwidth, hbefore, rfl⟩ := misfitRow?_eq_some_iff.1 hfound
    obtain rfl := Option.some.inj h
    rw [Nat.zero_add]
    exact .row hrow hwidth hbefore
  · next hnone =>
    have hrows := misfitRow?_eq_none_iff.1 hnone
    split at h
    · next haverages =>
      obtain rfl := Option.some.inj h
      exact .averages hrows haverages.1 haverages.2
    next haverages =>
    split at h
    · next htotals =>
      obtain rfl := Option.some.inj h
      rw [not_and_or, not_not, not_not] at haverages
      exact .totals hrows haverages htotals.1 htotals.2
    · contradiction

theorem check_eq_error_iff {f : Failure} :
    r.check = .error f ↔ ∃ m, r.FirstMisfit m ∧ f = .undecodable m.message := by
  unfold check
  constructor
  · intro h
    split at h
    · next m hm => exact ⟨m, firstMisfit_of_misfit? hm, (Except.error.inj h).symm⟩
    · contradiction
  · rintro ⟨m, hm, rfl⟩
    rw [hm.misfit?_eq]

/-! ## Cells that are asked for -/

/-- A column of rows, looked up cell by cell; `none` if a row has no cell there. -/
def columnCells? (rows : List (List String)) (i : Nat) : Option (List String) :=
  rows.mapM fun row => row[i]?

/-- The cell of a summary row in a column. Its first cell is looked at for the first column only,
where the label stands in for it if it is empty. -/
def summaryCell? (label : String) (cells : List String) (i : Nat) : Option String := do
  if i = 0 then
    let first ← cells[0]?
    if first = "" then return label
  cells[i]?

/-- The summaries that the report has, with their labels. -/
def summaries (r : Report) : List (String × List String) :=
  [(totalsLabel, r.totals), (averagesLabel, r.averages)].filter fun (_, cells) => !cells.isEmpty

/-- The columns of the typed table, looked up cell by cell. -/
def typedColumns? (r : Report) : Option (List TableColumn) :=
  r.columns.zipIdx.mapM fun (c, i) => do
    return c.filled c.role.cellKind (← columnCells? r.rows i)

/-- The columns of the table of texts, looked up cell by cell. -/
def textColumns? (r : Report) (summary : Bool) : Option (List TableColumn) :=
  r.columns.zipIdx.mapM fun (c, i) => do
    let data ← columnCells? r.rows i
    let extra ← (if summary then r.summaries else []).mapM fun (label, cells) =>
      summaryCell? label cells i
    return c.filled .text (data ++ extra)

theorem mapM_eq_some_map {α β : Type} {f : α → Option β} {g : α → β} {xs : List α}
    (h : ∀ x ∈ xs, f x = some (g x)) : xs.mapM f = some (xs.map g) :=
  mapM_eq_some_of_forall₂ (List.forall₂_map_right_iff.2 (List.forall₂_same.2 h))

theorem columnCells?_eq {rows : List (List String)} {i : Nat} (h : ∀ row ∈ rows, i < row.length) :
    columnCells? rows i = some (columnCells rows i) :=
  mapM_eq_some_map fun row hrow => by
    rw [List.getD_eq_getElem?_getD, List.getElem?_eq_getElem (h row hrow), Option.getD_some]

theorem summaryCell?_eq {label : String} {cells : List String} {i : Nat} (h : i < cells.length) :
    summaryCell? label cells i = some ((labelled label cells).getD i "") := by
  cases cells with
  | nil => exact absurd h (Nat.not_lt_zero i)
  | cons first rest =>
    have hlabelled : labelled label (first :: rest) =
        (if first = "" then label else first) :: rest := by
      by_cases hfirst : first = ""
      · subst hfirst
        rfl
      · simp [labelled, hfirst]
    rw [hlabelled]
    cases i with
    | zero => by_cases hfirst : first = "" <;> simp [summaryCell?, hfirst]
    | succ i =>
      have hi : i < rest.length := Nat.lt_of_succ_lt_succ h
      simp [summaryCell?, hi]

theorem summaryRows_eq_map (r : Report) :
    r.summaryRows = r.summaries.map fun (label, cells) => labelled label cells := by
  unfold summaryRows summaries
  cases r.totals <;> cases r.averages <;> rfl

theorem length_of_mem_summaries (h : r.IsRectangular) {label : String} {cells : List String}
    (hmem : (label, cells) ∈ r.summaries) : cells.length = r.columns.length := by
  simp only [summaries, List.mem_filter, List.mem_cons, Prod.mk.injEq, List.not_mem_nil, or_false,
    Bool.not_eq_true', List.isEmpty_eq_false_iff] at hmem
  obtain ⟨⟨-, rfl⟩ | ⟨-, rfl⟩, hsome⟩ := hmem
  · exact h.totals.resolve_left hsome
  · exact h.averages.resolve_left hsome

/-- In a rectangular report no cell that is asked for is missing, and the columns that are made of
them are those of the table. -/
theorem typedColumns?_eq (h : r.IsRectangular) :
    r.typedColumns? = some (r.tableOf (·.role.cellKind) r.rows).columns := by
  refine mapM_eq_some_map fun (c, i) hci => ?_
  have hi : i < r.columns.length := List.snd_lt_of_mem_zipIdx hci
  have hcells := columnCells?_eq fun row hrow => (h.rows row hrow).symm ▸ hi
  simp only [hcells]
  rfl

theorem textColumns?_eq (h : r.IsRectangular) (summary : Bool) :
    r.textColumns? summary = some (r.tableOf (fun _ => .text)
      (r.rows ++ if summary then r.summaryRows else [])).columns := by
  refine mapM_eq_some_map fun (c, i) hci => ?_
  have hi : i < r.columns.length := List.snd_lt_of_mem_zipIdx hci
  have hcells := columnCells?_eq fun row hrow => (h.rows row hrow).symm ▸ hi
  have hsummaries : (r.summaries.mapM fun (label, cells) => summaryCell? label cells i) =
      some (columnCells r.summaryRows i) := by
    rw [summaryRows_eq_map, columnCells, List.map_map]
    exact mapM_eq_some_map fun (label, cells) hmem =>
      summaryCell?_eq ((length_of_mem_summaries h hmem).symm ▸ hi)
  have hextra : ((if summary then r.summaries else []).mapM fun (label, cells) =>
      summaryCell? label cells i) =
        some (columnCells (if summary then r.summaryRows else []) i) := by
    cases summary with
    | true => exact hsummaries
    | false => rfl
  have happend : columnCells (r.rows ++ if summary then r.summaryRows else []) i =
      columnCells r.rows i ++ columnCells (if summary then r.summaryRows else []) i :=
    List.map_append
  simp only [hcells, hextra, happend]
  rfl

/-! ## Reports that are handed out -/

theorem isRectangular_of_checkedReport {a b : Http.Answer Report}
    (h : checkedReport a = .ok b) : b.payload.IsRectangular := by
  unfold checkedReport at h
  cases hcheck : a.payload.check with
  | error f => rw [hcheck] at h; cases h
  | ok =>
    rw [hcheck] at h
    cases h
    exact isRectangular_iff.2 hcheck

theorem isRectangular_of_fetchReport {c : Client} {o : CallOptions}
    {request : Except Failure Request} {l l' : Link} {a : Http.Answer Report}
    (h : c.fetchReport o request l = (.ok a, l')) : a.payload.IsRectangular := by
  unfold Client.fetchReport at h
  split at h
  · cases h
  · next r =>
    rcases hfetch : c.fetchJson (α := Report) (o.watch r) l with ⟨f | received, l₁⟩
    · rw [hfetch] at h
      cases h
    · rw [hfetch] at h
      exact isRectangular_of_checkedReport (Prod.mk.inj h).1

/-- The check passes exactly the rectangular reports, and says of any other what does not fit first.
The calls for reports, whatever the server answers, hand out rectangular ones only. And for no
report at all do the tables ask for a cell that is missing: either nothing is asked for, as the
check fails, or all that is asked for is there. -/
theorem rectangular (r : Report) :
    (r.check = .ok () ↔ r.IsRectangular) ∧
    (∀ f, r.check = .error f ↔ ∃ m, r.FirstMisfit m ∧ f = .undecodable m.message) ∧
    (∀ (call : ReportCall) (c : Client) (l : Link) (a : Http.Answer Report) (l' : Link),
      call.send c l = (.ok a, l') → a.payload.IsRectangular) ∧
    (∀ (call : SavedReportCall) (c : Client) (l : Link) (a : Http.Answer Report) (l' : Link),
      call.send c l = (.ok a, l') → a.payload.IsRectangular) ∧
    r.typedTable.map (some ·.columns) = r.check.map (fun _ => r.typedColumns?) ∧
    ∀ summary, (r.textTable summary).map (some ·.columns) =
      r.check.map fun _ => r.textColumns? summary := by
  refine ⟨isRectangular_iff.symm, fun f => check_eq_error_iff, fun call c l a l' h => ?_,
    fun call c l a l' h => ?_, ?_, fun summary => ?_⟩
  · exact isRectangular_of_fetchReport h
  · exact isRectangular_of_fetchReport h
  · unfold typedTable
    cases hcheck : r.check with
    | error f => rfl
    | ok =>
      rw [typedColumns?_eq (isRectangular_iff.2 hcheck)]
      rfl
  · unfold textTable
    cases hcheck : r.check with
    | error f => rfl
    | ok =>
      rw [textColumns?_eq (isRectangular_iff.2 hcheck)]
      rfl

/-- The second of the rows is too short. -/
def raggedReport : Report :=
  { columns := [⟨"day", .dimension, none⟩, ⟨"clicks", .tally, none⟩]
    rows := [["1", "2"], ["3"], []] }

/-- The look-ups tell a cell that is missing from an empty one. -/
example : raggedReport.typedColumns? = none ∧ raggedReport.textColumns? true = none := by decide

/-- A call for a report of one month. -/
def monthCall : ReportCall := { startDate := "2024-01-01", endDate := "2024-01-31" }

/-- A call for a report that is saved. -/
def savedCall : SavedReportCall := { id := "7" }

/-- The server answers with a report of one cell. -/
def cellLink : Link :=
  { replies := [.answer { status := 200, body := ⟨[Text.Utf8.encode
      "\x7b\"headers\":[\x7b\"name\":\"day\"\x7d],\"rows\":[[\"1\"]]\x7d".toList], .complete⟩ }] }

/-- What the server answered with. -/
def cellAnswer : Http.Answer Report :=
  ⟨200, [], { columns := [{ name := "day" }], rows := [["1"]] }⟩

theorem rectangular_ragged :
    raggedReport.check =
      .error (.undecodable "report row 1 has 1 cells but there are 2 headers") ∧
    (∃ l', monthCall.send Client.plainClient cellLink = (.ok cellAnswer, l') ∧
      cellAnswer.payload.IsRectangular) ∧
    ∃ l', savedCall.send Client.plainClient cellLink = (.ok cellAnswer, l') ∧
      cellAnswer.payload.IsRectangular := by
  obtain ⟨-, herror, hsent, hsaved, -⟩ := rectangular raggedReport
  refine ⟨(herror _).2 ⟨.row 1 1 2, ?_, rfl⟩, ?_, ?_⟩
  · have hsecond : raggedReport.rows[1]? = some ["3"] := rfl
    refine FirstMisfit.row hsecond (by decide) fun i hi row hrow => ?_
    obtain rfl : i = 0 := by omega
    obtain rfl := Option.some.inj hrow
    rfl
  · have hanswer : (monthCall.send Client.plainClient cellLink).1 = .ok cellAnswer := by
      decide +kernel
    rcases hsend : monthCall.send Client.plainClient cellLink with ⟨result, l'⟩
    rw [hsend] at hanswer
    obtain rfl : result = _ := hanswer
    exact ⟨l', rfl, hsent _ _ _ _ _ hsend⟩
  · have hanswer : (savedCall.send Client.plainClient cellLink).1 = .ok cellAnswer := by
      decide +kernel
    rcases hsend : savedCall.send Client.plainClient cellLink with ⟨result, l'⟩
    rw [hsend] at hanswer
    obtain rfl : result = _ := hanswer
    exact ⟨l', rfl, hsaved _ _ _ _ _ hsend⟩

end Report

end SellerApi
