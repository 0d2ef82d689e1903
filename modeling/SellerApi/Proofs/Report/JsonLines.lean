import SellerApi.Proofs.Json.Document
import SellerApi.Proofs.Json.Float
import SellerApi.Proofs.Report.Csv
import SellerApi.Report.JsonLines

/-! # Reports as JSON lines

A report that fits its headers is written as one record per row, each on a line of its own
(`Report.toJsonLines_reads_back`). A record has the cells of its row, in the order of the columns,
and none for a cell that does not read as its column's kind (`RowSays`). -/

namespace SellerApi

open SellerApi.Json SellerApi.Number SellerApi.Text

namespace JsonLines

/-! ## What a row says -/

/-- What a cell is written as under a column's role, `none` if it is left out. -/
inductive CellSays : Role → String → Option Node → Prop where
  | dimension {cell : String} : CellSays .dimension cell (some (.text (some cell)))
  | other {word cell : String} : CellSays (.other word) cell (some (.text (some cell)))
  | tally {cell : String} {n : Int} {numeral : Numeral} (h : cellTally? cell = some n)
    (hnumeral : numeral.number? = some (.int n)) : CellSays .tally cell (some (.number numeral))
  | noTally {cell : String} (h : cellTally? cell = none) : CellSays .tally cell none
  | number {role : Role} {cell : String} {x : Binary64} {numeral : Numeral}
    (hrole : role = .ratio ∨ role = .currency) (h : cellNumber? cell = some x)
    (hfinite : x.isFinite = true) (hnumeral : numeral.decimal.value = x) :
    CellSays role cell (some (.number numeral))
  | notFinite {role : Role} {cell : String} {x : Binary64}
    (hrole : role = .ratio ∨ role = .currency) (h : cellNumber? cell = some x)
    (hfinite : x.isFinite = false) : CellSays role cell (some .null)
  | noNumber {role : Role} {cell : String} (hrole : role = .ratio ∨ role = .currency)
    (h : cellNumber? cell = none) : CellSays role cell none

/-- The members of the record of a row: those of its cells that are not left out, under the names of
their columns. -/
inductive RowSays : List Column → List String → List (Option String × Node) → Prop where
  | nil : RowSays [] [] []
  | present {c : Column} {cs : List Column} {cell : String} {row : List String} {n : Node}
    {members : List (Option String × Node)} (h : CellSays c.role cell (some n))
    (hrest : RowSays cs row members) : RowSays (c :: cs) (cell :: row) ((some c.name, n) :: members)
  | absent {c : Column} {cs : List Column} {cell : String} {row : List String}
    {members : List (Option String × Node)} (h : CellSays c.role cell none)
    (hrest : RowSays cs row members) : RowSays (c :: cs) (cell :: row) members

/-! ## Cells -/

/-- The text of a cell that stands in a column of a kind. -/
def cellText? : CellKind → String → Option (List Char)
  | .text, cell => some (renderText cell)
  | .integer, cell => (cellTally? cell).map fun n => (intText n).toList
  | .real, cell =>
    (cellNumber? cell).map fun x => (floatText? JsonLines.floatStyle x).getD "null".toList

theorem cell?_ofTexts (kind : CellKind) {rows : List (List String)} {i j : Nat}
    (hi : i < rows.length) :
    cell? (.ofTexts kind (Report.columnCells rows j)) i = cellText? kind (rows[i].getD j "") := by
  cases kind <;>
    simp [Cells.ofTexts, cell?, cellText?, Report.columnCells, List.getD_eq_getElem?_getD, hi]

/-- A count has 64 bits. -/
theorem isWord_of_cellTally? {cell : String} {n : Int} (h : cellTally? cell = some n) :
    IsWord n := by
  have hroom : (0x8000_0000_0000_0000 : Int) ≤ bound64 := by decide
  unfold cellTally? at h
  split at h
  · next m hm =>
    obtain rfl := Option.some.inj h
    have hbound := (Option.filter_eq_some_iff.1 hm).2
    simp only [isInt64, Bool.and_eq_true, decide_eq_true_eq] at hbound
    exact ⟨by omega, by omega⟩
  · have hbound := (Option.filter_eq_some_iff.1 h).2
    rw [decide_eq_true_eq] at hbound
    exact ⟨by omega, by omega⟩

/-- A cell's text says what the cell holds. -/
theorem exists_cellSays (role : Role) (cell : String) :
    ∃ n?, CellSays role cell n? ∧ Option.Rel Spells (cellText? role.cellKind cell) n? := by
  -- ratios and amounts are doubles both
  have hreal : role = .ratio ∨ role = .currency →
      ∃ n?, CellSays role cell n? ∧ Option.Rel Spells (cellText? .real cell) n? := by
    intro hrole
    cases h : cellNumber? cell with
    | none => exact ⟨none, .noNumber hrole h, by simp [cellText?, h]⟩
    | some x =>
      simp only [cellText?, h, Option.map_some]
      cases hfinite : x.isFinite with
      | true =>
        obtain ⟨numeral, hproper, htext, hvalue⟩ := exists_floatText?_eq floatStyle hfinite
        rw [htext]
        exact ⟨_, .number hrole h hfinite hvalue, .some (spells_numeral _ hproper)⟩
      | false =>
        rw [floatText?_of_not_finite floatStyle hfinite]
        exact ⟨_, .notFinite hrole h hfinite, .some spells_null⟩
  cases role with
  | dimension => exact ⟨_, .dimension, .some (spells_renderText cell)⟩
  | other word => exact ⟨_, .other, .some (spells_renderText cell)⟩
  | tally =>
    cases h : cellTally? cell with
    | none => exact ⟨none, .noTally h, by simp [Role.cellKind, cellText?, h]⟩
    | some n =>
      refine ⟨_, .tally h (number?_ofInt (isWord_of_cellTally? h)), ?_⟩
      simpa [Role.cellKind, cellText?, h] using spells_intText n
  | ratio => exact hreal (.inl rfl)
  | currency => exact hreal (.inr rfl)

/-! ## Lines -/

/-- The text of a member, and what it reads as. -/
inductive SpellsMember : List Char → Option String × Node → Prop where
  | mk {name : String} {text : List Char} {n : Node} (h : Spells text n) :
    SpellsMember (renderText name ++ ':' :: text) (some name, n)

/-- Members with commas between them make a record. -/
theorem spells_joined {texts : List (List Char)} {members : List (Option String × Node)}
    (h : List.Forall₂ SpellsMember texts members) :
    Spells ('{' :: joined texts ++ ['}']) (.record members) := by
  cases h with
  | nil => exact spells_emptyRecord
  | @cons text m texts members hm hrest =>
    refine SpellsMembers.spells ?_
    induction hrest generalizing text m with
    | nil =>
      obtain ⟨h⟩ := hm
      exact .last h
    | cons hnext _ ih =>
      obtain ⟨h⟩ := hm
      exact .more h (ih hnext)

/-- The text of the member of a cell. -/
def memberText? (c : Column) (cell : String) : Option (List Char) :=
  (cellText? c.role.cellKind cell).map fun text => renderText c.name ++ ':' :: text

/-- The record of a row. -/
def rowText (columns : List Column) (row : List String) : List Char :=
  '{' :: joined ((columns.zip row).filterMap fun (c, cell) => memberText? c cell) ++ ['}']

theorem exists_rowSays {columns : List Column} {row : List String}
    (h : row.length = columns.length) :
    ∃ members, RowSays columns row members ∧ List.Forall₂ SpellsMember
      ((columns.zip row).filterMap fun (c, cell) => memberText? c cell) members := by
  induction columns generalizing row with
  | nil =>
    obtain rfl := List.eq_nil_of_length_eq_zero h
    exact ⟨[], .nil, .nil⟩
  | cons c cs ih =>
    cases row with
    | nil => contradiction
    | cons cell row =>
      obtain ⟨members, hsays, hspells⟩ := ih (Nat.succ_inj.1 h)
      obtain ⟨n?, hcell, htext⟩ := exists_cellSays c.role cell
      simp only [List.zip_cons_cons, List.filterMap_cons, memberText?]
      generalize cellText? c.role.cellKind cell = text? at htext
      cases htext with
      | none => exact ⟨members, .absent hcell hsays, hspells⟩
      | some h => exact ⟨_, .present hcell hsays, .cons (.mk h) hspells⟩

/-- A line of the table of a report is the record of the row. -/
theorem line_tableOf {r : Report} {i : Nat} (hi : i < r.rows.length)
    (hwidth : r.rows[i].length = r.columns.length) :
    line (r.tableOf (·.role.cellKind) r.rows).columns i = rowText r.columns r.rows[i] := by
  -- what the columns hold at this row is the row itself
  have hzip : r.columns.zipIdx.map (fun c => (c.1, r.rows[i].getD c.2 "")) =
      r.columns.zip r.rows[i] := by
    refine List.ext_getElem (by simp [hwidth]) fun j _ hj => ?_
    rw [List.length_zip] at hj
    simp [List.getD_eq_getElem?_getD, show j < r.rows[i].length by omega]
  rw [line, rowText, ← hzip, List.filterMap_map, Report.columns_tableOf, List.filterMap_map]
  simp only [Function.comp_def, Column.name_filled, Column.cells_filled, cell?_ofTexts _ hi,
    memberText?]

/-! ## Line breaks -/

theorem feed_not_mem_fixed (k n : Nat) : '\n' ∉ Hex.fixed k n := by
  have hdigit : ∀ m < 16, Hex.digit m ≠ '\n' := by decide
  induction k generalizing n with
  | zero => exact List.not_mem_nil
  | succ k ih =>
    rw [Hex.fixed, List.mem_append, List.mem_singleton, not_or]
    exact ⟨ih _, (hdigit _ (Nat.mod_lt _ (by decide))).symm⟩

theorem feed_not_mem_escapeChar (c : Char) : '\n' ∉ escapeChar c := by
  unfold escapeChar
  split_ifs with _ _ hfeed
  all_goals first | decide | skip
  · simp [feed_not_mem_fixed]
  · exact fun h => hfeed (List.mem_singleton.1 h).symm

theorem feed_not_mem_renderText (s : String) : '\n' ∉ renderText s := by
  simp [renderText, feed_not_mem_escapeChar]

theorem feed_not_mem_digits {ds : List Char} (h : AreDigits ds) : '\n' ∉ ds :=
  fun hmem => absurd (h.digits _ hmem) (by decide)

theorem feed_not_mem_numeral (plus : Bool) {n : Numeral} (hn : n.IsProper) :
    '\n' ∉ n.text plus := by
  have hfraction : '\n' ∉ fractionText n.fraction := by
    cases hf : n.fraction with
    | none => exact List.not_mem_nil
    | some ds => simp [fractionText, feed_not_mem_digits (hn.fraction ds hf)]
  have hpower : '\n' ∉ powerText plus n.exponent := by
    cases he : n.exponent with
    | none => exact List.not_mem_nil
    | some e =>
      obtain ⟨down, ds⟩ := e
      have hds := feed_not_mem_digits (hn.exponent _ he)
      cases down <;> cases plus <;> simp [powerText, hds]
  have hunsigned : '\n' ∉ n.unsigned plus := by
    simp [Numeral.unsigned, feed_not_mem_digits hn.whole, hfraction, hpower]
  unfold Numeral.text
  split
  · simp [hunsigned]
  · exact hunsigned

theorem feed_not_mem_cellText? {kind : CellKind} {cell : String} {text : List Char}
    (h : cellText? kind cell = some text) : '\n' ∉ text := by
  cases kind with
  | text =>
    obtain rfl := Option.some.inj h
    exact feed_not_mem_renderText cell
  | integer =>
    obtain ⟨n, -, rfl⟩ := Option.map_eq_some_iff.1 h
    rw [← text_ofInt]
    exact feed_not_mem_numeral false (isProper_ofInt n)
  | real =>
    obtain ⟨x, -, rfl⟩ := Option.map_eq_some_iff.1 h
    cases hfinite : x.isFinite with
    | true =>
      obtain ⟨numeral, hproper, htext, -⟩ := exists_floatText?_eq floatStyle hfinite
      rw [htext]
      exact feed_not_mem_numeral _ hproper
    | false =>
      rw [floatText?_of_not_finite floatStyle hfinite]
      decide

theorem feed_not_mem_joined {texts : List (List Char)} (h : ∀ text ∈ texts, '\n' ∉ text) :
    '\n' ∉ joined texts := by
  fun_induction joined texts with
  | case1 => exact List.not_mem_nil
  | case2 m => exact h m List.mem_cons_self
  | case3 m n ms ih =>
    simp [h m List.mem_cons_self, ih fun text htext => h text (List.mem_cons_of_mem m htext)]

theorem feed_not_mem_rowText (columns : List Column) (row : List String) :
    '\n' ∉ rowText columns row := by
  have hjoined : '\n' ∉ joined
      ((columns.zip row).filterMap fun (c, cell) => memberText? c cell) := by
    refine feed_not_mem_joined fun text htext => ?_
    obtain ⟨⟨c, cell⟩, -, hmember⟩ := List.mem_filterMap.1 htext
    obtain ⟨value, hvalue, rfl⟩ := Option.map_eq_some_iff.1 hmember
    simp [feed_not_mem_renderText, feed_not_mem_cellText? hvalue]
  simp [rowText, hjoined]

end JsonLines

/-- A report that fits its headers is written as one line for each row, whatever its cells hold, and
each line reads back as the record of its row. -/
theorem Report.toJsonLines_reads_back {r : Report} (h : r.check = .ok ()) :
    ∃ lines : List (List Char),
      r.toJsonLines = .ok (String.ofList (lines.flatMap (· ++ ['\n']))) ∧
        lines.length = r.rows.length ∧ (∀ line ∈ lines, '\n' ∉ line) ∧
          List.Forall₂ (fun row line => ∃ members,
            readNode? (Utf8.encode line) = some (.record members) ∧
              JsonLines.RowSays r.columns row members) r.rows lines ∧
          (r.columns = [] → ∀ line ∈ lines, line = ['{', '}']) ∧
            (r.rows = [] → r.toJsonLines = .ok "") := by
  have hwidth : ∀ row ∈ r.rows, row.length = r.columns.length := (check_eq_ok_iff.1 h).1
  have htext : r.toJsonLines = .ok (String.ofList
      ((r.rows.map (JsonLines.rowText r.columns)).flatMap (· ++ ['\n']))) := by
    have hlines : (List.range r.rows.length).map
        (JsonLines.line (r.tableOf (·.role.cellKind) r.rows).columns) =
          r.rows.map (JsonLines.rowText r.columns) := by
      refine List.ext_getElem (by simp) fun i _ hi => ?_
      rw [List.length_map] at hi
      rw [List.getElem_map, List.getElem_map, List.getElem_range]
      exact JsonLines.line_tableOf hi (hwidth _ (List.getElem_mem hi))
    rw [← hlines, List.flatMap_map]
    simp [toJsonLines, typedTable, h, bind, Except.bind, pure, Except.pure, tableOf]
  refine ⟨_, htext, List.length_map _, ?_, ?_, ?_, ?_⟩
  · rintro line hline
    obtain ⟨row, -, rfl⟩ := List.mem_map.1 hline
    exact JsonLines.feed_not_mem_rowText r.columns row
  · refine List.forall₂_map_right_iff.2 (List.forall₂_same.2 fun row hrow => ?_)
    obtain ⟨members, hsays, hspells⟩ := JsonLines.exists_rowSays (hwidth row hrow)
    exact ⟨members, (JsonLines.spells_joined hspells).readNode?_eq, hsays⟩
  · rintro hcolumns line hline
    obtain ⟨row, -, rfl⟩ := List.mem_map.1 hline
    rw [hcolumns]
    rfl
  · intro hrows
    rw [htext, hrows]
    rfl

/-- Columns of every role, two of one name, with cells that are left out, that are no finite number
and that hold a line break. -/
def Report.mixedReport : Report where
  columns := [{ name := "D\nay", role := .dimension }, { name := "N", role := .tally },
    { name := "N", role := .ratio }, { name := "C", role := .currency }, { name := "" }]
  rows := [["1\n2", "1e3", " 0.10 ", "nan", "\""], ["", "x", "", "1e300", "é"]]

theorem Report.toJsonLines_reads_back_mixed : mixedReport.check = .ok () ∧
    ∃ lines : List (List Char),
      mixedReport.toJsonLines = .ok (String.ofList (lines.flatMap (· ++ ['\n']))) ∧
        lines.length = 2 ∧ (∀ line ∈ lines, '\n' ∉ line) ∧
          List.Forall₂ (fun row line => ∃ members,
            readNode? (Utf8.encode line) = some (.record members) ∧
              JsonLines.RowSays mixedReport.columns row members) mixedReport.rows lines := by
  refine ⟨rfl, ?_⟩
  obtain ⟨lines, htext, hlength, hfeed, hrows, -⟩ := toJsonLines_reads_back (r := mixedReport) rfl
  exact ⟨lines, htext, hlength, hfeed, hrows⟩

example : Report.mixedReport.toJsonLines = .ok
    "\x7b\"D\\nay\":\"1\\n2\",\"N\":1000,\"N\":0.1,\"C\":null,\"\":\"\\\"\"\x7d
\x7b\"D\\nay\":\"\",\"C\":1.0e300,\"\":\"é\"\x7d
" := by
  decide +kernel

end SellerApi
