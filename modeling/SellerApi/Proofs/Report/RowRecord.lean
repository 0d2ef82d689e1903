import Mathlib.Data.List.Nodup
import SellerApi.Proofs.Report.Rectangle

/-! # Rows by the names of their columns

The record of a row has one member for each name of a column, and the cell of the last column of
that name (`IsRecordOf`), while a column is found as the first one of its name (`FirstColumn`).
Where all columns have names of their own the two agree, and the row can be read back from its
record (`rowRecords_agree`).
-/

namespace SellerApi

/-! ## Members in order -/

namespace Json

/-- The names of members go upwards, so that no name stands twice. -/
def InOrder (members : List (String × Value)) : Prop :=
  (members.map Prod.fst).Pairwise (· < ·)

variable {name name' : String} {value : Value} {members : List (String × Value)}

theorem lookup_cons (n : String) (v : Value) : ((n, v) :: members).lookup name =
    if name = n then some v else members.lookup name := by
  rw [List.lookup_cons]
  by_cases h : name = n
  · rw [if_pos h, beq_iff_eq.2 h]
  · rw [if_neg h, beq_eq_false_iff_ne.2 h]

theorem lookup_putMember : (putMember name value members).lookup name' =
    if name' = name then some value else members.lookup name' := by
  induction members with
  | nil => exact lookup_cons name value
  | cons m ms ih =>
    obtain ⟨n, v⟩ := m
    unfold putMember
    split
    · exact lookup_cons name value
    split
    · next heq =>
      subst heq
      rw [lookup_cons, lookup_cons]
      split <;> rfl
    · next hne =>
      rw [lookup_cons, lookup_cons, ih]
      by_cases h : name' = n
      · subst h
        rw [if_pos rfl, if_pos rfl, if_neg (Ne.symm hne)]
      · rw [if_neg h, if_neg h]

theorem mem_names_iff : name ∈ members.map Prod.fst ↔ (members.lookup name).isSome := by
  rw [List.lookup_isSome_iff, List.mem_map]
  exact exists_congr fun m => and_congr_right fun _ => by rw [beq_iff_eq, eq_comm]

theorem mem_names_putMember : name' ∈ (putMember name value members).map Prod.fst ↔
    name' = name ∨ name' ∈ members.map Prod.fst := by
  rw [mem_names_iff, mem_names_iff, lookup_putMember]
  by_cases h : name' = name <;> simp [h]

theorem InOrder.putMember (h : InOrder members) : InOrder (putMember name value members) := by
  induction members with
  | nil => simp [InOrder, Json.putMember]
  | cons m ms ih =>
    obtain ⟨n, v⟩ := m
    obtain ⟨hn, hms⟩ := List.pairwise_cons.1 h
    unfold Json.putMember
    split
    · next hlt =>
      refine List.pairwise_cons.2 ⟨fun n' hn' => ?_, h⟩
      rcases List.mem_cons.1 hn' with rfl | hn'
      · exact hlt
      · exact String.lt_trans hlt (hn n' hn')
    split
    · next heq =>
      subst heq
      exact List.pairwise_cons.2 ⟨hn, hms⟩
    · next hge hne =>
      have hlt : n < name := String.not_le.1 fun hle =>
        hne (String.le_antisymm hle (String.not_lt.1 hge))
      refine List.pairwise_cons.2 ⟨fun n' hn' => ?_, ih hms⟩
      rcases mem_names_putMember.1 hn' with rfl | hn'
      · exact hlt
      · exact hn n' hn'

/-- Of members that are put one after the other the last of a name counts. -/
theorem lookup_foldl_putMember (pairs members : List (String × Value)) (name : String) :
    (pairs.foldl (fun ms p => putMember p.1 p.2 ms) members).lookup name =
      (pairs.reverse.lookup name).or (members.lookup name) := by
  induction pairs generalizing members with
  | nil => rfl
  | cons p pairs ih =>
    obtain ⟨n, v⟩ := p
    rw [List.foldl_cons, ih, lookup_putMember, List.reverse_cons, List.lookup_append, lookup_cons,
      Option.or_assoc]
    split <;> rfl

theorem inOrder_foldl_putMember (pairs : List (String × Value)) (h : InOrder members) :
    InOrder (pairs.foldl (fun ms p => putMember p.1 p.2 ms) members) := by
  induction pairs generalizing members with
  | nil => exact h
  | cons p pairs ih => exact ih h.putMember

/-- What stands under a name in the reversed list is the last entry of that name. -/
theorem lookup_reverse_eq_some_iff {pairs : List (String × Value)} :
    pairs.reverse.lookup name = some value ↔ ∃ i : Nat, pairs[i]? = some (name, value) ∧
      ∀ (j : Nat) (p : String × Value), i < j → pairs[j]? = some p → p.1 ≠ name := by
  rw [List.lookup_eq_some_iff]
  constructor
  · rintro ⟨before, after, hreverse, hbefore⟩
    -- what stands in front of the entry found is what was behind it
    have hpairs : pairs = after.reverse ++ (name, value) :: before.reverse := by
      rw [← List.reverse_reverse pairs, hreverse]
      simp
    refine ⟨after.length, by simp [hpairs], fun j p hj hp => ?_⟩
    have hmem : p ∈ before := by
      rw [hpairs, List.getElem?_append_right (by simpa using Nat.le_of_lt hj), List.length_reverse,
        List.getElem?_cons] at hp
      rw [if_neg (by omega)] at hp
      exact List.mem_reverse.1 (List.mem_of_getElem? hp)
    exact Ne.symm (bne_iff_ne.1 (hbefore p hmem))
  · rintro ⟨i, hi, hlast⟩
    obtain ⟨hlt, hget⟩ := List.getElem?_eq_some_iff.1 hi
    refine ⟨(pairs.drop (i + 1)).reverse, (pairs.take i).reverse, ?_, fun p hp => ?_⟩
    · have hpairs : pairs.take i ++ (name, value) :: pairs.drop (i + 1) = pairs := by
        rw [← hget, List.getElem_cons_drop, List.take_append_drop]
      have hreverse := congrArg List.reverse hpairs
      rwa [List.reverse_append, List.reverse_cons, List.append_assoc, List.singleton_append,
        eq_comm] at hreverse
    · obtain ⟨j, hj⟩ := List.mem_iff_getElem?.1 (List.mem_reverse.1 hp)
      rw [List.getElem?_drop] at hj
      exact bne_iff_ne.2 (Ne.symm (hlast _ p (by omega) hj))

end Json

namespace Report

open Json

/-! ## Columns by name -/

def columnNames (r : Report) : List String := r.columns.map (·.name)

/-- The name stands at this column and at none before it. -/
structure FirstColumn (r : Report) (name : String) (i : Nat) : Prop where
  named : r.columnNames[i]? = some name
  first : ∀ j, j < i → r.columnNames[j]? ≠ some name

/-- The name stands at this column and at none behind it. -/
structure LastColumn (r : Report) (name : String) (i : Nat) : Prop where
  named : r.columnNames[i]? = some name
  last : ∀ j, i < j → r.columnNames[j]? ≠ some name

/-- What the record of a row says. -/
structure IsRecordOf (r : Report) (row : List String) (members : List (String × Value)) :
    Prop where
  inOrder : InOrder members
  names : ∀ name, name ∈ members.map Prod.fst ↔ name ∈ r.columnNames
  cells : ∀ name value, members.lookup name = some value ↔
    ∃ i cell, r.LastColumn name i ∧ row[i]? = some cell ∧ value = .text cell

/-- The cells of a record, in the order of the columns. -/
def cellsIn? (r : Report) (members : List (String × Value)) : Option (List String) :=
  r.columns.mapM fun c =>
    match members.lookup c.name with
    | some (.text cell) => some cell
    | _ => none

variable {r : Report} {name : String} {i j : Nat}

theorem columnIndex?_eq : r.columnIndex? name = r.columnNames.findIdx? (· = name) := by
  rw [columnIndex?, columnNames, List.findIdx?_map]
  rfl

theorem columnIndex?_eq_some_iff : r.columnIndex? name = some i ↔ r.FirstColumn name i := by
  rw [columnIndex?_eq, List.findIdx?_eq_some_iff_getElem]
  constructor
  · rintro ⟨hi, hname, hbefore⟩
    refine ⟨List.getElem?_eq_some_iff.2 ⟨hi, of_decide_eq_true hname⟩, fun j hj hjname => ?_⟩
    obtain ⟨hlt, hget⟩ := List.getElem?_eq_some_iff.1 hjname
    exact hbefore j hj (decide_eq_true hget)
  · rintro ⟨hnamed, hfirst⟩
    obtain ⟨hi, hname⟩ := List.getElem?_eq_some_iff.1 hnamed
    refine ⟨hi, decide_eq_true hname, fun j hj hjname => hfirst j hj ?_⟩
    exact List.getElem?_eq_some_iff.2 ⟨Nat.lt_trans hj hi, of_decide_eq_true hjname⟩

theorem columnIndex?_eq_none_iff : r.columnIndex? name = none ↔ name ∉ r.columnNames := by
  rw [columnIndex?_eq, List.findIdx?_eq_none_iff]
  constructor
  · intro h hmem
    exact of_decide_eq_false (h name hmem) rfl
  · intro h x hx
    refine decide_eq_false ?_
    rintro rfl
    exact h hx

/-- Where no name stands twice, every column is the last one of its name. -/
theorem lastColumn_of_nodup (hdistinct : r.columnNames.Nodup) (h : r.columnNames[i]? = some name) :
    r.LastColumn name i := by
  refine ⟨h, fun j hj hjname => ?_⟩
  obtain ⟨hi, hname⟩ := List.getElem?_eq_some_iff.1 h
  obtain ⟨hj', hname'⟩ := List.getElem?_eq_some_iff.1 hjname
  exact Nat.ne_of_lt hj ((hdistinct.getElem_inj_iff).1 (hname.trans hname'.symm))

/-! ## Records of rows -/

variable {row : List String}

/-- The names of the columns with the cells of a row. -/
def named (r : Report) (row : List String) : List (String × Value) :=
  r.columnNames.zip (row.map .text)

theorem rowRecord_eq :
    r.rowRecord row = (r.named row).foldl (fun ms p => putMember p.1 p.2 ms) [] := by
  rw [rowRecord, named, columnNames, List.zip_map, List.foldl_map]
  rfl

theorem named_eq_some_iff {value : Value} : (r.named row)[i]? = some (name, value) ↔
    r.columnNames[i]? = some name ∧ ∃ cell, row[i]? = some cell ∧ value = .text cell := by
  rw [named, List.getElem?_zip_eq_some, List.getElem?_map, Option.map_eq_some_iff]
  simp only [eq_comm]

/-- A row that fits the columns has a cell at every name. -/
theorem exists_named (hrow : row.length = r.columns.length) (h : r.columnNames[i]? = some name) :
    ∃ cell, row[i]? = some cell ∧ (r.named row)[i]? = some (name, .text cell) := by
  obtain ⟨hi, -⟩ := List.getElem?_eq_some_iff.1 h
  have hcell : i < row.length := by simpa [columnNames, hrow] using hi
  have hget := List.getElem?_eq_getElem hcell
  exact ⟨_, hget, named_eq_some_iff.2 ⟨h, _, hget, rfl⟩⟩

theorem isRecordOf_rowRecord (hrow : row.length = r.columns.length) :
    r.IsRecordOf row (r.rowRecord row) := by
  have hlookup : ∀ name, (r.rowRecord row).lookup name = (r.named row).reverse.lookup name := by
    intro name
    rw [rowRecord_eq, lookup_foldl_putMember, List.lookup_nil, Option.or_none]
  refine ⟨?_, fun name => ?_, fun name value => ?_⟩
  · rw [rowRecord_eq]
    exact inOrder_foldl_putMember _ .nil
  · have hnames : (r.named row).map Prod.fst = r.columnNames := by
      rw [named, List.map_fst_zip (by simp [columnNames, hrow])]
    rw [mem_names_iff, hlookup, ← mem_names_iff, List.map_reverse, List.mem_reverse, hnames]
  · rw [hlookup, lookup_reverse_eq_some_iff]
    constructor
    · rintro ⟨i, hi, hlast⟩
      obtain ⟨hname, cell, hcell, rfl⟩ := named_eq_some_iff.1 hi
      refine ⟨i, cell, ⟨hname, fun j hj hjname => ?_⟩, hcell, rfl⟩
      -- the row fits, so that a later column of the name would have put its cell
      obtain ⟨cell', -, hcell'⟩ := exists_named hrow hjname
      exact hlast j _ hj hcell' rfl
    · rintro ⟨i, cell, hlast, hcell, rfl⟩
      refine ⟨i, named_eq_some_iff.2 ⟨hlast.named, cell, hcell, rfl⟩, ?_⟩
      rintro j ⟨name', value⟩ hj hjnamed rfl
      exact hlast.last j hj (named_eq_some_iff.1 hjnamed).1

namespace IsRecordOf

variable {members : List (String × Value)}

/-- Under the name of a column that stands once is the cell of that column. -/
theorem lookup_eq (h : r.IsRecordOf row members) (hrow : row.length = r.columns.length)
    (hlast : r.LastColumn name i) :
    ∃ cell, row[i]? = some cell ∧ members.lookup name = some (.text cell) := by
  obtain ⟨cell, hcell, -⟩ := exists_named hrow hlast.named
  exact ⟨cell, hcell, (h.cells name _).2 ⟨i, cell, hlast, hcell, rfl⟩⟩

theorem length_eq (h : r.IsRecordOf row members) (hdistinct : r.columnNames.Nodup) :
    members.length = r.columns.length := by
  have hnodup : (members.map Prod.fst).Nodup := by
    refine h.inOrder.imp fun {a b} hlt heq => ?_
    exact String.lt_irrefl a (heq ▸ hlt)
  have hperm : (members.map Prod.fst).Perm r.columnNames :=
    (List.perm_ext_iff_of_nodup hnodup hdistinct).2 h.names
  simpa [columnNames] using hperm.length_eq

/-- The row is read back from its record. -/
theorem cellsIn?_eq (h : r.IsRecordOf row members) (hrow : row.length = r.columns.length)
    (hdistinct : r.columnNames.Nodup) : r.cellsIn? members = some row := by
  refine mapM_eq_some_of_forall₂ (List.forall₂_iff_get.2 ⟨hrow.symm, fun i hi hi' => ?_⟩)
  have hname : r.columnNames[i]? = some (r.columns.get ⟨i, hi⟩).name := by
    simp [columnNames, hi]
  obtain ⟨cell, hcell, hlookup⟩ := h.lookup_eq hrow (lastColumn_of_nodup hdistinct hname)
  obtain ⟨_, rfl⟩ := List.getElem?_eq_some_iff.1 hcell
  rw [hlookup]
  rfl

end IsRecordOf

/-- For every report that passes its check the records of the rows and the look-up of columns tell
of the same names: the record of a row has the cell of the last column of a name, and the first
column of it is the one that is found. Where no name stands twice they lead to the same cell, and
the row is read back from its record. -/
theorem rowRecords_agree {r : Report} (h : r.check = .ok ()) :
    (∀ name, (∀ i, r.columnIndex? name = some i ↔ r.FirstColumn name i) ∧
      (r.columnIndex? name = none ↔ name ∉ r.columnNames)) ∧
    r.rowRecords.length = r.rows.length ∧
    ∀ (k : Nat) (row : List String), r.rows[k]? = some row →
      ∃ members, r.rowRecords[k]? = some (Value.record members) ∧ r.IsRecordOf row members ∧
      (r.columnNames.Nodup →
        (∀ name i, r.columnIndex? name = some i →
          ∃ cell, row[i]? = some cell ∧ members.lookup name = some (.text cell)) ∧
        members.length = r.columns.length ∧ r.cellsIn? members = some row) := by
  refine ⟨fun name => ⟨fun i => columnIndex?_eq_some_iff, columnIndex?_eq_none_iff⟩,
    List.length_map _, fun k row hk => ?_⟩
  have hrow := (isRectangular_iff.2 h).rows row (List.mem_of_getElem? hk)
  have hrecord := isRecordOf_rowRecord hrow
  refine ⟨r.rowRecord row, by rw [rowRecords, List.getElem?_map, hk]; rfl, hrecord,
    fun hdistinct => ⟨fun name i hi => ?_, hrecord.length_eq hdistinct,
      hrecord.cellsIn?_eq hrow hdistinct⟩⟩
  have hfirst := columnIndex?_eq_some_iff.1 hi
  exact hrecord.lookup_eq hrow (lastColumn_of_nodup hdistinct hfirst.named)

/-- The first and the last column have one name. -/
def repeatingReport : Report :=
  { columns := [{ name := "b" }, { name := "a" }, { name := "b" }], rows := [["1", "2", "3"]] }

/-- Every column has a name of its own. -/
def distinctReport : Report :=
  { columns := [{ name := "b" }, { name := "a" }], rows := [["1", "2"], ["3", ""]] }

example : repeatingReport.rowRecord ["1", "2", "3"] = [("a", .text "2"), ("b", .text "3")] :=
  rfl

theorem rowRecords_agree_names :
    repeatingReport.check = .ok () ∧ distinctReport.check = .ok () ∧
    repeatingReport.columnIndex? "b" = some 0 ∧
    (∃ members, repeatingReport.rowRecords[0]? = some (Value.record members) ∧
      members.lookup "b" = some (.text "3")) ∧
    distinctReport.columnNames.Nodup ∧
    ∃ members, distinctReport.rowRecords[1]? = some (Value.record members) ∧
      distinctReport.cellsIn? members = some ["3", ""] := by
  have hrepeating : repeatingReport.check = .ok () := by decide
  have hdistinct : distinctReport.check = .ok () := by decide
  have hnodup : distinctReport.columnNames.Nodup := by decide
  refine ⟨hrepeating, hdistinct, ?_, ?_, hnodup, ?_⟩
  · obtain ⟨hindex, -, -⟩ := rowRecords_agree hrepeating
    exact ((hindex "b").1 0).2 ⟨rfl, fun j hj => absurd hj (Nat.not_lt_zero j)⟩
  · obtain ⟨-, -, hrecords⟩ := rowRecords_agree hrepeating
    obtain ⟨members, hmembers, hrecord, -⟩ := hrecords 0 ["1", "2", "3"] rfl
    have hlast : repeatingReport.LastColumn "b" 2 := by
      refine ⟨rfl, fun j hj => ?_⟩
      rw [List.getElem?_eq_none (show repeatingReport.columnNames.length ≤ j from hj)]
      exact nofun
    exact ⟨members, hmembers, (hrecord.cells _ _).2 ⟨2, "3", hlast, rfl, rfl⟩⟩
  · obtain ⟨-, -, hrecords⟩ := rowRecords_agree hdistinct
    obtain ⟨members, hmembers, -, hagree⟩ := hrecords 1 ["3", ""] rfl
    exact ⟨members, hmembers, (hagree hnodup).2.2⟩

end Report

end SellerApi
