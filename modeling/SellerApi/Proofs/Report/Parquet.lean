import SellerApi.Proofs.Report.Csv
import SellerApi.Report.Parquet

/-! # Row groups

What a writer is after tables of its schema depends on their rows alone: it has completed as many
full row groups as these rows make, and fills one with the rest (`Writer.holding`). So does the file
that it completes (`Settings.groupsOf`).
-/

namespace SellerApi.Parquet

/-! ## Row groups of a number of rows -/

namespace Settings

variable (s : Settings) (width : Nat)

/-- A row group of so many rows. -/
def group (rows : Nat) : Group :=
  ⟨rows, List.replicate width s.compression, List.replicate width s.dictionary⟩

/-- The full row groups that so many rows make. -/
def fullGroups (rows : Nat) : List Group :=
  List.replicate (rows / s.groupSize) (s.group width s.groupSize)

/-- The row groups that so many rows make, with one for the rows that make no full one. -/
def groupsOf (rows : Nat) : List Group :=
  s.fullGroups width rows ++
    if rows % s.groupSize = 0 then [] else [s.group width (rows % s.groupSize)]

theorem foldl_rows_replicate (g : Group) (count rows : Nat) :
    (List.replicate count g).foldl (fun n g => n + g.rows) rows = rows + g.rows * count := by
  induction count generalizing rows with
  | zero => rfl
  | succ count ih =>
    rw [List.replicate_succ, List.foldl_cons, ih, Nat.mul_succ]
    omega

theorem rows_groupsOf (schema : Schema) (rows : Nat) :
    File.rows ⟨schema, s.groupsOf width rows⟩ = rows := by
  have hsum := Nat.div_add_mod rows s.groupSize
  have hfull : (s.fullGroups width rows).foldl (fun n g => n + g.rows) 0 =
      s.groupSize * (rows / s.groupSize) :=
    (foldl_rows_replicate _ _ 0).trans (Nat.zero_add _)
  rw [File.rows, groupsOf, List.foldl_append, hfull]
  split
  · next hrest => rwa [hrest] at hsum
  · exact hsum

end Settings

/-! ## What a writer holds -/

/-- A writer that has received so many rows, of which it has told that some were written. -/
def Writer.holding (s : Settings) (schema : Schema) (rows written : Nat) : Writer where
  settings := s
  schema := schema
  groups := s.fullGroups schema.length rows
  buffer :=
    if rows % s.groupSize = 0 then none
    else some ⟨rows % s.groupSize, List.replicate schema.length (rows % s.groupSize)⟩
  rowsWritten := written

namespace Writer

variable {s : Settings} {schema : Schema} {rows written more : Nat}

@[simp] theorem settings_holding : (holding s schema rows written).settings = s := rfl

@[simp] theorem schema_holding : (holding s schema rows written).schema = schema := rfl

theorem holding_zero : holding s schema 0 0 = start s schema := by
  simp [holding, start, Settings.fullGroups]

/-- With or without a row group being filled, what it holds is what is behind the full ones. -/
theorem filling_holding : (holding s schema rows written).filling =
    ⟨rows % s.groupSize, List.replicate schema.length (rows % s.groupSize)⟩ := by
  unfold filling
  by_cases h : rows % s.groupSize = 0 <;> simp [holding, h]

/-- So many more rows, which make the row group being filled a full one. -/
theorem div_mod_of_eq {n size : Nat} (hpos : 0 < size) (h : n % size + more = size) :
    (n + more) / size = n / size + 1 ∧ (n + more) % size = 0 := by
  have hn := Nat.div_add_mod n size
  refine (Nat.div_mod_unique hpos).2 ⟨?_, hpos⟩
  rw [Nat.mul_succ]
  omega

/-- So many more rows, for which there is room in the row group being filled. -/
theorem div_mod_of_lt {n size : Nat} (h : n % size + more < size) :
    (n + more) / size = n / size ∧ (n + more) % size = n % size + more := by
  have hn := Nat.div_add_mod n size
  exact (Nat.div_mod_unique (by omega)).2 ⟨by omega, h⟩

theorem agreeing_self (kinds : List CellKind) : agreeing kinds kinds = kinds.length := by
  induction kinds with
  | nil => rfl
  | cons kind kinds ih => rw [agreeing, if_pos rfl, ih, List.length_cons]

theorem unequal?_replicate (width rows : Nat) : unequal? (List.replicate width rows) = none := by
  cases width with
  | zero => rfl
  | succ width => simp [unequal?, List.replicate_succ]

/-- A row group whose columns have received the rows announced is completed with these. -/
theorem flush_of_replicate {w : Writer}
    (h : w.buffer = some ⟨rows, List.replicate w.schema.length rows⟩) :
    w.flush = (.ok (), { w with
      groups := w.groups ++ [w.settings.group w.schema.length rows], buffer := none }) := by
  have hrows : (List.replicate w.schema.length rows).headD rows = rows := by
    cases w.schema.length <;> rfl
  rw [flush, h]
  simp only [unequal?_replicate, hrows]
  rfl

/-- Rows that do not overfill a row group are put into it, and complete it if they fill it. -/
theorem put_holding (hpos : 0 < more) (hroom : rows % s.groupSize + more ≤ s.groupSize) :
    (holding s schema rows written).put (schema.map (·.2)) more =
      (.ok (), holding s schema (rows + more) written) := by
  have hgood : agreeing (schema.map (·.2)) (schema.map (·.2)) = schema.length :=
    (agreeing_self _).trans (List.length_map _)
  have hreceived : ((List.replicate schema.length (rows % s.groupSize)).mapIdx fun i n =>
      if i < schema.length then n + more else n) =
        List.replicate schema.length (rows % s.groupSize + more) := by
    refine List.ext_getElem (by simp) fun i hi _ => ?_
    have hlt : i < schema.length := by simpa using hi
    simp [hlt]
  unfold put
  simp only [filling_holding, settings_holding, schema_holding, hgood, hreceived]
  rw [if_neg (Nat.lt_irrefl _)]
  rcases Nat.lt_or_eq_of_le hroom with hroom | hfull
  · obtain ⟨hdiv, hmod⟩ := div_mod_of_lt hroom
    rw [if_neg (Nat.not_le_of_gt hroom)]
    simp [holding, Settings.fullGroups, hdiv, hmod, Nat.ne_of_gt hpos]
  · obtain ⟨hdiv, hmod⟩ := div_mod_of_eq s.groupSize_pos hfull
    rw [if_pos (Nat.le_of_eq hfull.symm), flush_of_replicate rfl]
    simp [holding, Settings.fullGroups, hdiv, hmod, hfull, List.replicate_succ']

/-- However many rows come at once, each row group is filled before the next is started. -/
theorem fill_holding {fuel : Nat} (hfuel : more < fuel) :
    (holding s schema rows written).fill (schema.map (·.2)) more fuel =
      (.ok (), holding s schema (rows + more) written) := by
  induction fuel generalizing rows more with
  | zero => exact absurd hfuel (Nat.not_lt_zero more)
  | succ fuel ih =>
    have hspace := Nat.mod_lt rows s.groupSize_pos
    rw [fill]
    simp only [settings_holding, filling_holding]
    by_cases hzero : more = 0
    · rw [if_pos hzero, hzero, Nat.add_zero]
    rw [if_neg hzero]
    by_cases hfits : more ≤ s.groupSize - rows % s.groupSize
    · rw [if_pos hfits, put_holding (Nat.pos_of_ne_zero hzero) (by omega)]
    · rw [if_neg hfits, put_holding (by omega) (by omega)]
      simp only
      rw [ih (by omega)]
      congr 2
      omega

/-- A table of the schema is taken, and its rows are told. -/
theorem write_holding {t : Table} (h : t.columns.map (·.cells.kind) = schema.map (·.2)) :
    (holding s schema rows written).write t =
      (.ok (), holding s schema (rows + t.rowCount) (written + t.rowCount)) := by
  rw [write, h, fill_holding (Nat.lt_succ_self _)]
  rfl

/-- The rows that make no full row group have one of their own in the file. -/
theorem close_holding : (holding s schema rows written).close =
    .ok (written, ⟨schema, s.groupsOf schema.length rows⟩) := by
  unfold close
  by_cases h : rows % s.groupSize = 0
  · have hnone : (holding s schema rows written).buffer = none := if_pos h
    rw [flush, hnone]
    simp [holding, Settings.groupsOf, h]
  · rw [flush_of_replicate (if_neg h)]
    simp [holding, Settings.groupsOf, h]

end Writer

theorem map_kind_columns (t : Table) :
    t.columns.map (·.cells.kind) = (schemaOf t).map (·.2) := by
  rw [schemaOf, List.map_map]
  rfl

end SellerApi.Parquet

namespace SellerApi.Report

open SellerApi.Parquet

variable {r : Report}

end SellerApi.Report
