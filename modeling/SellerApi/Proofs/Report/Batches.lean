import SellerApi.Proofs.Outcome
import SellerApi.Proofs.Report.Parquet

/-! # Tables written one after another

Rows that come in many tables make the same row groups as in one. Each group is filled to the size
asked for, and only then is the next one started; what is left at the end has one of its own. Behind
each table the writer tells how many rows came so far (`groups_of_rowTotal`). What carries this is
that a writer holds full row groups and a remainder, whatever it takes (`Writer.writeAll_holding`).
-/

namespace SellerApi.Parquet

/-! ## Settings that were put together -/

/-- A change of settings. -/
inductive Change where
  | compression (c : Compression)
  | compressionName (name : String)
  | groupSize (size : Nat)
  | dictionary (enabled : Bool)
  deriving DecidableEq, Repr

namespace Settings

/-- The settings after a change, which fails if it names no compression. -/
def change (s : Settings) : Change → Except Failure Settings
  | .compression c => .ok (s.withCompression c)
  | .compressionName name => s.withCompressionName name
  | .groupSize size => .ok (s.withGroupSize size)
  | .dictionary enabled => .ok (s.withDictionary enabled)

/-- The usual settings after changes, one after another. -/
def changed (changes : List Change) : Except Failure Settings := changes.foldlM change usual

end Settings

/-- The size of row groups that a change asks for, in place of the one asked for before. -/
def Change.sizeAsked (size : Nat) : Change → Nat
  | .groupSize size => size
  | _ => size

/-- The size of row groups that changes ask for last. -/
def sizeAsked (changes : List Change) : Nat := changes.foldl Change.sizeAsked (64 * 1024)

namespace Settings

theorem groupSize_of_withCompressionName {s s' : Settings} {name : String}
    (h : s.withCompressionName name = .ok s') : s'.groupSize = s.groupSize := by
  rw [withCompressionName] at h
  cases hname : Compression.ofName? name with
  | error e =>
    rw [hname] at h
    nomatch h
  | ok c =>
    rw [hname] at h
    cases h
    rfl

/-- A change keeps it that row groups have the size asked for last, or one row instead of none. -/
theorem groupSize_of_change {s s' : Settings} {c : Change} {size : Nat}
    (hs : s.groupSize = max size 1) (h : s.change c = .ok s') :
    s'.groupSize = max (c.sizeAsked size) 1 := by
  cases c with
  | compression c =>
    cases h
    exact hs
  | compressionName name => exact (groupSize_of_withCompressionName h).trans hs
  | groupSize size =>
    cases h
    rfl
  | dictionary enabled =>
    cases h
    exact hs

theorem groupSize_of_foldlM {s s' : Settings} {changes : List Change} {size : Nat}
    (hs : s.groupSize = max size 1) (h : changes.foldlM change s = .ok s') :
    s'.groupSize = max (changes.foldl Change.sizeAsked size) 1 := by
  induction changes generalizing s size with
  | nil =>
    cases h
    exact hs
  | cons c changes ih =>
    rw [List.foldlM_cons] at h
    obtain ⟨s₁, hc, h⟩ := bind_eq_ok_iff.1 h
    exact ih (groupSize_of_change hs hc) h

theorem groupSize_of_changed {s : Settings} {changes : List Change} (h : changed changes = .ok s) :
    s.groupSize = max (sizeAsked changes) 1 :=
  groupSize_of_foldlM rfl h

end Settings

/-! ## Tables -/

/-- The rows of tables together. -/
def rowTotal : List Table → Nat
  | [] => 0
  | t :: ts => t.rowCount + rowTotal ts

/-- Takes tables one after another, as long as they are taken. -/
def Writer.writeAll (w : Writer) : List Table → Except Failure Writer
  | [] => .ok w
  | t :: ts =>
    match w.write t with
    | (.ok (), w) => w.writeAll ts
    | (.error e, _) => .error e

/-- The file of tables written one after another, with the number of rows taken. -/
def Settings.fileOfTables (s : Settings) (schema : Schema) (tables : List Table) :
    Except Failure (Nat × File) := do
  let w ← (Writer.start s schema).writeAll tables
  w.close

/-- The sizes of row groups that so many rows make: full ones, and one for the rest. -/
def groupSizes (size rows : Nat) : List Nat :=
  List.replicate (rows / size) size ++ if rows % size = 0 then [] else [rows % size]

theorem Settings.map_rows_groupsOf (s : Settings) (width rows : Nat) :
    (s.groupsOf width rows).map (·.rows) = groupSizes s.groupSize rows := by
  rw [groupsOf, fullGroups, groupSizes, List.map_append, List.map_replicate]
  split <;> rfl

variable {s : Settings} {schema : Schema} {tables : List Table}

/-- A writer holds what came before and the rows of the tables that it takes. -/
theorem Writer.writeAll_holding {rows written : Nat} (h : ∀ t ∈ tables, schemaOf t = schema) :
    (holding s schema rows written).writeAll tables =
      .ok (holding s schema (rows + rowTotal tables) (written + rowTotal tables)) := by
  induction tables generalizing rows written with
  | nil => rfl
  | cons t ts ih =>
    obtain ⟨ht, hts⟩ := List.forall_mem_cons.1 h
    rw [writeAll, write_holding (ht ▸ map_kind_columns t)]
    simp only
    rw [ih hts]
    simp only [rowTotal, Nat.add_assoc]

theorem Writer.writeAll_start (h : ∀ t ∈ tables, schemaOf t = schema) :
    (start s schema).writeAll tables =
      .ok (holding s schema (rowTotal tables) (rowTotal tables)) := by
  rw [← holding_zero, writeAll_holding h, Nat.zero_add]

theorem Settings.fileOfTables_eq (h : ∀ t ∈ tables, schemaOf t = schema) :
    s.fileOfTables schema tables =
      .ok (rowTotal tables, ⟨schema, s.groupsOf schema.length (rowTotal tables)⟩) := by
  rw [fileOfTables, Writer.writeAll_start h]
  exact Writer.close_holding

/-- Settings that were put together by changes have row groups of the size asked for last, or of one
row where that is zero. A writer with such settings takes any tables of its schema. Behind each it
tells the rows of those taken so far, and at the end their total, which is what the file has. The
row groups of the file are full ones and one for the rest, if there is any. So tables that have as
many rows together make the same file, and tables without rows make no row group. -/
theorem groups_of_rowTotal {changes : List Change} (hsettings : Settings.changed changes = .ok s)
    (htables : ∀ t ∈ tables, schemaOf t = schema) :
    s.groupSize = max (sizeAsked changes) 1 ∧
    (∀ taken, taken <+: tables → ∃ w, (Writer.start s schema).writeAll taken = .ok w ∧
      w.rowsWritten = rowTotal taken) ∧
    ∃ file : File, s.fileOfTables schema tables = .ok (rowTotal tables, file) ∧
      file.schema = schema ∧ file.rows = rowTotal tables ∧
      file.groups.map (·.rows) = groupSizes (max (sizeAsked changes) 1) (rowTotal tables) ∧
      (rowTotal tables = 0 → file.groups = []) ∧
      ∀ others, (∀ t ∈ others, schemaOf t = schema) → rowTotal others = rowTotal tables →
        s.fileOfTables schema others = .ok (rowTotal tables, file) := by
  have hsize := Settings.groupSize_of_changed hsettings
  refine ⟨hsize, fun taken htaken => ?_, _, Settings.fileOfTables_eq htables, rfl,
    s.rows_groupsOf _ _ _, ?_, ?_, fun others hothers htotal => ?_⟩
  · exact ⟨_, Writer.writeAll_start fun t ht => htables t (htaken.subset ht), rfl⟩
  · rw [s.map_rows_groupsOf, hsize]
  · intro hzero
    simp [hzero, Settings.groupsOf, Settings.fullGroups]
  · rw [Settings.fileOfTables_eq hothers, htotal]

/-- A table of one column. -/
def letterTable (letters : List String) : Table where
  columns := [⟨⟨"LETTER", .text, true, []⟩, .texts letters, rfl, nofun⟩]
  rowCount := letters.length
  length_eq := List.forall_mem_singleton.2 rfl

/-- A table without rows, and one that has more than there is room for. -/
theorem groups_of_rowTotal_letters : ∃ s file,
    Settings.changed [.groupSize 0, .compressionName "ZSTD", .groupSize 2] = .ok s ∧
      s.fileOfTables [("LETTER", .text)]
        [letterTable ["a"], letterTable [], letterTable ["b", "c", "d", "e"]] = .ok (5, file) ∧
      file.groups.map (·.rows) = [2, 2, 1] := by
  have hsettings : Settings.changed [.groupSize 0, .compressionName "ZSTD", .groupSize 2] =
      .ok ((Settings.usual.withCompression (.zstd 1)).withGroupSize 2) := rfl
  have htables : ∀ t ∈ [letterTable ["a"], letterTable [], letterTable ["b", "c", "d", "e"]],
      schemaOf t = [("LETTER", .text)] := by
    decide
  obtain ⟨-, -, file, hfile, -, -, hgroups, -⟩ :=
    groups_of_rowTotal hsettings htables
  exact ⟨_, file, hsettings, hfile, hgroups⟩

end SellerApi.Parquet
