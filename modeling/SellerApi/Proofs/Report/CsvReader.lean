import SellerApi.Report.Csv
import Mathlib.Data.List.Basic

/-! # Reading comma-separated values

A reader of lines of comma-separated fields, character by character: `Csv.read`. It is strict. A
quote opens a field or it stands between quotes, doubled; behind the closing quote comes a comma or
the line's end; a carriage return stands between quotes only. What `Csv.lines` writes it reads back
(`read_lines`), whether or not it takes a blank line for a record.
-/

namespace SellerApi.Csv

/-- Where a reader stands in a field. -/
inductive Place where
  | start
  | plain
  | quoted
  /-- Behind a quote that closes the field, unless another one follows. -/
  | closed
  deriving DecidableEq, Repr

/-- What has been read: whole records, then the fields of one record, then a part of a field. -/
structure Cursor where
  records : List (List String) := []
  record : List String := []
  cell : List Char := []
  place : Place := .start
  deriving DecidableEq, Repr

namespace Cursor

def put (k : Cursor) (c : Char) (place : Place) : Cursor :=
  { k with cell := k.cell ++ [c], place }

def endField (k : Cursor) : Cursor :=
  { records := k.records, record := k.record ++ [String.ofList k.cell] }

def endRecord (k : Cursor) : Cursor :=
  { records := k.records ++ [k.record ++ [String.ofList k.cell]] }

/-- A character outside quotes; a quote and a carriage return are refused. -/
def outside (k : Cursor) (c : Char) : Option Cursor :=
  if c = ',' then some k.endField
  else if c = '\n' then some k.endRecord
  else if c = '"' ∨ c = '\r' then none
  else some (k.put c .plain)

/-- Reads one character. A blank line is a record of one empty field if `blank` says so, and
nothing otherwise. -/
def step (blank : Bool) (k : Cursor) (c : Char) : Option Cursor :=
  match k.place with
  | .start =>
    if c = '"' then some { k with place := .quoted }
    else if c = '\n' ∧ k.record = [] ∧ !blank then some k
    else k.outside c
  | .plain => k.outside c
  | .quoted => some (if c = '"' then { k with place := .closed } else k.put c .quoted)
  | .closed =>
    if c = '"' then some (k.put c .quoted)
    else if c = ',' ∨ c = '\n' then k.outside c
    else none

/-- The records at the end of the text; the last line need not have an end. -/
def finish (k : Cursor) : Option (List (List String)) :=
  if k.place = .quoted then none
  else if k.place = .start ∧ k.record = [] then some k.records
  else some k.endRecord.records

end Cursor

/-- The records of a text. -/
def read (blank : Bool) (text : String) : Option (List (List String)) :=
  (text.toList.foldlM (Cursor.step blank) {}).bind Cursor.finish

section

variable {α σ : Type} {f : σ → α → Option σ} {k k' : σ}

theorem foldlM_cons_of_some {a : α} (h : f k a = some k') (as : List α) :
    (a :: as).foldlM f k = as.foldlM f k' := by
  rw [List.foldlM_cons, h]
  rfl

theorem foldlM_append_of_some {as : List α} (h : as.foldlM f k = some k') (bs : List α) :
    (as ++ bs).foldlM f k = bs.foldlM f k' := by
  rw [List.foldlM_append, h]
  rfl

end

section

variable {blank : Bool} {records : List (List String)} {record : List String}

theorem run_doubled (cs cell : List Char) :
    (doubled cs).foldlM (Cursor.step blank) ⟨records, record, cell, .quoted⟩ =
      some ⟨records, record, cell ++ cs, .quoted⟩ := by
  induction cs generalizing cell with
  | nil => simp [doubled]
  | cons c cs ih =>
    have htail : doubled (c :: cs) = (if c = '"' then ['"', '"'] else [c]) ++ doubled cs := by
      simp [doubled]
    have hhead : (if c = '"' then ['"', '"'] else [c]).foldlM (Cursor.step blank)
        ⟨records, record, cell, .quoted⟩ = some ⟨records, record, cell ++ [c], .quoted⟩ := by
      by_cases hc : c = '"'
      · subst hc
        rfl
      · simp [hc, Cursor.step, Cursor.put]
    rw [htail, foldlM_append_of_some hhead, ih, List.append_assoc, List.singleton_append]

theorem run_quote (cs : List Char) :
    (quote cs).foldlM (Cursor.step blank) ⟨records, record, [], .start⟩ =
      some ⟨records, record, cs, .closed⟩ := by
  have hopen : Cursor.step blank ⟨records, record, [], .start⟩ '"' =
      some ⟨records, record, [], .quoted⟩ := rfl
  have hclose : Cursor.step blank ⟨records, record, cs, .quoted⟩ '"' =
      some ⟨records, record, cs, .closed⟩ := rfl
  rw [quote, List.cons_append, foldlM_cons_of_some hopen, foldlM_append_of_some (run_doubled cs []),
    List.nil_append, foldlM_cons_of_some hclose]
  rfl

theorem outside_of_not_special {k : Cursor} {c : Char} (h : isSpecial c = false) :
    k.outside c = some (k.put c .plain) := by
  simp only [isSpecial, Bool.or_eq_false_iff, decide_eq_false_iff_not] at h
  simp [Cursor.outside, h]

theorem run_plain {cs : List Char} (h : cs.any isSpecial = false) (cell : List Char) :
    cs.foldlM (Cursor.step blank) ⟨records, record, cell, .plain⟩ =
      some ⟨records, record, cell ++ cs, .plain⟩ := by
  induction cs generalizing cell with
  | nil => simp
  | cons c cs ih =>
    rw [List.any_cons, Bool.or_eq_false_iff] at h
    have hstep : Cursor.step blank ⟨records, record, cell, .plain⟩ c =
        some ⟨records, record, cell ++ [c], .plain⟩ := outside_of_not_special h.1
    rw [foldlM_cons_of_some hstep, ih h.2, List.append_assoc, List.singleton_append]

variable (blank records record) in
/-- A field is read as it was written, up to its end. Only an empty one leaves no trace. -/
theorem run_field (s : String) : ∃ place : Place, place ≠ .quoted ∧ (place = .start → s = "") ∧
    (field s).foldlM (Cursor.step blank) ⟨records, record, [], .start⟩ =
      some ⟨records, record, s.toList, place⟩ := by
  unfold field
  split
  · exact ⟨.closed, by decide, by simp, run_quote _⟩
  · next h =>
    rw [Bool.not_eq_true] at h
    cases hs : s.toList with
    | nil => exact ⟨.start, by decide, fun _ => String.toList_eq_nil_iff.1 hs, rfl⟩
    | cons c cs =>
      rw [hs, List.any_cons, Bool.or_eq_false_iff] at h
      have hstep : Cursor.step blank ⟨records, record, [], .start⟩ c =
          some ⟨records, record, [c], .plain⟩ := by
        have hout := outside_of_not_special (k := ⟨records, record, [], .start⟩) h.1
        simp only [isSpecial, Bool.or_eq_false_iff, decide_eq_false_iff_not] at h
        simpa [Cursor.step, Cursor.put, h] using hout
      refine ⟨.plain, by decide, by simp, ?_⟩
      rw [foldlM_cons_of_some hstep, run_plain h.2, List.singleton_append]

variable {place : Place} (hplace : place ≠ .quoted) (cell : List Char)
include hplace

theorem step_comma : Cursor.step blank ⟨records, record, cell, place⟩ ',' =
    some ⟨records, record ++ [String.ofList cell], [], .start⟩ := by
  cases place with
  | quoted => contradiction
  | _ => simp [Cursor.step, Cursor.outside, Cursor.endField]

theorem step_feed (h : place = .start → record ≠ []) :
    Cursor.step blank ⟨records, record, cell, place⟩ '\n' =
      some ⟨records ++ [record ++ [String.ofList cell]], [], [], .start⟩ := by
  cases place with
  | quoted => contradiction
  | start => simp [Cursor.step, Cursor.outside, Cursor.endRecord, h rfl]
  | _ => simp [Cursor.step, Cursor.outside, Cursor.endRecord]

end

section

variable {blank : Bool} {records : List (List String)} {record : List String}

theorem run_last_field {s : String} (h : s = "" → record ≠ []) :
    (field s ++ ['\n']).foldlM (Cursor.step blank) ⟨records, record, [], .start⟩ =
      some ⟨records ++ [record ++ [s]], [], [], .start⟩ := by
  obtain ⟨place, hplace, hstart, hrun⟩ := run_field blank records record s
  rw [foldlM_append_of_some hrun, foldlM_cons_of_some (step_feed hplace _ (h ∘ hstart)),
    String.ofList_toList]
  rfl

theorem run_fields {ss : List String} (hss : ss ≠ []) (h : ss = [""] → record ≠ []) :
    (fields ss ++ ['\n']).foldlM (Cursor.step blank) ⟨records, record, [], .start⟩ =
      some ⟨records ++ [record ++ ss], [], [], .start⟩ := by
  fun_induction fields ss generalizing record with
  | case1 => contradiction
  | case2 s => exact run_last_field fun hs => h (hs ▸ rfl)
  | case3 s t ss ih =>
    obtain ⟨place, hplace, -, hrun⟩ := run_field blank records record s
    rw [List.append_assoc, foldlM_append_of_some hrun, List.cons_append,
      foldlM_cons_of_some (step_comma hplace _), String.ofList_toList,
      ih (List.cons_ne_nil _ _) (by simp), List.append_assoc, List.singleton_append]

theorem run_line {ss : List String} (hss : ss ≠ []) :
    (line ss ++ ['\n']).foldlM (Cursor.step blank) ⟨records, [], [], .start⟩ =
      some ⟨records ++ [ss], [], [], .start⟩ := by
  unfold line
  split
  · contradiction
  · next s =>
    split
    · next hs =>
      rw [foldlM_append_of_some (run_quote []),
        foldlM_cons_of_some (step_feed (by decide) _ (by simp)), hs]
      rfl
    · next hs => exact run_last_field (absurd · hs)
  · next hone => exact run_fields hss (absurd · (hone ""))

/-- What stands in lines is read back, record by record. -/
theorem run_lines {rows : List (List String)} (h : ∀ row ∈ rows, row ≠ []) :
    (lines rows).foldlM (Cursor.step blank) ⟨records, [], [], .start⟩ =
      some ⟨records ++ rows, [], [], .start⟩ := by
  induction rows generalizing records with
  | nil => simp [lines]
  | cons row rows ih =>
    obtain ⟨hrow, hrows⟩ := List.forall_mem_cons.1 h
    have hlines : lines (row :: rows) = (line row ++ ['\n']) ++ lines rows := by simp [lines]
    rw [hlines, foldlM_append_of_some (run_line hrow), ih hrows, List.append_assoc,
      List.singleton_append]

end

theorem read_lines (blank : Bool) {rows : List (List String)} (h : ∀ row ∈ rows, row ≠ []) :
    read blank (String.ofList (lines rows)) = some rows := by
  rw [read, String.toList_ofList, run_lines h]
  rfl

end SellerApi.Csv
