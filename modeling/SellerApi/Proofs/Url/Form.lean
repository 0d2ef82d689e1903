import SellerApi.Proofs.Text.Pieces
import SellerApi.Proofs.Url.Percent
import SellerApi.Url.Basic

/-! # Reading form pairs that were written

Pairs added to a query come back behind the pairs that the query held before, in order and with
their repeats: `queryPairs_appendPairs`. What the query held before may be any text. -/

namespace SellerApi.Url

open SellerApi.Text

namespace Form

/-- The characters written as triples. -/
def tripleSet : EscapeSet := fun c => !isPlain c && c != ' '

/-- A plus sign is read as the space that it stands for before triples are undone. -/
def plusAsSpace (c : Char) : Char := if c = '+' then ' ' else c

theorem plusAsSpace_of_ne {c : Char} (h : c ≠ '+') : plusAsSpace c = c := if_neg h

/-- Once plus signs are spaces again, a text is written as in any other place. -/
theorem map_writeChar (c : Char) :
    (writeChar c).map plusAsSpace = escapeChar tripleSet c := by
  unfold writeChar
  split
  · next h => subst h; decide
  · next h =>
    have hset : (fun c => !isPlain c) c = tripleSet c := by simp [tripleSet, h]
    have hplus : ∀ x ∈ escapeChar (fun c => !isPlain c) c, plusAsSpace x = x := by
      intro x hx
      refine plusAsSpace_of_ne ?_
      rintro rfl
      rcases mem_escapeChar hx with h | h | ⟨rfl, h⟩ <;> revert h <;> decide
    rw [List.map_congr_left hplus, List.map_id', escapeChar, escapeChar, ← hset]

theorem map_write (cs : List Char) : (write cs).map plusAsSpace = escape tripleSet cs := by
  rw [write, List.map_flatMap, escape]
  exact congrArg (cs.flatMap ·) (funext map_writeChar)

theorem read_write (cs : List Char) : read (write cs) = String.ofList cs := by
  change String.ofList (Utf8.lossy (unescapeText ((write cs).map plusAsSpace))) = _
  rw [map_write, unescapeText_escape (by decide), Utf8.lossy_encode]

/-- What is written holds neither of the signs that divide pairs. -/
theorem ne_of_mem_write {cs : List Char} {x : Char} (h : x ∈ write cs) : x ≠ '&' ∧ x ≠ '=' := by
  obtain ⟨c, -, hx⟩ := List.mem_flatMap.1 h
  unfold writeChar at hx
  split at hx
  · rw [List.mem_singleton.1 hx]
    decide
  · constructor <;> rintro rfl <;> rcases mem_escapeChar hx with h | h | ⟨rfl, h⟩ <;>
      revert h <;> decide

theorem and_not_mem_writePair (key value : String) : '&' ∉ writePair key value := by
  intro h
  rcases List.mem_append.1 h with h | h
  · exact (ne_of_mem_write h).1 rfl
  · rcases List.mem_cons.1 h with h | h
    · revert h; decide
    · exact (ne_of_mem_write h).1 rfl

theorem readPair_writePair (key value : String) :
    readPair (writePair key value) = (key, value) := by
  have hkey : ∀ x ∈ write key.toList, decide (x ≠ '=') = true := fun x hx =>
    decide_eq_true (ne_of_mem_write hx).2
  unfold readPair writePair
  rw [List.takeWhile_append_of_pos hkey, List.dropWhile_append_of_pos hkey]
  simp [read_write]

/-- A pair behind a query is read behind the pairs of the query. -/
theorem readPairs_append_writePair (q : List Char) (key value : String) :
    readPairs (q ++ '&' :: writePair key value) = readPairs q ++ [(key, value)] := by
  have hne : writePair key value ≠ [] := by simp [writePair]
  rw [readPairs, splitAt_append_cons, splitAt_of_not_mem (and_not_mem_writePair key value),
    List.filter_append, List.map_append, readPairs]
  simp [hne, readPair_writePair]

end Form

/-- The pairs of a query that may be missing. -/
def pairsOf (query : Option String) : List (String × String) :=
  match query with
  | some q => Form.readPairs q.toList
  | none => []

theorem pairsOf_appendPair (query : Option String) (pair : String × String) :
    pairsOf (appendPair query pair) = pairsOf query ++ [pair] := by
  have hnil := Form.readPairs_append_writePair [] pair.1 pair.2
  cases query with
  | none => simpa [pairsOf, appendPair, Form.readPairs, splitAt] using hnil
  | some q =>
    by_cases hq : q = ""
    · subst hq
      simpa [pairsOf, appendPair, Form.readPairs, splitAt] using hnil
    · simpa [pairsOf, appendPair, hq] using
        Form.readPairs_append_writePair q.toList pair.1 pair.2

theorem pairsOf_foldl_appendPair (query : Option String) (pairs : List (String × String)) :
    pairsOf (pairs.foldl appendPair query) = pairsOf query ++ pairs := by
  induction pairs generalizing query with
  | nil => simp
  | cons pair pairs ih => simp [ih, pairsOf_appendPair]

/-- Pairs that were added are read behind those that were there. -/
theorem queryPairs_appendPairs (u : Url) (pairs : List (String × String)) :
    (u.appendPairs pairs).queryPairs = u.queryPairs ++ pairs :=
  pairsOf_foldl_appendPair u.query pairs

end SellerApi.Url
