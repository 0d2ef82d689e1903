import SellerApi.Json.Reader
import SellerApi.Json.Writer

/-! # Reading texts that were written

A text between its quotes reads back in front of any rest (`readText?_escape_append`): each
character is read as one piece, a control without a short form as a code unit (`pieceOf`). -/

namespace SellerApi

namespace Text.Hex

theorem value?_digit : ∀ n < 16, value? (digit n) = some n := by decide

end Text.Hex

namespace Json

open SellerApi.Text

/-- The piece that the written form of a character is read as. -/
def pieceOf (c : Char) : Piece :=
  if c.toNat < 0x20 ∧ c ∉ ['\n', '\r', '\t', '\x08', '\x0c'] then .unit c.toNat else .char c

theorem assemble?_cons_pieceOf (c : Char) (ps : List Piece) :
    assemble? (pieceOf c :: ps) = (assemble? ps).map (c :: ·) := by
  unfold pieceOf
  split
  · next h =>
    have hunit : c.toNat < 0xD800 ∨ 0xDFFF < c.toNat := .inl (by omega)
    rw [assemble?.eq_def]
    simp only [if_pos hunit, Char.ofNat_toNat]
  · rw [assemble?]

theorem assemble?_map_pieceOf (cs : List Char) : assemble? (cs.map pieceOf) = some cs := by
  induction cs with
  | nil => rfl
  | cons c cs ih => rw [List.map_cons, assemble?_cons_pieceOf, ih]; rfl

/-- A character that is written as it is, is read as it is. -/
theorem readPieces?_cons_of_plain {c : Char} (hquote : c ≠ '"') (hslash : c ≠ '\\')
    (hlow : ¬c.toNat < 0x20) (cs : Source) :
    readPieces? (some c :: cs) = (readPieces? cs).map fun p => (.char c :: p.1, p.2) := by
  rw [readPieces?, if_neg (by simp [hslash, hlow])]
  all_goals simp_all

/-- A character behind a backslash. -/
theorem readPieces?_cons_of_escape {e c : Char} (h : simpleEscape? e = some c) (cs : Source) :
    readPieces? (some '\\' :: some e :: cs) =
      (readPieces? cs).map fun p => (.char c :: p.1, p.2) := by
  have hu : e ≠ 'u' := by rintro rfl; simp [simpleEscape?] at h
  rw [readPieces?, h]
  all_goals simp_all

theorem readPieces?_cons_of_unit {a b c d : Char} {n : Nat} (h : hexUnit? a b c d = some n)
    (cs : Source) :
    readPieces? (some '\\' :: some 'u' :: some a :: some b :: some c :: some d :: cs) =
      (readPieces? cs).map fun p => (.unit n :: p.1, p.2) := by
  rw [readPieces?, h]

theorem hexUnit?_fixed {n : Nat} (h : n < 0x20) :
    ∃ a b c d, Hex.fixed 4 n = [a, b, c, d] ∧ hexUnit? a b c d = some n := by
  refine ⟨_, _, _, _, rfl, ?_⟩
  simp only [hexUnit?, Hex.value?_digit _ (Nat.mod_lt _ (by decide : 0 < 16)), Option.bind_eq_bind,
    Option.bind_some, Option.pure_def, Option.some.injEq]
  omega

/-- The written form of a character is read as one piece. -/
theorem readPieces?_escapeChar_append (c : Char) (cs : Source) :
    readPieces? ((escapeChar c).map some ++ cs) =
      (readPieces? cs).map fun p => (pieceOf c :: p.1, p.2) := by
  have hshort : ∀ e, c.toNat ≥ 0x20 ∨ c ∈ ['\n', '\r', '\t', '\x08', '\x0c'] →
      simpleEscape? e = some c → readPieces? ([some '\\', some e] ++ cs) =
        (readPieces? cs).map fun p => (pieceOf c :: p.1, p.2) := by
    intro e hc he
    have hpiece : pieceOf c = .char c := by
      rw [pieceOf, if_neg]
      rintro ⟨hlow, hnot⟩
      rcases hc with hc | hc
      · omega
      · exact hnot hc
    rw [hpiece]
    exact readPieces?_cons_of_escape he cs
  unfold escapeChar
  -- the characters with a short form come first
  split
  · next h => subst h; exact hshort '"' (.inl (by decide)) rfl
  split
  · next h => subst h; exact hshort '\\' (.inl (by decide)) rfl
  split
  · next h => subst h; exact hshort 'n' (.inr (by decide)) rfl
  split
  · next h => subst h; exact hshort 'r' (.inr (by decide)) rfl
  split
  · next h => subst h; exact hshort 't' (.inr (by decide)) rfl
  split
  · next h => subst h; exact hshort 'b' (.inr (by decide)) rfl
  split
  · next h => subst h; exact hshort 'f' (.inr (by decide)) rfl
  next hquote hslash hn hr ht hb hf =>
  split
  · next hlow =>
    obtain ⟨a, b, c', d, hfixed, hunit⟩ := hexUnit?_fixed hlow
    have hpiece : pieceOf c = .unit c.toNat := by
      rw [pieceOf, if_pos ⟨hlow, by simp [hn, hr, ht, hb, hf]⟩]
    rw [hfixed, hpiece]
    exact readPieces?_cons_of_unit hunit cs
  · next hlow =>
    have hpiece : pieceOf c = .char c := by rw [pieceOf, if_neg (fun h => hlow h.1)]
    rw [hpiece]
    exact readPieces?_cons_of_plain hquote hslash hlow cs

theorem readPieces?_escape_append (cs : List Char) (rest : Source) :
    readPieces? ((cs.flatMap escapeChar).map some ++ some '"' :: rest) =
      some (cs.map pieceOf, rest) := by
  induction cs with
  | nil => rw [List.flatMap_nil, List.map_nil, List.nil_append, readPieces?]; rfl
  | cons c cs ih =>
    rw [List.flatMap_cons, List.map_append, List.append_assoc, readPieces?_escapeChar_append, ih]
    rfl

/-- A text in front of a rest, its opening quote apart. -/
theorem map_renderText_append (s : String) (rest : Source) :
    (renderText s).map some ++ rest =
      some '"' :: ((s.toList.flatMap escapeChar).map some ++ some '"' :: rest) := by
  rw [renderText, List.map_append, List.append_assoc]
  rfl

/-- A written text, behind its opening quote, reads back. -/
theorem readText?_escape_append (s : String) (rest : Source) :
    readText? ((s.toList.flatMap escapeChar).map some ++ some '"' :: rest) =
      some (some s, rest) := by
  rw [readText?, readPieces?_escape_append]
  simp [assemble?_map_pieceOf]

end Json
end SellerApi
