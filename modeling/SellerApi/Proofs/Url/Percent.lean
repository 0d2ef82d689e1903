import SellerApi.Proofs.Text.Utf8
import SellerApi.Url.Percent

/-! # Reading what was percent encoded

Where a place cannot hold the percent sign itself, `unescapeText` undoes `escape`
(`unescapeText_escape`). An encoded text holds percent signs, digits and letters, and of its other
characters only those that the place can hold (`mem_escape`). -/

namespace SellerApi.Url

open SellerApi.Text

theorem encodeChar_of_lt {c : Char} (h : c.toNat < 0x80) :
    Utf8.encodeChar c = [c.toNat.toUInt8] := by
  rw [Utf8.encodeChar, if_pos h]

/-! ## Triples -/

theorem isAlphanum_upperDigit : ∀ n < 16, (Hex.upperDigit n).isAlphanum = true := by decide

theorem upperDigit_lt : ∀ n < 16, (Hex.upperDigit n).toNat < 0x80 := by decide

theorem octetDigit?_upperDigit :
    ∀ n < 16, octetDigit? (Hex.upperDigit n).toNat.toUInt8 = some n := by decide

theorem div_sixteen_lt (b : UInt8) : b.toNat / 16 < 16 := by
  have := b.toNat_lt
  omega

theorem encode_triple (b : UInt8) :
    Utf8.encode (triple b) =
      [37, (Hex.upperDigit (b.toNat / 16)).toNat.toUInt8,
        (Hex.upperDigit (b.toNat % 16)).toNat.toUInt8] := by
  have hh := encodeChar_of_lt (upperDigit_lt _ (div_sixteen_lt b))
  have hl := encodeChar_of_lt (upperDigit_lt _ (Nat.mod_lt b.toNat (by decide : 0 < 16)))
  simp [triple, Utf8.encode, hh, hl]
  rfl

/-- A triple stands for its octet, whatever follows. -/
theorem unescape_triple_append (b : UInt8) (bs : List UInt8) :
    unescape (Utf8.encode (triple b) ++ bs) = b :: unescape bs := by
  rw [encode_triple, List.cons_append, List.cons_append, List.cons_append, unescape, if_pos rfl]
  simp only [octetDigit?_upperDigit _ (div_sixteen_lt b),
    octetDigit?_upperDigit _ (Nat.mod_lt b.toNat (by decide : 0 < 16)), Nat.div_add_mod]
  simp [Nat.toUInt8]

theorem unescape_triples_append (os bs : List UInt8) :
    unescape (Utf8.encode (os.flatMap triple) ++ bs) = os ++ unescape bs := by
  induction os with
  | nil => rfl
  | cons o os ih =>
    rw [List.flatMap_cons, Utf8.encode, List.flatMap_append, List.append_assoc]
    exact (unescape_triple_append o _).trans (congrArg (o :: ·) ih)

/-- An octet that is no percent sign stands for itself. -/
theorem unescape_cons_of_ne {b : UInt8} (h : b ≠ 37) (bs : List UInt8) :
    unescape (b :: bs) = b :: unescape bs := by
  match bs with
  | [] | [_] | _ :: _ :: _ => simp [unescape, h]

/-! ## Texts -/

variable {set : EscapeSet}

theorem unescape_escapeChar_append (hset : set '%' = true) (c : Char) (bs : List UInt8) :
    unescape (Utf8.encode (escapeChar set c) ++ bs) = Utf8.encodeChar c ++ unescape bs := by
  unfold escapeChar
  split
  · next h =>
    obtain ⟨hlt, hc⟩ := h
    have hne : c.toNat.toUInt8 ≠ 37 := by
      intro he
      have h37 : c.toNat = 37 := by
        rw [← Utf8.toNat_toUInt8 (n := c.toNat) (by omega), he]
        decide
      have : c = '%' := by rw [← Char.ofNat_toNat c, h37]
      exact hc (this ▸ hset)
    rw [Utf8.encode, List.flatMap_singleton, encodeChar_of_lt hlt]
    exact unescape_cons_of_ne hne bs
  · exact unescape_triples_append _ bs

theorem unescape_escape_append (hset : set '%' = true) (cs : List Char) (bs : List UInt8) :
    unescape (Utf8.encode (escape set cs) ++ bs) = Utf8.encode cs ++ unescape bs := by
  induction cs with
  | nil => rfl
  | cons c cs ih =>
    rw [escape, List.flatMap_cons, Utf8.encode, List.flatMap_append, List.append_assoc]
    refine (unescape_escapeChar_append hset c _).trans ?_
    rw [Utf8.encode, List.flatMap_cons, List.append_assoc]
    exact congrArg (Utf8.encodeChar c ++ ·) ih

/-- An encoded text stands for the octets of the text. -/
theorem unescapeText_escape (hset : set '%' = true) (cs : List Char) :
    unescapeText (escape set cs) = Utf8.encode cs := by
  simpa [unescapeText, unescape] using unescape_escape_append hset cs []

theorem mem_triple {b : UInt8} {x : Char} (h : x ∈ triple b) :
    x = '%' ∨ x.isAlphanum = true := by
  simp only [triple, List.mem_cons, List.not_mem_nil, or_false] at h
  rcases h with rfl | rfl | rfl
  · exact .inl rfl
  · exact .inr (isAlphanum_upperDigit _ (div_sixteen_lt b))
  · exact .inr (isAlphanum_upperDigit _ (Nat.mod_lt _ (by decide)))

theorem mem_escapeChar {c x : Char} (h : x ∈ escapeChar set c) :
    x = '%' ∨ x.isAlphanum = true ∨ (x = c ∧ set c = false) := by
  unfold escapeChar at h
  split at h
  · next hc => exact .inr (.inr ⟨List.mem_singleton.1 h, by simpa using hc.2⟩)
  · obtain ⟨b, -, hb⟩ := List.mem_flatMap.1 h
    exact (mem_triple hb).imp_right .inl

/-- What an encoded text is made of. -/
theorem mem_escape {cs : List Char} {x : Char} (h : x ∈ escape set cs) :
    x = '%' ∨ x.isAlphanum = true ∨ (x ∈ cs ∧ set x = false) := by
  obtain ⟨c, hc, hx⟩ := List.mem_flatMap.1 h
  refine (mem_escapeChar hx).imp_right (Or.imp_right ?_)
  rintro ⟨rfl, hs⟩
  exact ⟨hc, hs⟩

theorem encodeChar_ne_nil (c : Char) : Utf8.encodeChar c ≠ [] := by
  unfold Utf8.encodeChar
  dsimp only
  repeat' split
  all_goals simp

theorem escapeChar_ne_nil (c : Char) : escapeChar set c ≠ [] := by
  unfold escapeChar
  split
  · exact List.cons_ne_nil _ _
  · intro h
    obtain ⟨b, bs, hb⟩ := List.exists_cons_of_ne_nil (encodeChar_ne_nil c)
    rw [hb, List.flatMap_cons] at h
    exact List.cons_ne_nil _ _ h

@[simp] theorem escape_eq_nil_iff {cs : List Char} : escape set cs = [] ↔ cs = [] := by
  cases cs with
  | nil => simp [escape]
  | cons c cs => simp [escape, escapeChar_ne_nil]

end SellerApi.Url
