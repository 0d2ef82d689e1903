import SellerApi.Text.Utf8

/-! # Reading what was written as UTF-8

The octets of a text decode to the characters of that text, whatever follows them
(`decodeFrom_encode_append`). Hence both readers, the strict `text?` and the lenient `lossy`, undo
`encode`. -/

namespace SellerApi.Text.Utf8

theorem toNat_toUInt8 {n : Nat} (h : n < 256) : n.toUInt8.toNat = n := by
  simp [Nat.toUInt8, Nat.mod_eq_of_lt h]

/-- A character is no surrogate and not above U+10FFFF. -/
theorem toNat_valid (c : Char) : c.toNat < 0xD800 ∨ 0xDFFF < c.toNat ∧ c.toNat < 0x110000 :=
  c.valid

/-! ## One octet -/

theorem decodeFrom_whole {b : UInt8} {c : Char} (h : lead b.toNat = .whole c) (bs : List UInt8) :
    decodeFrom none (b :: bs) = some c :: decodeFrom none bs := by
  rw [decodeFrom, h]

theorem decodeFrom_first {b : UInt8} {owed : Owed} (h : lead b.toNat = .first owed)
    (bs : List UInt8) : decodeFrom none (b :: bs) = decodeFrom (some owed) bs := by
  rw [decodeFrom, h]

/-- The last octet that is owed ends the character. -/
theorem decodeFrom_last {owed : Owed} {d : Nat} (hd : d < 0x40) (hcount : owed.count ≤ 1)
    (hlow : owed.low ≤ 0x80 + d) (hhigh : 0x80 + d ≤ owed.high) (bs : List UInt8) :
    decodeFrom (some owed) ((0x80 + d).toUInt8 :: bs) =
      some (Char.ofNat (owed.value * 0x40 + d)) :: decodeFrom none bs := by
  have hb : ((0x80 + d).toUInt8).toNat = 0x80 + d := toNat_toUInt8 (by omega)
  rw [decodeFrom, hb, if_pos ⟨hlow, hhigh⟩, if_pos hcount]
  simp

/-- An octet before the last one adds its six bits. -/
theorem decodeFrom_more {owed : Owed} {d : Nat} (hd : d < 0x40) (hcount : 1 < owed.count)
    (hlow : owed.low ≤ 0x80 + d) (hhigh : 0x80 + d ≤ owed.high) (bs : List UInt8) :
    decodeFrom (some owed) ((0x80 + d).toUInt8 :: bs) =
      decodeFrom (some ⟨owed.count - 1, 0x80, 0xBF, owed.value * 0x40 + d⟩) bs := by
  have hb : ((0x80 + d).toUInt8).toNat = 0x80 + d := toNat_toUInt8 (by omega)
  rw [decodeFrom, hb, if_pos ⟨hlow, hhigh⟩]
  simp [Nat.not_le.2 hcount]

/-! ## The first octet of a longer character -/

theorem lead_two {x : Nat} (h : 2 ≤ x) (h' : x < 0x20) :
    lead (0xC0 + x) = .first ⟨1, 0x80, 0xBF, x⟩ := by
  rw [lead, if_neg (by omega), if_neg (by omega), if_pos (by omega), Nat.add_sub_cancel_left]

/-- The bounds on the second of three octets let every character but the surrogates pass. -/
theorem lead_three {n : Nat} (h : 0x800 ≤ n) (hn : n < 0xD800 ∨ 0xDFFF < n ∧ n < 0x10000) :
    ∃ low high, lead (0xE0 + n / 0x1000) = .first ⟨2, low, high, n / 0x1000⟩ ∧
      low ≤ 0x80 + n / 0x40 % 0x40 ∧ 0x80 + n / 0x40 % 0x40 ≤ high := by
  rw [lead, if_neg (by omega), if_neg (by omega), if_neg (by omega)]
  by_cases h0 : 0xE0 + n / 0x1000 = 0xE0
  · rw [if_pos h0]
    exact ⟨0xA0, 0xBF, by simp; omega, by omega, by omega⟩
  by_cases hD : 0xE0 + n / 0x1000 = 0xED
  · rw [if_neg h0, if_pos hD]
    exact ⟨0x80, 0x9F, by simp; omega, by omega, by omega⟩
  · rw [if_neg h0, if_neg hD, if_pos (by omega)]
    exact ⟨0x80, 0xBF, by simp, by omega, by omega⟩

/-- The bounds on the second of four octets let every character of four octets pass. -/
theorem lead_four {n : Nat} (h : 0x10000 ≤ n) (hn : n < 0x110000) :
    ∃ low high, lead (0xF0 + n / 0x40000) = .first ⟨3, low, high, n / 0x40000⟩ ∧
      low ≤ 0x80 + n / 0x1000 % 0x40 ∧ 0x80 + n / 0x1000 % 0x40 ≤ high := by
  rw [lead, if_neg (by omega), if_neg (by omega), if_neg (by omega), if_neg (by omega),
    if_neg (by omega), if_neg (by omega)]
  by_cases h0 : 0xF0 + n / 0x40000 = 0xF0
  · rw [if_pos h0]
    exact ⟨0x90, 0xBF, by simp; omega, by omega, by omega⟩
  by_cases h3 : 0xF0 + n / 0x40000 < 0xF4
  · rw [if_neg h0, if_pos h3]
    exact ⟨0x80, 0xBF, by simp, by omega, by omega⟩
  · rw [if_neg h0, if_neg h3, if_pos (by omega)]
    exact ⟨0x80, 0x8F, by simp; omega, by omega, by omega⟩

/-! ## Characters and texts -/

theorem decodeFrom_encodeChar_append (c : Char) (bs : List UInt8) :
    decodeFrom none (encodeChar c ++ bs) = some c :: decodeFrom none bs := by
  have hc : Char.ofNat c.toNat = c := Char.ofNat_toNat c
  have hv := toNat_valid c
  generalize hn : c.toNat = n at hc hv
  unfold encodeChar
  simp only [hn]
  -- one case per length of the character
  split
  · next h1 =>
    refine decodeFrom_whole ?_ bs
    rw [toNat_toUInt8 (by omega), lead, if_pos h1, hc]
  split
  · next h1 h2 =>
    have hlead : lead (0xC0 + n / 0x40).toUInt8.toNat = .first ⟨1, 0x80, 0xBF, n / 0x40⟩ := by
      rw [toNat_toUInt8 (by omega)]
      exact lead_two (by omega) (by omega)
    rw [List.cons_append, decodeFrom_first hlead, List.cons_append,
      decodeFrom_last (by omega) (by simp) (by simp) (by simp; omega),
      show n / 0x40 * 0x40 + n % 0x40 = n by omega, hc, List.nil_append]
  split
  · next h1 h2 h3 =>
    obtain ⟨low, high, hlead, hlow, hhigh⟩ := lead_three (n := n) (by omega) (by omega)
    rw [← toNat_toUInt8 (show 0xE0 + n / 0x1000 < 0x100 by omega)] at hlead
    rw [List.cons_append, decodeFrom_first hlead, List.cons_append,
      decodeFrom_more (by omega) (by simp) hlow hhigh, List.cons_append,
      decodeFrom_last (by omega) (by simp) (by simp) (by simp; omega)]
    simp only
    rw [show (n / 0x1000 * 0x40 + n / 0x40 % 0x40) * 0x40 + n % 0x40 = n by omega, hc,
      List.nil_append]
  · next h1 h2 h3 =>
    obtain ⟨low, high, hlead, hlow, hhigh⟩ := lead_four (n := n) (by omega) (by omega)
    rw [← toNat_toUInt8 (show 0xF0 + n / 0x40000 < 0x100 by omega)] at hlead
    rw [List.cons_append, decodeFrom_first hlead, List.cons_append,
      decodeFrom_more (by omega) (by simp) hlow hhigh, List.cons_append,
      decodeFrom_more (by omega) (by simp) (by simp) (by simp; omega), List.cons_append,
      decodeFrom_last (by omega) (by simp) (by simp) (by simp; omega)]
    simp only
    rw [show ((n / 0x40000 * 0x40 + n / 0x1000 % 0x40) * 0x40 + n / 0x40 % 0x40) * 0x40 +
      n % 0x40 = n by omega, hc, List.nil_append]

/-- The octets of a text stand for its characters, whatever follows. -/
theorem decodeFrom_encode_append (cs : List Char) (bs : List UInt8) :
    decodeFrom none (encode cs ++ bs) = cs.map some ++ decodeFrom none bs := by
  induction cs with
  | nil => rfl
  | cons c cs ih =>
    rw [encode, List.flatMap_cons, List.append_assoc, decodeFrom_encodeChar_append]
    exact congrArg (some c :: ·) ih

theorem decode_encode (cs : List Char) : decode (encode cs) = cs.map some := by
  have h := decodeFrom_encode_append cs []
  rwa [List.append_nil, decodeFrom, List.append_nil] at h

/-- The lenient reader undoes writing. -/
@[simp] theorem lossy_encode (cs : List Char) : lossy (encode cs) = cs := by
  rw [lossy, decode_encode, List.map_map]
  exact List.map_id cs

/-- The strict reader undoes writing. -/
@[simp] theorem text?_encode (cs : List Char) : text? (encode cs) = some cs := by
  rw [text?, decode_encode]
  induction cs with
  | nil => rfl
  | cons c cs ih => simp_all

/-- Different texts have different octets. -/
theorem encode_injective {cs ds : List Char} (h : encode cs = encode ds) : cs = ds := by
  rw [← lossy_encode cs, h, lossy_encode]

end SellerApi.Text.Utf8
