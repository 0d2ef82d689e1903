/-! # Blank characters

`isBlank` is the Unicode property White_Space, and `trim` drops the blank characters at both
ends of a text. `trimChars_append_of_blank` says that blank margins never matter, `exists_margins`
that nothing else is dropped. -/

namespace SellerApi.Text

/-- The characters with the Unicode property White_Space. -/
def isBlank (c : Char) : Bool :=
  let n := c.toNat
  (9 ≤ n && n ≤ 13) || n == 0x20 || n == 0x85 || n == 0xA0 || n == 0x1680 ||
    (0x2000 ≤ n && n ≤ 0x200A) || n == 0x2028 || n == 0x2029 || n == 0x202F || n == 0x205F ||
    n == 0x3000

/-- The characters of a text without the blank ones at its end. -/
def trimEndChars (cs : List Char) : List Char :=
  (cs.reverse.dropWhile isBlank).reverse

/-- The characters of a text without the blank ones at its two ends. -/
def trimChars (cs : List Char) : List Char :=
  trimEndChars (cs.dropWhile isBlank)

/-- A text without the blank characters at its two ends. -/
def trim (s : String) : String := String.ofList (trimChars s.toList)

/-- A text of blank characters only, or of none. -/
def isAllBlank (s : String) : Bool := s.toList.all isBlank

theorem trimEndChars_append_of_blank {cs bs : List Char} (h : ∀ b ∈ bs, isBlank b = true) :
    trimEndChars (cs ++ bs) = trimEndChars cs := by
  have hb : ∀ b ∈ bs.reverse, isBlank b = true := fun b hb => h b (List.mem_reverse.1 hb)
  simp only [trimEndChars, List.reverse_append]
  rw [List.dropWhile_append_of_pos hb]

theorem dropWhile_blank_append {cs bs : List Char} (h : ∀ b ∈ bs, isBlank b = true) :
    (bs ++ cs).dropWhile isBlank = cs.dropWhile isBlank :=
  List.dropWhile_append_of_pos h

theorem trimChars_of_all_blank {cs : List Char} (h : ∀ c ∈ cs, isBlank c = true) :
    trimChars cs = [] := by
  have : cs.dropWhile isBlank = [] := by
    have : (cs ++ []).dropWhile isBlank = [] := dropWhile_blank_append h
    simpa using this
  simp [trimChars, trimEndChars, this]

/-- What stands before and behind a text does not matter if it is blank. -/
theorem trimChars_append_of_blank {before cs behind : List Char}
    (hbefore : ∀ b ∈ before, isBlank b = true) (hbehind : ∀ b ∈ behind, isBlank b = true) :
    trimChars (before ++ cs ++ behind) = trimChars cs := by
  rw [trimChars, List.append_assoc, dropWhile_blank_append hbefore, List.dropWhile_append]
  split
  · next h =>
    have hdrop : (behind ++ []).dropWhile isBlank = [] := dropWhile_blank_append hbehind
    rw [List.append_nil] at hdrop
    rw [hdrop, trimChars, List.isEmpty_iff.1 h]
  · exact trimEndChars_append_of_blank hbehind

/-- Only what is blank is dropped. -/
theorem exists_margins (cs : List Char) : ∃ before behind, cs = before ++ trimChars cs ++ behind ∧
    (∀ b ∈ before, isBlank b = true) ∧ ∀ b ∈ behind, isBlank b = true := by
  refine ⟨cs.takeWhile isBlank, ((cs.dropWhile isBlank).reverse.takeWhile isBlank).reverse, ?_,
    List.all_eq_true.1 List.all_takeWhile, ?_⟩
  · rw [trimChars, trimEndChars, List.append_assoc, ← List.reverse_append,
      List.takeWhile_append_dropWhile, List.reverse_reverse, List.takeWhile_append_dropWhile]
  · intro b hb
    exact List.all_eq_true.1 List.all_takeWhile b (List.mem_reverse.1 hb)

end SellerApi.Text
