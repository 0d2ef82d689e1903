import SellerApi.Text.Pieces

/-! # Cutting texts that were put together

`splitAt` cuts at a separator between two texts whatever they hold (`splitAt_append_cons`), and
pieces without separators come back as they were (`splitAt_joinWith`). A text is also cut where the
characters of one kind end (`span_append`). -/

namespace SellerApi.Text

/-- The characters of a kind end where another one follows. -/
theorem span_append {kind : Char → Bool} {cs rest : List Char} (hcs : ∀ c ∈ cs, kind c = true)
    (hrest : ∀ c ∈ rest.head?, kind c = false) :
    (cs ++ rest).takeWhile kind = cs ∧ (cs ++ rest).dropWhile kind = rest := by
  rw [List.takeWhile_append_of_pos hcs, List.dropWhile_append_of_pos hcs]
  cases rest with
  | nil => simp
  | cons c rest => simp [hrest c rfl]

variable {sep : Char}

theorem splitAt_cons_of_ne {c : Char} (h : c ≠ sep) {cs p : List Char} {ps : List (List Char)}
    (hs : splitAt sep cs = p :: ps) : splitAt sep (c :: cs) = (c :: p) :: ps := by
  rw [splitAt, if_neg h, hs]

/-- Texts on both sides of a separator are cut apart from each other. -/
theorem splitAt_append_cons (cs ds : List Char) :
    splitAt sep (cs ++ sep :: ds) = splitAt sep cs ++ splitAt sep ds := by
  induction cs with
  | nil => simp [splitAt]
  | cons c cs ih =>
    by_cases h : c = sep
    · simp [splitAt, h, ih]
    · obtain ⟨p, ps, hp⟩ := List.exists_cons_of_ne_nil (splitAt_ne_nil sep cs)
      rw [hp, List.cons_append] at ih
      rw [List.cons_append, splitAt_cons_of_ne h ih, splitAt_cons_of_ne h hp, List.cons_append]

/-- A piece holds no separator, and nothing that the text does not hold. -/
theorem of_mem_splitAt {cs p : List Char} (h : p ∈ splitAt sep cs) :
    sep ∉ p ∧ ∀ x ∈ p, x ∈ cs := by
  induction cs generalizing p with
  | nil =>
    rw [splitAt, List.mem_singleton] at h
    simp [h]
  | cons c cs ih =>
    by_cases hc : c = sep
    · rw [splitAt, if_pos hc] at h
      rcases List.mem_cons.1 h with rfl | h
      · simp
      · exact ⟨(ih h).1, fun x hx => List.mem_cons_of_mem _ ((ih h).2 x hx)⟩
    · obtain ⟨q, qs, hq⟩ := List.exists_cons_of_ne_nil (splitAt_ne_nil sep cs)
      rw [splitAt_cons_of_ne hc hq] at h
      rw [hq] at ih
      rcases List.mem_cons.1 h with rfl | h
      · have := ih List.mem_cons_self
        exact ⟨by simp [Ne.symm hc, this.1],
          List.forall_mem_cons.2 ⟨List.mem_cons_self,
            fun x hx => List.mem_cons_of_mem _ (this.2 x hx)⟩⟩
      · have := ih (List.mem_cons_of_mem _ h)
        exact ⟨this.1, fun x hx => List.mem_cons_of_mem _ (this.2 x hx)⟩

theorem joinWith_eq_intercalate (ps : List (List Char)) :
    joinWith sep ps = [sep].intercalate ps := by
  induction ps with
  | nil => rfl
  | cons p ps ih =>
    cases ps with
    | nil => simp [joinWith]
    | cons q qs => simp [joinWith, ih]

/-- Pieces without separators come back from the text that they make. -/
theorem splitAt_joinWith {ps : List (List Char)} (hne : ps ≠ []) (h : ∀ p ∈ ps, sep ∉ p) :
    splitAt sep (joinWith sep ps) = ps := by
  induction ps with
  | nil => exact absurd rfl hne
  | cons p ps ih =>
    obtain ⟨hp, hps⟩ := List.forall_mem_cons.1 h
    cases ps with
    | nil => exact splitAt_of_not_mem hp
    | cons q qs =>
      rw [joinWith, splitAt_append hp, ih (List.cons_ne_nil _ _) hps]

end SellerApi.Text
