import SellerApi.Proofs.Text.Pieces
import SellerApi.Proofs.Url.Percent
import SellerApi.Http.Message

/-! # Paths with raw segments added

Adding a raw segment first drops tabs and line breaks and then follows dots. What is left of the
raw segment, `kept`, therefore decides: a name stands as one more segment that decodes to it
(`addSegment_of_isName`), a step or nothing at all leaves an empty segment (`addSegment_of_dot`,
`addSegment_of_doubleDot`). -/

namespace SellerApi.Url

open SellerApi.Text SellerApi.Http

/-! ## The path as a text -/

/-- The segments of a path as it is written, which stand behind slashes. The root has none. -/
def pathSegments (path : String) : List String :=
  match path.toList with
  | '/' :: c :: cs => (splitAt '/' (c :: cs)).map String.ofList
  | _ => []

/-- The segments of a path; one that is empty and alone makes the root. -/
def rooted (segs : List String) : List String := if segs = [""] then [] else segs

/-- Segments without an empty one at the end. -/
def withoutEmptyEnd (segs : List String) : List String :=
  if segs.getLast? = some "" then segs.dropLast else segs

/-- Whether segments can be told from one another in the text of a path. -/
def Divided (segs : List String) : Prop := ∀ s ∈ segs, '/' ∉ s.toList

theorem toList_toText_cons (s : String) (segs : List String) :
    (Path.segments (s :: segs)).toText.toList =
      '/' :: joinWith '/' ((s :: segs).map String.toList) := by
  induction segs generalizing s with
  | nil => simp [Path.toText, joinWith]
  | cons t segs ih =>
    have h : (Path.segments (s :: t :: segs)).toText =
        "/" ++ s ++ (Path.segments (t :: segs)).toText := by
      simp [Path.toText]
    rw [h, String.toList_append, ih]
    simp [joinWith]

/-- The text of a path shows its segments. -/
theorem pathSegments_toText {segs : List String} (hdiv : Divided segs) :
    pathSegments (Path.segments segs).toText = rooted segs := by
  cases segs with
  | nil => simp [pathSegments, Path.toText, rooted]
  | cons s segs =>
    have hsplit : splitAt '/' (joinWith '/' ((s :: segs).map String.toList)) =
        (s :: segs).map String.toList :=
      splitAt_joinWith (by simp) (by simpa [Divided] using hdiv)
    unfold pathSegments
    rw [toList_toText_cons]
    cases hj : joinWith '/' ((s :: segs).map String.toList) with
    | nil =>
      rw [hj] at hsplit
      simp only [splitAt, List.map_cons, List.cons.injEq, List.nil_eq, List.map_eq_nil_iff,
        String.toList_eq_nil_iff] at hsplit
      simp [rooted, hsplit.1, hsplit.2]
    | cons c cs =>
      have hne : s :: segs ≠ [""] := by
        intro h
        obtain ⟨rfl, rfl⟩ : s = "" ∧ segs = [] := by simpa using h
        simp [joinWith] at hj
      rw [hj] at hsplit
      simp only [hsplit, rooted, if_neg hne, List.map_map]
      simp

/-! ## Dots -/

theorem toLower_cases (c : Char) :
    c.toLower = c ∨ 65 ≤ c.toNat ∧ c.toNat ≤ 90 ∧ c.toLower.toNat = c.toNat + 32 := by
  unfold Char.toLower
  split
  · next h =>
    have h1 : 65 ≤ c.toNat := h.1
    have h2 : c.toNat ≤ 90 := h.2
    refine .inr ⟨h1, h2, ?_⟩
    change (c.val + 32).toNat = c.val.toNat + 32
    have : c.val.toNat = c.toNat := rfl
    rw [UInt32.toNat_add]
    simp
    omega
  · exact .inl rfl

theorem eq_of_toLower_eq {c d : Char} (h : c.toLower = d) (hd : d.toNat < 97) : c = d := by
  subst h
  rcases toLower_cases c with h | ⟨_, _, h⟩
  · exact h.symm
  · omega

theorem eq_or_eq_of_toLower_eq_e {c : Char} (h : c.toLower = 'e') : c = 'e' ∨ c = 'E' := by
  rcases toLower_cases c with hc | ⟨_, _, hc⟩
  · exact .inl (hc.symm.trans h)
  · have h101 : c.toLower.toNat = 101 := by rw [h]; decide
    have h69 : c.toNat = 69 := by omega
    exact .inr (by rw [← Char.ofNat_toNat c, h69])

/-- A dot, as it is or as a triple, in front of what else a text spells. -/
theorem unescapeText_of_dot {s t : List Char}
    (h : s.map Char.toLower = '.' :: t ∨ s.map Char.toLower = '%' :: '2' :: 'e' :: t) :
    ∃ s', s'.map Char.toLower = t ∧ unescapeText s = 46 :: unescapeText s' := by
  rcases h with h | h
  · obtain ⟨a, s', rfl, ha, ht⟩ := List.map_eq_cons_iff.1 h
    obtain rfl := eq_of_toLower_eq ha (by decide)
    exact ⟨s', ht, unescape_cons_of_ne (by decide) _⟩
  · obtain ⟨a, s₁, rfl, ha, h⟩ := List.map_eq_cons_iff.1 h
    obtain ⟨b, s₂, rfl, hb, h⟩ := List.map_eq_cons_iff.1 h
    obtain ⟨c, s', rfl, hc, ht⟩ := List.map_eq_cons_iff.1 h
    obtain rfl := eq_of_toLower_eq ha (by decide)
    obtain rfl := eq_of_toLower_eq hb (by decide)
    refine ⟨s', ht, ?_⟩
    rcases eq_or_eq_of_toLower_eq_e hc with rfl | rfl <;> rfl

theorem unescapeText_of_isDot {s : List Char} (h : isDot s = true) :
    unescapeText s = Utf8.encode ['.'] := by
  simp only [isDot, Bool.or_eq_true, decide_eq_true_eq] at h
  obtain ⟨s', hs, he⟩ := unescapeText_of_dot h
  rw [he, List.map_eq_nil_iff.1 hs]
  rfl

theorem unescapeText_of_isDoubleDot {s : List Char} (h : isDoubleDot s = true) :
    unescapeText s = Utf8.encode ['.', '.'] := by
  simp only [isDoubleDot, Bool.or_eq_true, decide_eq_true_eq] at h
  -- the four spellings are one dot in front of another
  obtain ⟨t, hs, ht⟩ : ∃ t, (s.map Char.toLower = '.' :: t ∨
      s.map Char.toLower = '%' :: '2' :: 'e' :: t) ∧ (t = ['.'] ∨ t = ['%', '2', 'e']) := by
    rcases h with ((h | h) | h) | h
    · exact ⟨_, .inl h, .inl rfl⟩
    · exact ⟨_, .inl h, .inr rfl⟩
    · exact ⟨_, .inr h, .inl rfl⟩
    · exact ⟨_, .inr h, .inr rfl⟩
  obtain ⟨s', rfl, he⟩ := unescapeText_of_dot hs
  have hdot : isDot s' = true := by simpa [isDot] using ht
  rw [he, unescapeText_of_isDot hdot]
  rfl

/-- A percent sign is written as a triple, so that only dots become dots. -/
theorem isDot_escape_iff {cs : List Char} :
    isDot (escape webSegmentSet cs) = true ↔ cs = ['.'] := by
  have hset : webSegmentSet '%' = true := by decide
  refine ⟨fun h => Utf8.encode_injective ?_, ?_⟩
  · rw [← unescapeText_escape hset, unescapeText_of_isDot h]
  · rintro rfl
    decide

theorem isDoubleDot_escape_iff {cs : List Char} :
    isDoubleDot (escape webSegmentSet cs) = true ↔ cs = ['.', '.'] := by
  have hset : webSegmentSet '%' = true := by decide
  refine ⟨fun h => Utf8.encode_injective ?_, ?_⟩
  · rw [← unescapeText_escape hset, unescapeText_of_isDoubleDot h]
  · rintro rfl
    decide

/-! ## Raw segments -/

/-- What a path keeps of a raw segment. -/
def kept (raw : String) : List Char := raw.toList.filter (!isDropped ·)

/-- A raw segment of which more is kept than a step to the same or the parent segment. -/
def IsName (raw : String) : Prop := kept raw ≠ [] ∧ kept raw ≠ ['.'] ∧ kept raw ≠ ['.', '.']

instance (raw : String) : Decidable (IsName raw) := inferInstanceAs (Decidable (_ ∧ _ ∧ _))

/-- What a path has for a raw segment that is a name. -/
def written (raw : String) : String := String.ofList (escape webSegmentSet (kept raw))

theorem kept_of_forall {raw : String} (h : ∀ c ∈ raw.toList, isDropped c = false) :
    kept raw = raw.toList :=
  List.filter_eq_self.2 fun c hc => by simp [h c hc]

theorem toList_written (raw : String) : (written raw).toList = escape webSegmentSet (kept raw) :=
  String.toList_ofList

/-- The written form decodes to what was kept. -/
theorem unescaped?_written (raw : String) :
    unescaped? (written raw) = some (String.ofList (kept raw)) := by
  rw [unescaped?, toList_written, unescapeText_escape (by decide), Utf8.text?_encode,
    Option.map_some]

theorem slash_not_mem_written (raw : String) : '/' ∉ (written raw).toList := by
  rw [toList_written]
  intro h
  rcases mem_escape h with h | h | ⟨-, h⟩ <;> revert h <;> decide

theorem written_ne_empty {raw : String} (h : kept raw ≠ []) : written raw ≠ "" := by
  intro he
  rw [written, String.ofList_eq_empty_iff, escape_eq_nil_iff] at he
  exact h he

@[simp] theorem rooted_rooted (segs : List String) : rooted (rooted segs) = rooted segs := by
  by_cases h : segs = [""] <;> simp [rooted, h]

theorem rooted_append_of_ne {segs : List String} {s : String} (hs : s ≠ "") :
    rooted (rooted segs ++ [s]) = rooted segs ++ [s] := by
  refine if_neg fun h => hs ?_
  have := congrArg List.getLast? h
  simpa using this

theorem divided_rooted {segs : List String} (h : Divided segs) : Divided (rooted segs) := by
  unfold rooted
  split
  · exact fun s hs => absurd hs List.not_mem_nil
  · exact h

theorem divided_append {segs segs' : List String} (h : Divided segs) (h' : Divided segs') :
    Divided (segs ++ segs') := fun s hs => (List.mem_append.1 hs).elim (h s) (h' s)

theorem divided_singleton {s : String} (h : '/' ∉ s.toList) : Divided [s] := fun t ht => by
  rwa [List.mem_singleton.1 ht]

theorem parentOf_subset (segs : List String) : parentOf segs ⊆ segs := by
  unfold parentOf
  split
  · split
    · exact List.Subset.refl _
    · exact List.dropLast_subset _
  · exact List.nil_subset _

section

variable {scheme : String} (hweb : scheme = "http" ∨ scheme = "https")
include hweb

theorem fileForm_eq (segs : List String) : fileForm scheme segs = segs := by
  rcases hweb with rfl | rfl <;> simp [fileForm]

theorem driveForm_eq (before : List String) (segment : List Char) :
    driveForm scheme before segment = segment := by
  rcases hweb with rfl | rfl <;> simp [driveForm]

theorem encodeSegment_eq (raw : String) :
    encodeSegment scheme raw = escape webSegmentSet (kept raw) := by
  rcases hweb with rfl | rfl <;> simp [encodeSegment, isSpecial, isWebScheme, kept]

theorem addSegment_eq {raw : String} (h : raw ≠ ".") (h' : raw ≠ "..") (segs : List String) :
    addSegment scheme segs raw =
      pushSegment scheme (rooted segs) (escape webSegmentSet (kept raw)) := by
  rw [addSegment, if_neg (by simp [h, h']), fileForm_eq hweb, encodeSegment_eq hweb]
  rfl

/-- A name stands behind the segments as one more segment. -/
theorem addSegment_of_isName {raw : String} (h : IsName raw) (segs : List String) :
    addSegment scheme segs raw = rooted segs ++ [written raw] := by
  have h1 : raw ≠ "." := by rintro rfl; exact h.2.1 rfl
  have h2 : raw ≠ ".." := by rintro rfl; exact h.2.2 rfl
  rw [addSegment_eq hweb h1 h2, pushSegment, if_neg (mt isDoubleDot_escape_iff.1 h.2.2),
    if_neg (mt isDot_escape_iff.1 h.2.1), driveForm_eq hweb]
  rfl

/-- Of a raw segment that is left empty, or a step to the same segment, an empty segment stays. -/
theorem addSegment_of_dot {raw : String} (hne : raw ≠ ".") (h : kept raw = [] ∨ kept raw = ['.'])
    (segs : List String) : addSegment scheme segs raw = rooted segs ++ [""] := by
  have h2 : raw ≠ ".." := by
    rintro rfl
    revert h
    decide
  rw [addSegment_eq hweb hne h2, pushSegment]
  rcases h with h | h <;> rw [h]
  · rw [if_neg (by decide), if_neg (by decide), driveForm_eq hweb]
    rfl
  · rw [if_neg (by decide), if_pos (by decide)]

/-- A raw segment that is left a step to the parent takes the segment before it away. -/
theorem addSegment_of_doubleDot {raw : String} (hne : raw ≠ "..") (h : kept raw = ['.', '.'])
    (segs : List String) : addSegment scheme segs raw = parentOf (rooted segs) ++ [""] := by
  have h1 : raw ≠ "." := by
    rintro rfl
    revert h
    decide
  rw [addSegment_eq hweb h1 hne, pushSegment, h, if_pos (by decide)]

/-- Names stand behind the segments, each as one more segment. -/
theorem foldl_addSegment {raws : List String} (h : ∀ raw ∈ raws, IsName raw) (segs : List String) :
    rooted (raws.foldl (addSegment scheme) segs) = rooted segs ++ raws.map written := by
  induction raws generalizing segs with
  | nil => simp
  | cons raw raws ih =>
    obtain ⟨hraw, hraws⟩ := List.forall_mem_cons.1 h
    rw [List.foldl_cons, ih hraws, addSegment_of_isName hweb hraw,
      rooted_append_of_ne (written_ne_empty hraw.1)]
    simp

theorem divided_pushSegment {before : List String} (h : Divided before) {segment : List Char}
    (hseg : '/' ∉ segment) : Divided (pushSegment scheme before segment) := by
  have hempty : Divided [""] := divided_singleton (by decide)
  unfold pushSegment
  split
  · exact divided_append (fun s hs => h s (parentOf_subset _ hs)) hempty
  split
  · exact divided_append h hempty
  · rw [driveForm_eq hweb]
    exact divided_append h (divided_singleton (by rwa [String.toList_ofList]))

theorem divided_addSegment {segs : List String} (h : Divided segs) (raw : String) :
    Divided (addSegment scheme segs raw) := by
  by_cases hstep : raw = "." ∨ raw = ".."
  · rwa [addSegment, if_pos hstep]
  rw [not_or] at hstep
  rw [addSegment_eq hweb hstep.1 hstep.2]
  refine divided_pushSegment hweb (divided_rooted h) ?_
  rw [← toList_written]
  exact slash_not_mem_written raw

theorem divided_foldl_addSegment {segs : List String} (h : Divided segs) (raws : List String) :
    Divided (raws.foldl (addSegment scheme) segs) := by
  induction raws generalizing segs with
  | nil => exact h
  | cons raw raws ih => exact ih (divided_addSegment hweb h raw)

end

/-! ## Paths that are added to -/

theorem divided_dropEmptyEnd {segs : List String} (h : Divided segs) :
    Divided (dropEmptyEnd segs) := by
  unfold dropEmptyEnd
  split
  · exact fun s hs => h s (List.dropLast_subset _ hs)
  · exact h

/-- Where only the last segment may be empty, that one is dropped. -/
theorem rooted_dropEmptyEnd {segs : List String} (h : "" ∉ (rooted segs).dropLast) :
    rooted (dropEmptyEnd segs) = withoutEmptyEnd (rooted segs) := by
  by_cases hone : segs = [""]
  · subst hone
    decide
  rw [rooted, if_neg hone] at h
  rw [show rooted segs = segs from if_neg hone]
  unfold dropEmptyEnd withoutEmptyEnd
  by_cases hlast : segs.getLast? = some ""
  · have hlen : 1 < segs.length := by
      match segs, hone, hlast with
      | [s], hone, hlast => exact absurd (by simpa using hlast) hone
      | _ :: _ :: _, _, _ => simp
    rw [if_pos ⟨hlen, hlast⟩, if_pos hlast]
    refine if_neg fun he => h ?_
    rw [he]
    exact List.mem_singleton_self _
  · rw [if_neg (fun hc => hlast hc.2), if_neg hlast]
    exact if_neg hone

end SellerApi.Url
