import Mathlib.Logic.Relation
import SellerApi.Proofs.Request.Resolve
import SellerApi.Proofs.Text.Pieces

/-! # How a template is filled

A template is cut at its slashes, and the pieces that are not empty become the raw segments of the
path: a name in braces the identifier that is bound to it first, any other piece itself
(`Becomes`). If a name has no identifier that is taken, the path fails as the leftmost such name
(`Unfilled`). Bindings that come too late or are not asked for, and slashes that only add empty
pieces, do not matter: `Idle` has one constructor for each such change, and the result is the same
however many of them lie between two templates with their bindings (`expandPath_fills`).
-/

namespace SellerApi

open SellerApi.Text

/-! ## Pieces -/

/-- A template cut at its slashes, empty pieces included. -/
structure IsCut (template : String) (pieces : List String) : Prop where
  ne_nil : pieces ≠ []
  whole : "/".intercalate pieces = template
  unslashed : ∀ piece ∈ pieces, '/' ∉ piece.toList

/-- A name in braces. -/
def inBraces (name : String) : String := "\x7b" ++ name ++ "\x7d"

theorem toList_inBraces (name : String) :
    (inBraces name).toList = '{' :: (name.toList ++ ['}']) := by
  simp [inBraces]

theorem inBraces_ne_empty (name : String) : inBraces name ≠ "" := fun h => by
  have hlist := congrArg String.toList h
  simp [toList_inBraces] at hlist

/-- There is one way to cut a template. -/
theorem isCut_iff {template : String} {pieces : List String} :
    IsCut template pieces ↔ pieces = (splitAt '/' template.toList).map String.ofList := by
  constructor
  · rintro ⟨hne, rfl, hpieces⟩
    have hlists : ∀ p ∈ pieces.map String.toList, '/' ∉ p := List.forall_mem_map.2 hpieces
    have hcut := splitAt_joinWith (by simpa using hne) hlists
    rw [joinWith_eq_intercalate] at hcut
    simp [hcut, Function.comp_def]
  · rintro rfl
    refine ⟨by simpa using splitAt_ne_nil '/' _, ?_, ?_⟩
    · refine String.toList_injective ?_
      have hjoin := joinWith_splitAt '/' template.toList
      rw [joinWith_eq_intercalate] at hjoin
      simpa [Function.comp_def] using hjoin
    · intro piece hpiece
      obtain ⟨p, hp, rfl⟩ := List.mem_map.1 hpiece
      simpa using (of_mem_splitAt hp).1

/-- A piece of text is a name in braces or literal. -/
def PathPiece.ofText (piece : String) : PathPiece := .ofChars piece.toList

theorem PathPiece.ofText_inBraces (name : String) : ofText (inBraces name) = .placeholder name := by
  simp [ofText, toList_inBraces, ofChars, dropLast?]

theorem PathPiece.ofText_of_ne {piece : String} (h : ∀ name, piece ≠ inBraces name) :
    ofText piece = .literal piece := by
  unfold ofText ofChars
  split
  · next inner hinner =>
    split
    · next name hname =>
      unfold dropLast? at hname
      split at hname
      · next hlast =>
        -- both braces are there, so that the piece is a name after all
        refine absurd (String.toList_injective ?_) (h (String.ofList name))
        obtain rfl := Option.some.inj hname
        rw [toList_inBraces, hinner, String.toList_ofList,
          List.dropLast_append_getLast? _ hlast]
      · contradiction
    · rw [String.ofList_toList]
  · rw [String.ofList_toList]

/-- The pieces that a template is cut into, but for the empty ones, are those that are filled. -/
theorem IsCut.templatePieces_eq {template : String} {pieces : List String}
    (h : IsCut template pieces) :
    templatePieces template = (pieces.filter (· ≠ "")).map PathPiece.ofText := by
  rw [isCut_iff.1 h, templatePieces, List.filter_map, List.map_map]
  have hne : (fun p : List Char => decide (p ≠ [])) =
      (fun piece : String => decide (piece ≠ "")) ∘ String.ofList := by
    funext p
    simp [String.ofList_eq_empty_iff]
  rw [hne]
  refine List.map_congr_left fun p _ => ?_
  simp [PathPiece.ofText]

/-! ## Names -/

/-- The first binding of a name. -/
def Bindings.First (bs : Bindings) (name value : String) : Prop :=
  ∃ before after, bs = before ++ (name, value) :: after ∧ ∀ b ∈ before, b.1 ≠ name

theorem Bindings.find?_eq_some_iff {bs : Bindings} {name value : String} :
    bs.find? name = some value ↔ bs.First name value := by
  unfold find? First
  constructor
  · intro h
    obtain ⟨⟨name', value'⟩, hfound, rfl⟩ := Option.map_eq_some_iff.1 h
    obtain ⟨hname, before, after, hbs, hbefore⟩ := List.find?_eq_some_iff_append.1 hfound
    obtain rfl : name' = name := of_decide_eq_true hname
    exact ⟨before, after, hbs, fun b hb => by simpa using hbefore b hb⟩
  · rintro ⟨before, after, rfl, hbefore⟩
    refine Option.map_eq_some_iff.2 ⟨(name, value), List.find?_eq_some_iff_append.2 ?_, rfl⟩
    exact ⟨decide_eq_true rfl, before, after, rfl, fun b hb => by simpa using hbefore b hb⟩

theorem Bindings.find?_eq_none_iff {bs : Bindings} {name : String} :
    bs.find? name = none ↔ ∀ b ∈ bs, b.1 ≠ name := by
  simp [find?]

/-- Why a name is not filled. -/
inductive Unfilled (bs : Bindings) (name : String) : String → Prop where
  | unbound (h : ∀ b ∈ bs, b.1 ≠ name) : Unfilled bs name "is required"
  | empty (h : bs.First name "") : Unfilled bs name "must not be empty"
  /-- The identifier would be a step to the same or the parent segment. -/
  | step {value : String} (h : bs.First name value) (hstep : value = "." ∨ value = "..") :
    Unfilled bs name ("'" ++ value ++ "' is not a valid identifier")

theorem identifier_eq_error_iff {bs : Bindings} {name : String} {f : Failure} :
    identifier bs name = .error f ↔ ∃ reason, Unfilled bs name reason ∧
      f = .badParameter name reason := by
  unfold identifier
  constructor
  · intro h
    split at h
    · next hnone =>
      exact ⟨_, .unbound (Bindings.find?_eq_none_iff.1 hnone), (Except.error.inj h).symm⟩
    next value hvalue =>
    have hfirst := Bindings.find?_eq_some_iff.1 hvalue
    split at h
    · next hempty => exact ⟨_, .empty (hempty ▸ hfirst), (Except.error.inj h).symm⟩
    split at h
    · next hstep => exact ⟨_, .step hfirst hstep, (Except.error.inj h).symm⟩
    · contradiction
  · rintro ⟨reason, hunfilled, rfl⟩
    cases hunfilled with
    | unbound h => rw [Bindings.find?_eq_none_iff.2 h]
    | empty h =>
      rw [Bindings.find?_eq_some_iff.2 h]
      exact if_pos rfl
    | @step value h hstep =>
      rw [Bindings.find?_eq_some_iff.2 h]
      refine (if_neg ?_).trans (if_pos hstep)
      rintro rfl
      simp at hstep

/-! ## Segments -/

/-- What a piece of a template becomes. -/
inductive Becomes (bs : Bindings) : String → String → Prop where
  | identifier {name value : String} (h : bs.First name value) (hne : value ≠ "")
    (hstep : value ≠ "." ∧ value ≠ "..") : Becomes bs (inBraces name) value
  | literal {piece : String} (h : ∀ name, piece ≠ inBraces name) : Becomes bs piece piece

theorem segment_ofText_eq_ok_iff {bs : Bindings} {piece raw : String} :
    (PathPiece.ofText piece).segment bs = .ok raw ↔ Becomes bs piece raw := by
  constructor
  · intro h
    by_cases hname : ∃ name, piece = inBraces name
    · obtain ⟨name, rfl⟩ := hname
      rw [PathPiece.ofText_inBraces] at h
      obtain ⟨hfound, hne, hstep⟩ := identifier_eq_ok_iff.1 h
      exact .identifier (Bindings.find?_eq_some_iff.1 hfound) hne hstep
    · rw [not_exists] at hname
      rw [PathPiece.ofText_of_ne hname] at h
      obtain rfl := Except.ok.inj h
      exact .literal hname
  · intro h
    cases h with
    | identifier h hne hstep =>
      rw [PathPiece.ofText_inBraces]
      exact identifier_eq_ok_iff.2 ⟨Bindings.find?_eq_some_iff.2 h, hne, hstep⟩
    | literal h => rw [PathPiece.ofText_of_ne h, PathPiece.segment]

theorem segment_ofText_eq_error_iff {bs : Bindings} {piece : String} {f : Failure} :
    (PathPiece.ofText piece).segment bs = .error f ↔ ∃ name reason, piece = inBraces name ∧
      Unfilled bs name reason ∧ f = .badParameter name reason := by
  constructor
  · intro h
    by_cases hname : ∃ name, piece = inBraces name
    · obtain ⟨name, rfl⟩ := hname
      rw [PathPiece.ofText_inBraces] at h
      obtain ⟨reason, hreason⟩ := identifier_eq_error_iff.1 h
      exact ⟨name, reason, rfl, hreason⟩
    · rw [PathPiece.ofText_of_ne (not_exists.1 hname)] at h
      contradiction
  · rintro ⟨name, reason, rfl, hreason⟩
    rw [PathPiece.ofText_inBraces]
    exact identifier_eq_error_iff.2 ⟨reason, hreason⟩

/-- A piece has a segment unless it is a name that is not filled. -/
theorem exists_becomes_iff {bs : Bindings} {piece : String} :
    (∃ raw, Becomes bs piece raw) ↔
      ∀ name reason, piece = inBraces name → ¬ Unfilled bs name reason := by
  simp only [← segment_ofText_eq_ok_iff]
  constructor
  · rintro ⟨raw, hraw⟩ name reason hname hunfilled
    rw [segment_ofText_eq_error_iff.2 ⟨name, reason, hname, hunfilled, rfl⟩] at hraw
    contradiction
  · intro h
    cases hsegment : (PathPiece.ofText piece).segment bs with
    | ok raw => exact ⟨raw, rfl⟩
    | error f =>
      obtain ⟨name, reason, hname, hunfilled, -⟩ := segment_ofText_eq_error_iff.1 hsegment
      exact absurd hunfilled (h name reason hname)

variable {template : String} {pieces : List String} {bs : Bindings}

theorem IsCut.expandPath_eq_ok_iff (h : IsCut template pieces) {raws : List String} :
    expandPath template bs = .ok raws ↔
      List.Forall₂ (Becomes bs) (pieces.filter (· ≠ "")) raws := by
  rw [expandPath, h.templatePieces_eq, mapM_eq_ok_iff, List.forall₂_map_left_iff]
  simp only [segment_ofText_eq_ok_iff]

/-- A path fails as the leftmost name that is not filled. -/
theorem IsCut.expandPath_eq_error_iff (h : IsCut template pieces) {f : Failure} :
    expandPath template bs = .error f ↔ ∃ before name after reason,
      pieces.filter (· ≠ "") = before ++ inBraces name :: after ∧
      (∀ name' reason', inBraces name' ∈ before → ¬ Unfilled bs name' reason') ∧
      Unfilled bs name reason ∧ f = .badParameter name reason := by
  rw [expandPath, h.templatePieces_eq, List.mapM_map, mapM_eq_error_iff]
  simp only [Function.comp_def, segment_ofText_eq_ok_iff, segment_ofText_eq_error_iff,
    exists_becomes_iff]
  constructor
  · rintro ⟨before, _, after, hpieces, hbefore, name, reason, rfl, hreason⟩
    exact ⟨before, name, after, reason, hpieces,
      fun name' reason' hmem => hbefore _ hmem name' reason' rfl, hreason⟩
  · rintro ⟨before, name, after, reason, hpieces, hbefore, hreason⟩
    refine ⟨before, _, after, hpieces, ?_, name, reason, rfl, hreason⟩
    rintro _ hmem name' reason' rfl
    exact hbefore name' reason' hmem

/-- A path fails exactly if some name in its template is not filled. -/
theorem IsCut.exists_error_iff (h : IsCut template pieces) :
    (∃ f, expandPath template bs = .error f) ↔
      ∃ name reason, inBraces name ∈ pieces ∧ Unfilled bs name reason := by
  rw [expandPath, h.templatePieces_eq, List.mapM_map, exists_mapM_eq_error_iff]
  simp only [Function.comp_def, segment_ofText_eq_error_iff, List.mem_filter, decide_eq_true_eq]
  constructor
  · rintro ⟨_, ⟨hmem, -⟩, f, name, reason, rfl, hunfilled, -⟩
    exact ⟨name, reason, hmem, hunfilled⟩
  · rintro ⟨name, reason, hmem, hunfilled⟩
    exact ⟨_, ⟨hmem, inBraces_ne_empty name⟩, _, name, reason, rfl, hunfilled, rfl⟩

/-! ## What does not matter -/

/-- The template has the name in braces between two slashes. -/
def NamedIn (template name : String) : Prop :=
  ∃ pieces, IsCut template pieces ∧ inBraces name ∈ pieces

/-- A change of a template and its bindings that does not matter. -/
inductive Idle : String × Bindings → String × Bindings → Prop where
  | slashBefore (template : String) (bs : Bindings) : Idle (template, bs) ("/" ++ template, bs)
  | slashBehind (template : String) (bs : Bindings) : Idle (template, bs) (template ++ "/", bs)
  | slashAgain (front back : String) (bs : Bindings) :
    Idle (front ++ "/" ++ back, bs) (front ++ "//" ++ back, bs)
  | boundAgain {bs : Bindings} {name : String} (h : ∃ b ∈ bs, b.1 = name)
    (template value : String) : Idle (template, bs) (template, bs ++ [(name, value)])
  | unasked {template name : String} (h : ¬ NamedIn template name) (value : String)
    (front back : Bindings) :
    Idle (template, front ++ back) (template, front ++ (name, value) :: back)

theorem namedIn_of_mem {name : String} (h : .placeholder name ∈ templatePieces template) :
    NamedIn template name := by
  have hcut : IsCut template _ := isCut_iff.2 rfl
  rw [hcut.templatePieces_eq] at h
  obtain ⟨piece, hpiece, hname⟩ := List.mem_map.1 h
  refine ⟨_, hcut, ?_⟩
  by_cases hbraces : ∃ name', piece = inBraces name'
  · obtain ⟨name', rfl⟩ := hbraces
    rw [PathPiece.ofText_inBraces, PathPiece.placeholder.injEq] at hname
    exact hname ▸ List.mem_of_mem_filter hpiece
  · rw [PathPiece.ofText_of_ne (not_exists.1 hbraces)] at hname
    contradiction

/-- Only the names in the template are looked up. -/
theorem expandPath_congr {bs' : Bindings}
    (h : ∀ name, NamedIn template name → bs.find? name = bs'.find? name) :
    expandPath template bs = expandPath template bs' := by
  refine mapM_congr fun piece hpiece => ?_
  cases piece with
  | literal t => rfl
  | placeholder name =>
    rw [PathPiece.segment, PathPiece.segment, identifier, identifier,
      h name (namedIn_of_mem hpiece)]

theorem find?_concat_of_bound {name : String} (h : ∃ b ∈ bs, b.1 = name) (value name' : String) :
    Bindings.find? (bs ++ [(name, value)]) name' = bs.find? name' := by
  rw [Bindings.find?, Bindings.find?, List.find?_append]
  by_cases hname : name = name'
  · obtain ⟨b, hb, hbname⟩ := h
    have hfound : (List.find? (fun b => b.1 = name') bs).isSome :=
      List.find?_isSome.2 ⟨b, hb, decide_eq_true (hbname.trans hname)⟩
    rw [Option.or_of_isSome hfound]
  · rw [List.find?_cons_of_neg (by simpa using hname), List.find?_nil, Option.or_none]

theorem find?_insert_of_ne {name name' : String} (h : name ≠ name') (value : String)
    (front back : Bindings) :
    Bindings.find? (front ++ (name, value) :: back) name' =
      Bindings.find? (front ++ back) name' := by
  rw [Bindings.find?, Bindings.find?, List.find?_append, List.find?_append,
    List.find?_cons_of_neg (by simpa using h)]

theorem Idle.expandPath_eq {x y : String × Bindings} (h : Idle x y) :
    expandPath x.1 x.2 = expandPath y.1 y.2 := by
  cases h with
  | slashBefore template bs =>
    have hpieces : templatePieces ("/" ++ template) = templatePieces template := by
      simp [templatePieces, splitAt]
    rw [expandPath, expandPath, hpieces]
  | slashBehind template bs =>
    have hpieces : templatePieces (template ++ "/") = templatePieces template := by
      simp [templatePieces, splitAt_append_cons, splitAt]
    rw [expandPath, expandPath, hpieces]
  | slashAgain front back bs =>
    have hpieces : templatePieces (front ++ "//" ++ back) =
        templatePieces (front ++ "/" ++ back) := by
      simp [templatePieces, splitAt_append_cons, splitAt]
    rw [expandPath, expandPath, hpieces]
  | boundAgain hbound template value =>
    exact expandPath_congr fun name' _ => (find?_concat_of_bound hbound value name').symm
  | unasked hunasked value front back =>
    refine expandPath_congr fun name' hname' => (find?_insert_of_ne ?_ value front back).symm
    rintro rfl
    exact hunasked hname'

theorem expandPath_eq_of_idle {x y : String × Bindings} (h : Relation.EqvGen Idle x y) :
    expandPath x.1 x.2 = expandPath y.1 y.2 := by
  induction h with
  | rel x y h => exact h.expandPath_eq
  | refl => rfl
  | symm _ _ _ ih => exact ih.symm
  | trans _ _ _ _ _ ih ih' => exact ih.trans ih'

/-- Every template is cut in one way, and its path is one raw segment for each piece that is not
empty, in order. There is no path exactly if some name in braces is not filled, and then the failure
names the leftmost of them. Changes that do not matter may lie between two templates with their
bindings in any number and direction. -/
theorem expandPath_fills (template : String) (bs : Bindings) :
    (∃! pieces, IsCut template pieces) ∧
    (∀ pieces, IsCut template pieces →
      (∀ raws, expandPath template bs = .ok raws ↔
        List.Forall₂ (Becomes bs) (pieces.filter (· ≠ "")) raws) ∧
      ((∃ f, expandPath template bs = .error f) ↔
        ∃ name reason, inBraces name ∈ pieces ∧ Unfilled bs name reason) ∧
      ∀ f, expandPath template bs = .error f ↔ ∃ before name after reason,
        pieces.filter (· ≠ "") = before ++ inBraces name :: after ∧
        (∀ name' reason', inBraces name' ∈ before → ¬ Unfilled bs name' reason') ∧
        Unfilled bs name reason ∧ f = .badParameter name reason) ∧
    ∀ template' bs', Relation.EqvGen Idle (template, bs) (template', bs') →
      expandPath template bs = expandPath template' bs' := by
  refine ⟨⟨_, isCut_iff.2 rfl, fun pieces h => isCut_iff.1 h⟩, fun pieces hcut => ?_,
    fun template' bs' h => expandPath_eq_of_idle h⟩
  exact ⟨fun raws => hcut.expandPath_eq_ok_iff, hcut.exists_error_iff,
    fun f => hcut.expandPath_eq_error_iff⟩

/-- A template with a name in braces, a brace that stays open, and empty pieces. -/
def bracedTemplate : String := "/\x7bid\x7d//x/\x7bid"

theorem isCut_bracedTemplate :
    IsCut bracedTemplate ["", inBraces "id", "", "x", "\x7bid"] :=
  isCut_iff.2 (by decide +kernel)

theorem expandPath_fills_braces :
    expandPath bracedTemplate [("id", "a/b"), ("id", "..")] = .ok ["a/b", "x", "\x7bid"] ∧
    expandPath bracedTemplate [("id", ".."), ("id", "a/b")] =
      .error (.badParameter "id" "'..' is not a valid identifier") ∧
    expandPath "\x7bid\x7d//x/\x7bid" [("id", "a/b")] =
      expandPath bracedTemplate [("id", "a/b"), ("id", "..")] := by
  have hopen : ∀ name, "\x7bid" ≠ inBraces name := fun name h => by
    have hlast := congrArg (fun s : String => s.toList.getLast?) h
    simp only [toList_inBraces, ← List.cons_append, List.getLast?_concat] at hlast
    exact absurd hlast (by decide)
  have hword : ∀ name, "x" ≠ inBraces name := fun name h => by
    have hhead := congrArg (fun s : String => s.toList.head?) h
    simp [inBraces] at hhead
  refine ⟨?_, ?_, ?_⟩
  · obtain ⟨-, hcut, -⟩ := expandPath_fills bracedTemplate [("id", "a/b"), ("id", "..")]
    obtain ⟨hok, -, -⟩ := hcut _ isCut_bracedTemplate
    have hfirst : Bindings.First [("id", "a/b"), ("id", "..")] "id" "a/b" :=
      ⟨[], [("id", "..")], rfl, by simp⟩
    exact (hok _).2 (.cons (.identifier hfirst (by decide) (by decide))
      (.cons (.literal hword) (.cons (.literal hopen) .nil)))
  · obtain ⟨-, hcut, -⟩ := expandPath_fills bracedTemplate [("id", ".."), ("id", "a/b")]
    obtain ⟨-, -, herror⟩ := hcut _ isCut_bracedTemplate
    have hfirst : Bindings.First [("id", ".."), ("id", "a/b")] "id" ".." :=
      ⟨[], [("id", "a/b")], rfl, by simp⟩
    exact (herror _).2 ⟨[], "id", ["x", "\x7bid"], _, rfl, by simp, .step hfirst (.inr rfl), rfl⟩
  · obtain ⟨-, -, hidle⟩ := expandPath_fills "\x7bid\x7d//x/\x7bid" [("id", "a/b")]
    refine hidle _ _ (.trans _ (bracedTemplate, [("id", "a/b")]) _ (.rel _ _ ?_) (.rel _ _ ?_))
    · exact .slashBefore _ _
    · exact .boundAgain ⟨("id", "a/b"), by simp, rfl⟩ _ _

end SellerApi
