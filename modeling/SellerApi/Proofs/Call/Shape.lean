import SellerApi.Proofs.Call.Endpoint

/-! # The shape of an endpoint's path

A path has the shape of a template when it has one segment per piece behind the segments of the
base, none of them empty and the literals unchanged: `KeepsShape`. What breaks the shape is an
identifier that is no name any more once tabs and line breaks are dropped from it, and nothing else
(`Endpoint.keepsShape_resolve_iff`). A segment that was lost is never made up for, as no raw segment
adds more than one: `Misshapen` is kept by every later step. -/

namespace SellerApi

open SellerApi.Url

namespace Url

/-- Segments that are not those of `front` and then `n` names: they are too few, or an empty one is
among the last `n`. -/
def Misshapen (front : List String) (n : Nat) (segs : List String) : Prop :=
  (rooted segs).length < front.length + n ∨
    ∃ new, rooted segs = front ++ new ∧ new.length = n ∧ "" ∈ new

theorem length_rooted_le (segs : List String) : (rooted segs).length ≤ segs.length := by
  unfold rooted
  split <;> simp

theorem parentOf_cases (segs : List String) :
    parentOf segs = segs ∨ parentOf segs = segs.dropLast := by
  unfold parentOf
  split
  · split
    · exact .inl rfl
    · exact .inr rfl
  · next h => exact .inr (by simp [List.getLast?_eq_none_iff.1 h])

theorem length_parentOf_le (segs : List String) : (parentOf segs).length ≤ segs.length := by
  rcases parentOf_cases segs with h | h <;> simp [h]

theorem misshapen_append_empty {front new segs : List String} (h : segs = front ++ new) :
    Misshapen front (new.length + 1) (segs ++ [""]) := by
  by_cases hnil : segs = []
  · subst hnil
    refine .inl ?_
    simp only [List.nil_append, rooted, if_true, List.length_nil]
    omega
  · refine .inr ⟨new ++ [""], ?_, by simp, by simp⟩
    rw [rooted, if_neg (by simp [hnil]), h, List.append_assoc]

theorem misshapen_parentOf_append_empty {front new segs : List String} (h : segs = front ++ new) :
    Misshapen front (new.length + 1) (parentOf segs ++ [""]) := by
  rcases parentOf_cases segs with hp | hp
  · rw [hp]
    exact misshapen_append_empty h
  · rw [hp]
    refine .inl ?_
    have hlen := congrArg List.length h
    rw [List.length_append] at hlen
    by_cases hnil : segs = []
    · subst hnil
      simp only [List.dropLast_nil, List.nil_append, rooted, if_true, List.length_nil]
      omega
    · have hpos := List.length_pos_of_ne_nil hnil
      have := length_rooted_le (segs.dropLast ++ [""])
      simp only [List.length_append, List.length_dropLast, List.length_singleton] at this
      omega

theorem Misshapen.empty_mem {front segs new : List String} {n : Nat} (h : Misshapen front n segs)
    (hsegs : rooted segs = front ++ new) (hlen : new.length = n) : "" ∈ new := by
  rcases h with h | ⟨new', hsegs', -, hmem⟩
  · rw [hsegs, List.length_append] at h
    omega
  · rw [hsegs, List.append_cancel_left_eq] at hsegs'
    exact hsegs' ▸ hmem

section

variable {scheme : String} (hweb : scheme = "http" ∨ scheme = "https")
include hweb

/-- A raw segment adds one segment at most. -/
theorem length_addSegment_le (segs : List String) (raw : String) :
    (rooted (addSegment scheme segs raw)).length ≤ (rooted segs).length + 1 := by
  by_cases hstep : raw = "." ∨ raw = ".."
  · rw [addSegment, if_pos hstep]
    omega
  rw [not_or] at hstep
  refine Nat.le_trans (length_rooted_le _) ?_
  rw [addSegment_eq hweb hstep.1 hstep.2, pushSegment]
  split
  · simpa using length_parentOf_le (rooted segs)
  · split <;> simp

/-- A raw segment that is no name breaks the shape. -/
theorem misshapen_addSegment {front new segs : List String} (h : rooted segs = front ++ new)
    {raw : String} (hstep : raw ≠ "." ∧ raw ≠ "..") (hraw : ¬IsName raw) :
    Misshapen front (new.length + 1) (addSegment scheme segs raw) := by
  by_cases hdouble : kept raw = ['.', '.']
  · rw [addSegment_of_doubleDot hweb hstep.2 hdouble]
    exact misshapen_parentOf_append_empty h
  · have hdot : kept raw = [] ∨ kept raw = ['.'] := by
      by_contra hc
      rw [not_or] at hc
      exact hraw ⟨hc.1, hc.2, hdouble⟩
    rw [addSegment_of_dot hweb hstep.1 hdot]
    exact misshapen_append_empty h

/-- A broken shape stays broken. -/
theorem Misshapen.addSegment {front segs : List String} {n : Nat} (h : Misshapen front n segs)
    {raw : String} (hstep : raw ≠ "." ∧ raw ≠ "..") :
    Misshapen front (n + 1) (addSegment scheme segs raw) := by
  rcases h with h | ⟨new, hsegs, rfl, hmem⟩
  · have := length_addSegment_le hweb segs raw
    exact .inl (by omega)
  by_cases hraw : IsName raw
  · refine .inr ⟨new ++ [written raw], ?_, by simp, List.mem_append_left _ hmem⟩
    rw [addSegment_of_isName hweb hraw, rooted_append_of_ne (written_ne_empty hraw.1), hsegs,
      List.append_assoc]
  · exact misshapen_addSegment hweb hsegs hstep hraw

theorem Misshapen.foldl {front segs : List String} {n : Nat} (h : Misshapen front n segs)
    {raws : List String} (hstep : ∀ raw ∈ raws, raw ≠ "." ∧ raw ≠ "..") :
    Misshapen front (n + raws.length) (raws.foldl (Url.addSegment scheme) segs) := by
  induction raws generalizing segs n with
  | nil => exact h
  | cons raw raws ih =>
    obtain ⟨hraw, hraws⟩ := List.forall_mem_cons.1 hstep
    rw [List.length_cons, Nat.add_comm raws.length, ← Nat.add_assoc]
    exact ih (h.addSegment hweb hraw) hraws

/-- One raw segment that is no name breaks the shape of the whole path. -/
theorem misshapen_foldl {front new segs : List String} (h : rooted segs = front ++ new)
    {raws : List String} (hstep : ∀ raw ∈ raws, raw ≠ "." ∧ raw ≠ "..")
    (hraw : ∃ raw ∈ raws, ¬IsName raw) :
    Misshapen front (new.length + raws.length) (raws.foldl (Url.addSegment scheme) segs) := by
  induction raws generalizing segs new with
  | nil => simp at hraw
  | cons raw raws ih =>
    obtain ⟨hstep, hsteps⟩ := List.forall_mem_cons.1 hstep
    rw [List.length_cons, Nat.add_comm raws.length, ← Nat.add_assoc]
    by_cases hname : IsName raw
    · have hraws : ∃ raw ∈ raws, ¬IsName raw := by simpa [hname] using hraw
      have hsegs : rooted (Url.addSegment scheme segs raw) = front ++ (new ++ [written raw]) := by
        rw [addSegment_of_isName hweb hname, rooted_append_of_ne (written_ne_empty hname.1), h,
          List.append_assoc]
      simpa using ih hsegs hsteps hraws
    · exact (misshapen_addSegment hweb h hstep hname).foldl hweb hsteps

end

end Url

/-! ## Endpoints -/

/-- A segment that fits a piece of a template: not empty, and the literal itself for a literal. -/
def PathPiece.Fits (piece : PathPiece) (seg : String) : Prop :=
  seg ≠ "" ∧ ∀ t, piece = .literal t → seg = t

/-- The path has the segments of the base, without an empty one at their end, and then one for
each piece of the template. -/
def KeepsShape (base url : Url) (pieces : List PathPiece) : Prop :=
  ∃ segs, pathSegments url.path.toText = withoutEmptyEnd (pathSegments base.path.toText) ++ segs ∧
    List.Forall₂ PathPiece.Fits pieces segs

namespace Endpoint

theorem fits_of_segment {e : Endpoint} {piece : PathPiece} (hpiece : piece ∈ e.pieces)
    {raw : String} (hseg : piece.segment e.bindings = .ok raw) (hraw : IsName raw) :
    piece.Fits (written raw) := by
  refine ⟨written_ne_empty hraw.1, ?_⟩
  rintro t rfl
  cases hseg
  exact (written_of_literal hpiece).2

theorem mem_raws_of_mem_bindings {e : Endpoint} : ∀ b ∈ e.bindings, b.2 ∈ e.raws := by
  cases e <;> simp [bindings, raws]

theorem mem_of_find? {bs : Bindings} {name value : String} (h : bs.find? name = some value) :
    ∃ b ∈ bs, b.2 = value := by
  obtain ⟨b, hb, rfl⟩ := Option.map_eq_some_iff.1 h
  exact ⟨b, List.mem_of_find?_eq_some hb, rfl⟩

/-- A raw segment of an endpoint is no step, and it is a name if all identifiers are. -/
theorem of_mem_expandPath_template {e : Endpoint} {rs : List String}
    (h : expandPath e.template e.bindings = .ok rs) {raw : String} (hraw : raw ∈ rs) :
    (raw ≠ "." ∧ raw ≠ "..") ∧ ((∀ b ∈ e.bindings, IsName b.2) → IsName raw) := by
  rcases of_mem_expandPath h hraw with hlit | ⟨name, -, hid⟩
  · rw [templatePieces_template] at hlit
    have hname := (written_of_literal hlit).1
    refine ⟨⟨?_, ?_⟩, fun _ => hname⟩
    · rintro rfl
      exact hname.2.1 rfl
    · rintro rfl
      exact hname.2.2 rfl
  · obtain ⟨hfind, -, hstep⟩ := identifier_eq_ok_iff.1 hid
    obtain ⟨b, hb, rfl⟩ := mem_of_find? hfind
    exact ⟨hstep, fun hall => hall b hb⟩

/-- A resolved request has the shape of its endpoint's template exactly if every identifier is still
a name once tabs and line breaks are dropped from it. -/
theorem keepsShape_resolve_iff {text : String} {base : Url} (hread : Url.read text = .ok base)
    (hweb : base.scheme = "http" ∨ base.scheme = "https")
    (hempty : "" ∉ (pathSegments base.path.toText).dropLast) {e : Endpoint} {r : Request}
    (htemplate : r.template = e.template) (hbindings : r.bindings = e.bindings)
    {rs : List String} (hexp : expandPath e.template e.bindings = .ok rs) :
    ∃ url, r.resolve base = .ok url ∧
      (KeepsShape base url (templatePieces e.template) ↔ ∀ b ∈ e.bindings, IsName b.2) := by
  have hbase := isWeb_of_read hread hweb
  obtain ⟨segs, hpath, -⟩ := hbase.path
  have hexp' : expandPath r.template r.bindings = .ok rs := by rw [htemplate, hbindings, hexp]
  have hurl := Request.resolve_eq hpath hexp'
  have hsegs := Request.pathSegments_resolve hbase hpath hexp' hurl
  have hfront := Request.rooted_dropEmptyEnd_of_isWeb hbase hempty hpath
  refine ⟨_, hurl, ?_, ?_⟩
  · rintro ⟨new, hnew, hfits⟩ b hb
    by_contra hbad
    have hmem : b.2 ∈ rs := eq_raws_of_expandPath hexp ▸ mem_raws_of_mem_bindings b hb
    have hstart : rooted (dropEmptyEnd segs) = rooted (dropEmptyEnd segs) ++ [] :=
      (List.append_nil _).symm
    have hmis := misshapen_foldl hbase.scheme hstart
      (fun raw hraw => (of_mem_expandPath_template hexp hraw).1) ⟨b.2, hmem, hbad⟩
    rw [List.length_nil, Nat.zero_add] at hmis
    have hlen : new.length = rs.length := by
      rw [← hfits.length_eq, (forall₂_of_expandPath hexp).length_eq]
    have hne : ∀ seg ∈ new, seg ≠ "" := ((List.forall₂_and_left _ _).1 hfits.flip).1
    exact hne "" (hmis.empty_mem (hsegs.symm.trans (hfront ▸ hnew)) hlen) rfl
  · intro hall
    have hnames : ∀ raw ∈ rs, IsName raw := fun raw hraw =>
      (of_mem_expandPath_template hexp hraw).2 hall
    refine ⟨rs.map written, ?_, ?_⟩
    · rw [hsegs, foldl_addSegment hbase.scheme hnames, hfront]
    · have hpieces := forall₂_of_expandPath hexp
      refine List.forall₂_map_right_iff.2
        (List.forall₂_iff_zip.2 ⟨hpieces.length_eq, fun hzip => ?_⟩)
      obtain ⟨hpiece, hraw⟩ := List.of_mem_zip hzip
      rw [templatePieces_template] at hpiece
      exact fits_of_segment hpiece (List.forall₂_zip hpieces hzip) (hnames _ hraw)

def shapeBase : Url :=
  { scheme := "http", authority := some { host := .name "ads.example" },
    path := .segments ["v1", ""] }

/-- Slashes, steps and line breaks inside an identifier do no harm. -/
theorem keepsShape_resolve_iff_sample :
    let e := Endpoint.unitChannels "../a" "b\t..\n/"
    Url.read "http://ads.example/v1/" = .ok shapeBase ∧
      ∃ url, e.request.resolve shapeBase = .ok url ∧
        (KeepsShape shapeBase url (templatePieces e.template) ↔ ∀ b ∈ e.bindings, IsName b.2) ∧
        KeepsShape shapeBase url (templatePieces e.template) := by
  intro e
  have hread : Url.read "http://ads.example/v1/" = .ok shapeBase := by decide +kernel
  have hexp : expandPath e.template e.bindings =
      .ok ["adclients", "../a", "adunits", "b\t..\n/", "customchannels"] := by decide +kernel
  obtain ⟨url, hurl, hiff⟩ :=
    keepsShape_resolve_iff hread (.inl rfl) (by decide +kernel) (r := e.request) rfl rfl hexp
  exact ⟨hread, url, hurl, hiff, hiff.2 (by decide +kernel)⟩

/-- Two dots with a tab between them pass as an identifier, and then take a segment away. -/
theorem not_keepsShape_tabbed_dots :
    let e := Endpoint.adUnits ".\t."
    Url.read "http://ads.example/v1/" = .ok shapeBase ∧
      expandPath e.template e.bindings = .ok ["adclients", ".\t.", "adunits"] ∧
      ∃ url, e.request.resolve shapeBase = .ok url ∧ url.path.toText = "/v1//adunits" ∧
        ¬KeepsShape shapeBase url (templatePieces e.template) := by
  intro e
  refine ⟨by decide +kernel, by decide +kernel,
    { shapeBase with path := .segments ["v1", "", "adunits"], query := some "alt=json" },
    by decide +kernel, by decide +kernel, ?_⟩
  rintro ⟨segs, hpath, hfits⟩
  have hsegs : ["v1", "", "adunits"] = "v1" :: segs := by
    rw [show (["v1", "", "adunits"] : List String) = pathSegments "/v1//adunits" by decide +kernel,
      show "v1" :: segs = withoutEmptyEnd (pathSegments "/v1/") ++ segs by
        rw [show withoutEmptyEnd (pathSegments "/v1/") = ["v1"] by decide +kernel]; rfl]
    exact hpath
  have hlen : (templatePieces e.template).length = 3 := by decide +kernel
  rw [hfits.length_eq, ← (List.cons.inj hsegs).2] at hlen
  contradiction

end Endpoint
end SellerApi
