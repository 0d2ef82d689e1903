import SellerApi.Proofs.Outcome
import SellerApi.Proofs.Url.Form
import SellerApi.Proofs.Url.Reading
import SellerApi.Request.Basic

/-! # What a resolved request says

A request that was resolved can be read back from its URL: the segments of the path decode to the
raw segments behind those of the base, and the query to the pairs of the request behind those of
the base (`Request.resolve_reads_back`). -/

namespace SellerApi

open SellerApi.Text SellerApi.Http SellerApi.Url

/-- A text without tabs and line breaks. -/
def IsUnbroken (s : String) : Prop := ∀ c ∈ s.toList, isDropped c = false

/-- A text that names itself as a literal segment of a path. -/
def IsPlainName (s : String) : Prop := s ≠ "." ∧ s ≠ ".." ∧ IsUnbroken s

instance (s : String) : Decidable (IsUnbroken s) :=
  List.decidableBAll (fun c => isDropped c = false) s.toList

instance (s : String) : Decidable (IsPlainName s) := inferInstanceAs (Decidable (_ ∧ _ ∧ _))

theorem IsUnbroken.kept_eq {s : String} (h : IsUnbroken s) : kept s = s.toList := kept_of_forall h

theorem IsUnbroken.isName {s : String} (h : IsUnbroken s) (h0 : s ≠ "") (h1 : s ≠ ".")
    (h2 : s ≠ "..") : IsName s := by
  refine ⟨?_, ?_, ?_⟩ <;> rw [h.kept_eq]
  · exact fun he => h0 (String.toList_eq_nil_iff.1 he)
  · exact fun he => h1 (String.toList_injective he)
  · exact fun he => h2 (String.toList_injective he)

/-! ## Raw segments -/

/-- An identifier that was taken is bound to its name, and is neither empty nor a step. -/
theorem identifier_eq_ok_iff {bs : Bindings} {name value : String} :
    identifier bs name = .ok value ↔
      bs.find? name = some value ∧ value ≠ "" ∧ value ≠ "." ∧ value ≠ ".." := by
  unfold identifier
  cases bs.find? name with
  | none => simp
  | some v =>
    dsimp only
    constructor
    · intro h
      split at h
      · cases h
      split at h
      · cases h
      next h0 hstep =>
      rw [not_or] at hstep
      cases h
      exact ⟨rfl, h0, hstep⟩
    · rintro ⟨hv, h0, h1, h2⟩
      cases hv
      rw [if_neg h0, if_neg (by simp [h1, h2])]

theorem literal_ne_empty {template t : String} (h : .literal t ∈ templatePieces template) :
    t ≠ "" := by
  obtain ⟨cs, hcs, hpiece⟩ := List.mem_map.1 h
  have hne : cs ≠ [] := by simpa using (List.mem_filter.1 hcs).2
  unfold PathPiece.ofChars at hpiece
  rintro rfl
  split at hpiece
  · split at hpiece <;> simp at hpiece
  · simp [hne] at hpiece

/-- Every raw segment stands for one piece of the template. -/
theorem forall₂_of_expandPath {template : String} {bs : Bindings} {raws : List String}
    (h : expandPath template bs = .ok raws) :
    List.Forall₂ (fun piece raw => piece.segment bs = .ok raw) (templatePieces template) raws :=
  mapM_eq_ok_iff.1 h

/-- A raw segment is a literal of the template or an identifier that was taken. -/
theorem of_mem_expandPath {template : String} {bs : Bindings} {raws : List String}
    (h : expandPath template bs = .ok raws) {raw : String} (hraw : raw ∈ raws) :
    .literal raw ∈ templatePieces template ∨
      ∃ name, .placeholder name ∈ templatePieces template ∧ identifier bs name = .ok raw := by
  obtain ⟨i, hi, rfl⟩ := List.mem_iff_getElem.1 hraw
  have hall := forall₂_of_expandPath h
  have hi' : i < (templatePieces template).length := by rwa [hall.length_eq]
  have hseg := hall.get hi' hi
  have hmem := List.get_mem (templatePieces template) ⟨i, hi'⟩
  cases hp : (templatePieces template).get ⟨i, hi'⟩ with
  | literal t =>
    rw [hp] at hseg hmem
    cases hseg
    exact .inl hmem
  | placeholder name =>
    rw [hp] at hseg hmem
    exact .inr ⟨name, hmem, hseg⟩

/-! ## URLs -/

namespace Request

/-- The URL of a request, part by part. -/
theorem resolve_eq {base : Url} {segs : List String} (hpath : base.path = .segments segs)
    {r : Request} {raws : List String} (hexp : expandPath r.template r.bindings = .ok raws) :
    r.resolve base = .ok
      (({ base with path := .segments (raws.foldl (addSegment base.scheme) (dropEmptyEnd segs)) } :
        Url).appendPairs r.pairs) := by
  rw [resolve, hexp]
  simp only [extendPath?, hpath, bind, Except.bind]
  rfl

/-- The segments of a resolved URL as they are written. -/
theorem pathSegments_resolve {base : Url} (hbase : base.IsWeb) {segs : List String}
    (hpath : base.path = .segments segs) {r : Request} {raws : List String}
    (hexp : expandPath r.template r.bindings = .ok raws) {url : Url}
    (hurl : r.resolve base = .ok url) :
    pathSegments url.path.toText =
      rooted (raws.foldl (addSegment base.scheme) (dropEmptyEnd segs)) := by
  obtain ⟨segs', hpath', hdiv⟩ := hbase.path
  obtain rfl : segs = segs' := by simpa [hpath] using hpath'
  rw [resolve_eq hpath hexp, Except.ok.injEq] at hurl
  subst hurl
  exact pathSegments_toText
    (divided_foldl_addSegment hbase.scheme (divided_dropEmptyEnd hdiv) raws)

/-- The segments of the base that stay, as they are written. -/
theorem rooted_dropEmptyEnd_of_isWeb {base : Url} (hbase : base.IsWeb)
    (hempty : "" ∉ (pathSegments base.path.toText).dropLast) {segs : List String}
    (hpath : base.path = .segments segs) :
    rooted (dropEmptyEnd segs) = withoutEmptyEnd (pathSegments base.path.toText) := by
  obtain ⟨segs', hpath', hdiv⟩ := hbase.path
  obtain rfl : segs = segs' := by simpa [hpath] using hpath'
  rw [hpath, pathSegments_toText hdiv] at hempty ⊢
  exact rooted_dropEmptyEnd hempty

/-- A request whose literal segments are plain names, and whose identifiers hold neither tabs nor
line breaks, is resolved to a URL from which the raw segments and the pairs can be read again. -/
theorem resolve_reads_back {text : String} {base : Url} (hread : Url.read text = .ok base)
    (hweb : base.scheme = "http" ∨ base.scheme = "https")
    (hempty : "" ∉ (pathSegments base.path.toText).dropLast) {r : Request}
    (hplain : ∀ t, .literal t ∈ templatePieces r.template → IsPlainName t)
    (hids : ∀ name value, .placeholder name ∈ templatePieces r.template →
      r.bindings.find? name = some value → IsUnbroken value)
    {raws : List String} (hexp : expandPath r.template r.bindings = .ok raws) :
    ∃ url segs, r.resolve base = .ok url ∧
      url.scheme = base.scheme ∧ url.authority = base.authority ∧ url.fragment = base.fragment ∧
      pathSegments url.path.toText = withoutEmptyEnd (pathSegments base.path.toText) ++ segs ∧
      segs.map unescaped? = raws.map some ∧
      url.queryPairs = base.queryPairs ++ ("alt", r.format.word) :: r.query.pairs := by
  have hbase := isWeb_of_read hread hweb
  obtain ⟨segs, hpath, -⟩ := hbase.path
  have hraws : ∀ raw ∈ raws, IsUnbroken raw ∧ IsName raw := by
    intro raw hraw
    rcases of_mem_expandPath hexp hraw with hlit | ⟨name, hname, hid⟩
    · obtain ⟨h1, h2, hun⟩ := hplain raw hlit
      exact ⟨hun, hun.isName (literal_ne_empty hlit) h1 h2⟩
    · obtain ⟨hfind, h0, h1, h2⟩ := identifier_eq_ok_iff.1 hid
      have hun := hids name raw hname hfind
      exact ⟨hun, hun.isName h0 h1 h2⟩
  refine ⟨_, raws.map written, resolve_eq hpath hexp, rfl, rfl, rfl, ?_, ?_, ?_⟩
  · rw [pathSegments_resolve hbase hpath hexp (resolve_eq hpath hexp),
      foldl_addSegment hbase.scheme (fun raw hraw => (hraws raw hraw).2),
      rooted_dropEmptyEnd_of_isWeb hbase hempty hpath]
  · rw [List.map_map]
    refine List.map_congr_left fun raw hraw => ?_
    rw [Function.comp_apply, unescaped?_written, (hraws raw hraw).1.kept_eq, String.ofList_toList]
  · exact queryPairs_appendPairs _ r.pairs

/-- A base with a path, a query and a fragment of its own. -/
def sampleBase : Url :=
  { scheme := "https", authority := some { host := .name "ads.example" },
    path := .segments ["api", "v1", ""], query := some "a=b+c&&d=%26", fragment := some "top" }

/-- A request with an identifier and pairs that all need encoding. -/
def sampleRequest : Request :=
  { method := "adunits.list", template := "adclients/\x7badClientId\x7d/adunits",
    bindings := [("adClientId", "a/b ..%2e?ü")],
    query := ⟨[("q&", "1+1=2 %"), ("q&", ""), ("", "#\n")]⟩, format := .media }

theorem resolve_reads_back_sample :
    Url.read "https://ads.example/api/v1/?a=b+c&&d=%26#top" = .ok sampleBase ∧
      ∃ url segs, sampleRequest.resolve sampleBase = .ok url ∧
        url.scheme = sampleBase.scheme ∧ url.authority = sampleBase.authority ∧
        url.fragment = sampleBase.fragment ∧
        pathSegments url.path.toText =
          withoutEmptyEnd (pathSegments sampleBase.path.toText) ++ segs ∧
        segs.map unescaped? = ["adclients", "a/b ..%2e?ü", "adunits"].map some ∧
        url.queryPairs = sampleBase.queryPairs ++
          ("alt", sampleRequest.format.word) :: sampleRequest.query.pairs := by
  have hread : Url.read "https://ads.example/api/v1/?a=b+c&&d=%26#top" = .ok sampleBase := by
    decide +kernel
  have hpieces : templatePieces sampleRequest.template =
      [.literal "adclients", .placeholder "adClientId", .literal "adunits"] := by decide +kernel
  refine ⟨hread, resolve_reads_back hread (.inr rfl) (by decide +kernel) ?_ ?_
    (by decide +kernel)⟩
  · intro t ht
    simp only [hpieces, List.mem_cons, PathPiece.literal.injEq, reduceCtorEq, List.not_mem_nil,
      or_false, false_or] at ht
    rcases ht with rfl | rfl <;> decide +kernel
  · intro name value hname hvalue
    obtain rfl : name = "adClientId" := by simpa [hpieces] using hname
    obtain rfl : "a/b ..%2e?ü" = value := by
      simpa [sampleRequest, Bindings.find?] using hvalue
    decide +kernel

end Request
end SellerApi
