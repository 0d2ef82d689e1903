import SellerApi.Call.Report
import SellerApi.Proofs.Call.List
import SellerApi.Proofs.Call.Shape

/-! # Calls by their paths

The raw segments of a call tell which endpoint it asks (`Endpoint.ofRaws?`), but for a saved report
with the identifier `saved`, which has the segments of the list of saved reports. Segments are
written so that they can be read again. Therefore two calls under one base have the same path
exactly if they ask the same endpoint, that pair apart (`Endpoint.path_eq_iff`).
-/

namespace SellerApi

open SellerApi.Http SellerApi.Url

theorem map_unescaped?_written {raws : List String} (h : ∀ raw ∈ raws, IsUnbroken raw) :
    (raws.map written).map unescaped? = raws.map some := by
  rw [List.map_map]
  refine List.map_congr_left fun raw hraw => ?_
  rw [Function.comp_apply, unescaped?_written, (h raw hraw).kept_eq, String.ofList_toList]

/-- Segments without tabs and line breaks are written so that no two of them look alike. -/
theorem map_written_injective {raws raws' : List String} (h : ∀ raw ∈ raws, IsUnbroken raw)
    (h' : ∀ raw ∈ raws', IsUnbroken raw) (heq : raws.map written = raws'.map written) :
    raws = raws' := by
  have hread := congrArg (List.map unescaped?) heq
  rw [map_unescaped?_written h, map_unescaped?_written h'] at hread
  exact (List.map_inj_right fun _ _ h => Option.some.inj h).1 hread

namespace Endpoint

/-! ## Endpoints by their raw segments -/

/-- The endpoint with these raw segments. -/
def ofRaws? : List String → Option Endpoint
  | ["adclients"] => some .adClients
  | ["adclients", client, "adunits"] => some (.adUnits client)
  | ["adclients", client, "adunits", unit] => some (.adUnit client unit)
  | ["adclients", client, "adunits", unit, "customchannels"] => some (.unitChannels client unit)
  | ["adclients", client, "customchannels"] => some (.channels client)
  | ["adclients", client, "customchannels", id] => some (.channel client id)
  | ["adclients", client, "customchannels", id, "adunits"] => some (.channelUnits client id)
  | ["adclients", client, "urlchannels"] => some (.urlChannels client)
  | ["reports"] => some .report
  | ["reports", id] => some (if id = "saved" then .savedReports else .savedReport id)
  | _ => none

/-- All raw segments but those of one report tell their endpoint. -/
theorem ofRaws?_raws {e : Endpoint} (h : e ≠ .savedReport "saved") :
    ofRaws? e.raws = some e := by
  cases e with
  | savedReport id =>
    have hid : id ≠ "saved" := fun hid => h (congrArg savedReport hid)
    rw [raws, ofRaws?, if_neg hid]
  | _ => rfl

/-- The list of saved reports, and the saved report whose identifier is the last word of its
path. -/
inductive Coincide : Endpoint → Endpoint → Prop where
  | listFirst : Coincide .savedReports (.savedReport "saved")
  | reportFirst : Coincide (.savedReport "saved") .savedReports

theorem raws_eq_iff {e e' : Endpoint} : e.raws = e'.raws ↔ e = e' ∨ Coincide e e' := by
  constructor
  · intro h
    -- the raw segments are read on both sides, unless one is the report that reads as another
    by_cases he : e = .savedReport "saved"
    · by_cases he' : e' = .savedReport "saved"
      · exact .inl (he.trans he'.symm)
      · have hread := ofRaws?_raws he'
        rw [← h, he] at hread
        cases hread
        exact .inr (he ▸ .reportFirst)
    · have hread := ofRaws?_raws he
      by_cases he' : e' = .savedReport "saved"
      · rw [h, he'] at hread
        cases hread
        exact .inr (he' ▸ .listFirst)
      · rw [h, ofRaws?_raws he'] at hread
        exact .inl (Option.some.inj hread).symm
  · rintro (rfl | h)
    · rfl
    · cases h <;> rfl

/-! ## Requests of calls -/

/-- A request that some call makes of an endpoint, as it is made or as it is sent. -/
inductive Asks : Endpoint → Request → Prop where
  | list {α : Type} (call : ListCall α) (token : Option String) :
    Asks call.listing.endpoint (call.request token)
  | lookup {α : Type} (call : GetCall α) : Asks call.lookup.endpoint call.request
  | report {call : ReportCall} {r : Request} (h : call.request = .ok r) : Asks .report r
  | savedReport {call : SavedReportCall} {r : Request} (h : call.request = .ok r) :
    Asks (.savedReport call.id) r
  | sent {e : Endpoint} {r : Request} (h : Asks e r) (format : Format) (watched : Bool) :
    Asks e { r with format, watched }

theorem apply_template (o : CallOptions) (r : Request) :
    (o.apply r).template = r.template ∧ (o.apply r).bindings = r.bindings := by
  rw [CallOptions.apply, Request.select_eq]
  exact ⟨rfl, rfl⟩

/-- Whatever is set on a call, its path is that of its endpoint. -/
theorem Asks.template_eq {e : Endpoint} {r : Request} (h : e.Asks r) :
    r.template = e.template ∧ r.bindings = e.bindings := by
  induction h with
  | list call token => exact apply_template _ _
  | lookup call => exact apply_template _ _
  | report h =>
    obtain ⟨_, -, h⟩ := bind_eq_ok_iff.1 h
    cases h
    exact apply_template _ _
  | savedReport h =>
    obtain ⟨_, -, h⟩ := bind_eq_ok_iff.1 h
    cases h
    exact apply_template _ _
  | sent _ _ _ ih => exact ih

/-- Identifiers that are taken and that hold neither tabs nor line breaks are names, as the literals
of templates are. -/
theorem isName_of_mem_raws {e : Endpoint} (hids : ∀ b ∈ e.bindings, IsUnbroken b.2)
    {rs : List String} (hexp : expandPath e.template e.bindings = .ok rs) :
    ∀ raw ∈ e.raws, IsUnbroken raw ∧ IsName raw := by
  have hwords : ∀ t ∈ words, IsUnbroken t := by decide +kernel
  obtain rfl := eq_raws_of_expandPath hexp
  intro raw hraw
  rcases of_mem_expandPath hexp hraw with hlit | ⟨name, -, hid⟩
  · rw [templatePieces_template] at hlit
    exact ⟨hwords raw (mem_words_of_literal hlit), (written_of_literal hlit).1⟩
  · obtain ⟨hfind, h0, h1, h2⟩ := identifier_eq_ok_iff.1 hid
    obtain ⟨b, hb, rfl⟩ := mem_of_find? hfind
    exact ⟨hids b hb, (hids b hb).isName h0 h1 h2⟩

/-- The path of a call has the segments of the endpoint behind those of the base. -/
theorem Asks.resolve {base : Url} (hbase : base.IsWeb) {segs : List String}
    (hpath : base.path = .segments segs) {e : Endpoint} {r : Request} (hr : e.Asks r)
    (hids : ∀ b ∈ e.bindings, IsUnbroken b.2) {rs : List String}
    (hexp : expandPath e.template e.bindings = .ok rs) :
    ∃ url, r.resolve base = .ok url ∧
      url.path = .segments (e.raws.foldl (addSegment base.scheme) (dropEmptyEnd segs)) ∧
      pathSegments url.path.toText = rooted (dropEmptyEnd segs) ++ e.raws.map written := by
  obtain ⟨htemplate, hbindings⟩ := hr.template_eq
  have hnames := isName_of_mem_raws hids hexp
  obtain rfl := eq_raws_of_expandPath hexp
  rw [← htemplate, ← hbindings] at hexp
  have hurl := Request.resolve_eq hpath hexp
  refine ⟨_, hurl, rfl, ?_⟩
  rw [Request.pathSegments_resolve hbase hpath hexp hurl,
    foldl_addSegment hbase.scheme fun raw hraw => (hnames raw hraw).2]

/-- Two calls whose identifiers are taken, and hold neither tabs nor line breaks, have the same path
under one base exactly if they ask the same endpoint, or if one asks for the list of saved reports
and the other for the saved report `saved`. -/
theorem path_eq_iff {text : String} {base : Url} (hread : Url.read text = .ok base)
    (hweb : base.scheme = "http" ∨ base.scheme = "https") {e e' : Endpoint} {r r' : Request}
    (hr : e.Asks r) (hr' : e'.Asks r') {rs rs' : List String}
    (hexp : expandPath e.template e.bindings = .ok rs)
    (hexp' : expandPath e'.template e'.bindings = .ok rs')
    (hids : ∀ b ∈ e.bindings, IsUnbroken b.2) (hids' : ∀ b ∈ e'.bindings, IsUnbroken b.2) :
    ∃ url url', r.resolve base = .ok url ∧ r'.resolve base = .ok url' ∧
      (url.path.toText = url'.path.toText ↔ e = e' ∨ Coincide e e') := by
  have hbase := isWeb_of_read hread hweb
  obtain ⟨segs, hpath, -⟩ := hbase.path
  obtain ⟨url, hurl, hraws, hsegs⟩ := hr.resolve hbase hpath hids hexp
  obtain ⟨url', hurl', hraws', hsegs'⟩ := hr'.resolve hbase hpath hids' hexp'
  refine ⟨url, url', hurl, hurl', ?_⟩
  rw [← raws_eq_iff]
  constructor
  · intro h
    -- both paths begin with the segments of the base
    rw [h, hsegs', List.append_cancel_left_eq] at hsegs
    exact map_written_injective (fun raw hraw => (isName_of_mem_raws hids hexp raw hraw).1)
      (fun raw hraw => (isName_of_mem_raws hids' hexp' raw hraw).1) hsegs.symm
  · intro h
    rw [hraws, hraws', h]

/-- Identifiers that are words of templates, slashes and escapes in them, and the one pair of calls
that cannot be told apart. -/
theorem path_eq_iff_words :
    Url.read "http://ads.example/v1/" = .ok shapeBase ∧
    (∃ url url', Request.resolve (GetCall.request ⟨.adUnit "adunits" "a%2Fb/..", {}⟩) shapeBase =
        .ok url ∧
      Request.resolve (ListCall.request ⟨.channelUnits "adunits" "a%2Fb/.." none, {}, {}⟩ none)
        shapeBase = .ok url' ∧ url.path.toText ≠ url'.path.toText) ∧
    ∃ r url url', SavedReportCall.request { id := "saved" } = .ok r ∧
      r.resolve shapeBase = .ok url ∧
      Request.resolve (ListCall.request ⟨.savedReports, {}, {}⟩ none) shapeBase = .ok url' ∧
      url.path.toText = url'.path.toText := by
  have hread : Url.read "http://ads.example/v1/" = .ok shapeBase := by decide +kernel
  refine ⟨hread, ?_, ?_⟩
  · let unit : Endpoint := .adUnit "adunits" "a%2Fb/.."
    let units : Endpoint := .channelUnits "adunits" "a%2Fb/.."
    have hunit : expandPath unit.template unit.bindings = .ok unit.raws := by decide +kernel
    have hunits : expandPath units.template units.bindings = .ok units.raws := by decide +kernel
    obtain ⟨url, url', hurl, hurl', hiff⟩ := path_eq_iff hread (.inl rfl)
      (.lookup ⟨.adUnit "adunits" "a%2Fb/..", {}⟩)
      (.list ⟨.channelUnits "adunits" "a%2Fb/.." none, {}, {}⟩ none) hunit hunits
      (by decide +kernel) (by decide +kernel)
    refine ⟨url, url', hurl, hurl', fun h => ?_⟩
    rcases hiff.1 h with h | h
    · cases h
    · cases h
  · have hsaved : SavedReportCall.request { id := "saved" } =
        .ok (CallOptions.apply {} (Endpoint.savedReport "saved").request) := rfl
    have hreport : expandPath (savedReport "saved").template (savedReport "saved").bindings =
        .ok ["reports", "saved"] := by decide +kernel
    have hreports : expandPath savedReports.template savedReports.bindings =
        .ok ["reports", "saved"] := by decide +kernel
    obtain ⟨url, url', hurl, hurl', hiff⟩ := path_eq_iff hread (.inl rfl) (.savedReport hsaved)
      (.list ⟨.savedReports, {}, {}⟩ none) hreport hreports (by decide +kernel) (by decide +kernel)
    exact ⟨_, url, url', hsaved, hurl, hurl', hiff.2 (.inr .reportFirst)⟩

end Endpoint
end SellerApi
