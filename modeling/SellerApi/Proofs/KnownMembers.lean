import SellerApi.Proofs.DataType
import SellerApi.Proofs.Json.Edit

/-! # The members that each type of data knows

Each type of data has a shape, and its reader respects it. So what octets decode to depends only on
the members that the type knows at each place, at every level (`DataType.decode_eq_of_edits`).
-/

namespace SellerApi

open SellerApi.Http SellerApi.Json SellerApi.Resource SellerApi.Text

/-! ## Resources -/

namespace Resource

def AdClient.shape : Shape :=
  .record [("kind", .plain), ("id", .plain), ("arcOptIn", .plain), ("productCode", .plain),
    ("supportsReporting", .plain)]

theorem AdClient.respects : Respects AdClient.shape AdClient.ofNode? := by
  refine respects_record (by decide) ?_
  rintro _ _ (_ | ⟨hkind, _ | ⟨hid, _ | ⟨harc, _ | ⟨hcode, _ | ⟨hreporting, _ | _⟩⟩⟩⟩⟩)
  dsimp only
  rw [hkind.optional_eq (respects_text _), hid.optional_eq (respects_text _),
    harc.optional_eq (respects_bool _), hcode.optional_eq (respects_text _),
    hreporting.optional_eq (respects_bool _)]

def AdUnit.shape : Shape :=
  .record [("kind", .plain), ("id", .plain), ("code", .plain), ("name", .plain),
    ("status", .plain)]

theorem AdUnit.respects : Respects AdUnit.shape AdUnit.ofNode? := by
  refine respects_record (by decide) ?_
  rintro _ _ (_ | ⟨hkind, _ | ⟨hid, _ | ⟨hcode, _ | ⟨hname, _ | ⟨hstatus, _ | _⟩⟩⟩⟩⟩)
  dsimp only
  have hactivity : Respects .plain Activity.ofNode? := (respects_text _).map Activity.ofWord
  rw [hkind.optional_eq (respects_text _), hid.optional_eq (respects_text _),
    hcode.optional_eq (respects_text _), hname.optional_eq (respects_text _),
    hstatus.optional_eq hactivity]

def Targeting.shape : Shape :=
  .record [("adsAppearOn", .plain), ("description", .plain), ("location", .plain),
    ("siteLanguage", .plain)]

theorem Targeting.respects : Respects Targeting.shape Targeting.ofNode? := by
  refine respects_record (by decide) ?_
  rintro _ _ (_ | ⟨hads, _ | ⟨hdescription, _ | ⟨hlocation, _ | ⟨hlanguage, _ | _⟩⟩⟩⟩)
  dsimp only
  rw [hads.optional_eq (respects_text _), hdescription.optional_eq (respects_text _),
    hlocation.optional_eq (respects_text _), hlanguage.optional_eq (respects_text _)]

def CustomChannel.shape : Shape :=
  .record [("kind", .plain), ("id", .plain), ("code", .plain), ("name", .plain),
    ("targetingInfo", Targeting.shape)]

theorem CustomChannel.respects : Respects CustomChannel.shape CustomChannel.ofNode? := by
  refine respects_record (by decide) ?_
  rintro _ _ (_ | ⟨hkind, _ | ⟨hid, _ | ⟨hcode, _ | ⟨hname, _ | ⟨htargeting, _ | _⟩⟩⟩⟩⟩)
  dsimp only
  rw [hkind.optional_eq (respects_text _), hid.optional_eq (respects_text _),
    hcode.optional_eq (respects_text _), hname.optional_eq (respects_text _),
    htargeting.optional_eq Targeting.respects]

def UrlChannel.shape : Shape := .record [("kind", .plain), ("id", .plain), ("urlPattern", .plain)]

theorem UrlChannel.respects : Respects UrlChannel.shape UrlChannel.ofNode? := by
  refine respects_record (by decide) ?_
  rintro _ _ (_ | ⟨hkind, _ | ⟨hid, _ | ⟨hpattern, _ | _⟩⟩⟩)
  dsimp only
  rw [hkind.optional_eq (respects_text _), hid.optional_eq (respects_text _),
    hpattern.optional_eq (respects_text _)]

def SavedReport.shape : Shape := .record [("kind", .plain), ("id", .plain), ("name", .plain)]

theorem SavedReport.respects : Respects SavedReport.shape SavedReport.ofNode? := by
  refine respects_record (by decide) ?_
  rintro _ _ (_ | ⟨hkind, _ | ⟨hid, _ | ⟨hname, _ | _⟩⟩⟩)
  dsimp only
  rw [hkind.optional_eq (respects_text _), hid.optional_eq (respects_text _),
    hname.optional_eq (respects_text _)]

/-- A page whose items have a shape. -/
def pageShape (item : Shape) : Shape :=
  .record [("kind", .plain), ("etag", .plain), ("items", .list item), ("nextPageToken", .plain)]

theorem Page.respects {α : Type} [Wire α] {item : Shape}
    (h : Respects item (Wire.ofNode? (α := α))) :
    Respects (pageShape item) (Page.ofNode? (α := α)) := by
  have hnodup : ["kind", "etag", "items", "nextPageToken"].Nodup := by decide
  refine respects_record hnodup ?_
  rintro _ _ (_ | ⟨hkind, _ | ⟨hetag, _ | ⟨hitems, _ | ⟨htoken, _ | _⟩⟩⟩⟩)
  dsimp only
  rw [hkind.optional_eq (respects_text _), hetag.optional_eq (respects_text _),
    hitems.orElse_eq (respects_list h), htoken.optional_eq (respects_text _)]

end Resource

/-! ## Reports -/

def Column.shape : Shape := .record [("name", .plain), ("type", .plain), ("currency", .plain)]

theorem Column.respects : Respects Column.shape Column.ofNode? := by
  refine respects_record (by decide) ?_
  rintro _ _ (_ | ⟨hname, _ | ⟨hrole, _ | ⟨hcurrency, _ | _⟩⟩⟩)
  dsimp only
  have hword : Respects .plain Role.ofNode? := (respects_text _).map Role.ofWord
  rw [hname.orElse_eq (respects_text _), hrole.orElse_eq hword,
    hcurrency.optional_eq (respects_text _)]

theorem countOfNode?_eq_of_slot {s : Shape} {x x' : Option Node} (h : Slot s x x') :
    countOfNode? x = countOfNode? x' := by
  cases h with
  | same => rfl
  | edited h => cases h <;> rfl

def Report.shape : Shape :=
  .record [("kind", .plain), ("headers", .list Column.shape), ("rows", .list (.list .plain)),
    ("averages", .list .plain), ("totals", .list .plain), ("totalMatchedRows", .plain),
    ("warnings", .list .plain)]

theorem Report.respects : Respects Report.shape Report.ofNode? := by
  refine respects_record (by decide) ?_
  rintro _ _ (_ | ⟨hkind, _ | ⟨hcolumns, _ | ⟨hrows, _ | ⟨haverages, _ | ⟨htotals,
    _ | ⟨hmatched, _ | ⟨hwarnings, _ | _⟩⟩⟩⟩⟩⟩⟩)
  dsimp only
  have htexts : Respects (.list .plain) (Node.list? Node.text?) := respects_list (respects_text _)
  rw [hkind.optional_eq (respects_text _), hcolumns.orElse_eq (respects_list Column.respects),
    hrows.orElse_eq (respects_list htexts), haverages.orElse_eq htexts, htotals.orElse_eq htexts,
    countOfNode?_eq_of_slot hmatched, hwarnings.orElse_eq htexts]

/-! ## Refusals -/

namespace Http

def Complaint.shape : Shape :=
  .record [("domain", .plain), ("reason", .plain), ("message", .plain), ("location", .plain),
    ("locationType", .plain)]

theorem Complaint.respects : Respects Complaint.shape Complaint.ofNode? := by
  refine respects_record (by decide) ?_
  rintro _ _ (_ | ⟨hdomain, _ | ⟨hreason, _ | ⟨hmessage, _ | ⟨hlocation, _ | ⟨htype, _ | _⟩⟩⟩⟩⟩)
  dsimp only
  rw [hdomain.orElse_eq (respects_text _), hreason.orElse_eq (respects_text _),
    hmessage.orElse_eq (respects_text _), hlocation.optional_eq (respects_text _),
    htype.optional_eq (respects_text _)]

def Explanation.shape : Shape :=
  .record [("code", .plain), ("message", .plain), ("errors", .list Complaint.shape)]

theorem Explanation.respects : Respects Explanation.shape Explanation.ofNode? := by
  refine respects_record (by decide) ?_
  rintro _ _ (_ | ⟨hcode, _ | ⟨hmessage, _ | ⟨hcomplaints, _ | _⟩⟩⟩)
  dsimp only
  rw [hcode.orElse_eq (respects_below _ _), hmessage.orElse_eq (respects_text _),
    hcomplaints.orElse_eq (respects_list Complaint.respects)]

/-- The envelope of an explanation. -/
def envelopeShape : Shape := .record [("error", Explanation.shape)]

theorem Explanation.respects_envelope : Respects envelopeShape Explanation.ofEnvelope? := by
  refine respects_record (by decide) ?_
  rintro _ _ (_ | ⟨herror, _ | _⟩)
  exact herror.required_eq Explanation.respects

end Http

/-! ## Settings -/

def Pacing.shape : Shape := .record [("requests_per_second", .plain), ("burst_size", .plain)]

theorem Pacing.respects : Respects Pacing.shape Pacing.ofNode? := by
  refine respects_record (by decide) ?_
  rintro _ _ (_ | ⟨hrate, _ | ⟨hburst, _ | _⟩⟩)
  dsimp only
  rw [hrate.required_eq (respects_below _ _), hburst.required_eq (respects_below _ _)]

theorem choice?_of_length_ne {α : Type} (ofWord? : String → Option α)
    {members : List (Option String × Node)} (h : members.length ≠ 1) :
    Node.choice? ofWord? (.record members) = none := by
  match members, h with
  | [], _ => rfl
  | [_], h => exact absurd rfl h
  | (name, n) :: _ :: _, _ => cases name <;> cases n <;> rfl

/-- A record that names a word has no other member, so that no edit applies to it. -/
theorem respects_choice {α : Type} (ofWord? : String → Option α) :
    Respects .plain (Node.choice? ofWord?) := by
  intro n n' h
  cases h with
  | @permute _ members members' h =>
    by_cases hlength : members.length = 1
    · obtain ⟨m, rfl⟩ := List.length_eq_one_iff.1 hlength
      rw [List.singleton_perm.1 h]
    · rw [choice?_of_length_ne _ hlength, choice?_of_length_ne _ (h.length_eq ▸ hlength)]
  | @member _ name n n' h front back =>
    have hsize : ∀ x, (front ++ (name, x) :: back).length = front.length + back.length + 1 :=
      fun x => List.length_append
    by_cases hlength : front.length + back.length = 0
    · obtain ⟨hfront, hback⟩ := Nat.add_eq_zero_iff.1 hlength
      rw [List.length_eq_zero_iff.1 hfront, List.length_eq_zero_iff.1 hback]
      -- what is edited is not null
      cases h <;> cases name <;> rfl
    · rw [choice?_of_length_ne _ (by rw [hsize]; omega),
        choice?_of_length_ne _ (by rw [hsize]; omega)]
  | item => rfl

def Secrets.shape : Shape :=
  .record [("bearer_token", .plain), ("api_key", .plain), ("scope", .plain)]

theorem Secrets.respects : Respects Secrets.shape Secrets.ofNode? := by
  refine respects_record (by decide) ?_
  rintro _ _ (_ | ⟨htoken, _ | ⟨hkey, _ | ⟨hscope, _ | _⟩⟩⟩)
  dsimp only
  have hchoice : Respects .plain Scope.ofNode? := respects_choice Scope.ofWord?
  rw [htoken.optional_eq (respects_text _), hkey.optional_eq (respects_text _),
    hscope.orElse_eq hchoice]

def Settings.shape : Shape :=
  .record [("base_url", .plain), ("user_agent", .plain), ("timeout_secs", .plain),
    ("rate_limit", Pacing.shape), ("auth", Secrets.shape), ("page_size", .plain),
    ("parquet_compression", .plain)]

theorem Settings.respects : Respects Settings.shape Settings.ofNode? := by
  refine respects_record (by decide) ?_
  rintro _ _ (_ | ⟨hurl, _ | ⟨hagent, _ | ⟨htimeout, _ | ⟨hpacing, _ | ⟨hsecrets,
    _ | ⟨hsize, _ | ⟨hcompression, _ | _⟩⟩⟩⟩⟩⟩⟩)
  dsimp only
  rw [hurl.orElse_eq (respects_text _), hagent.optional_eq (respects_text _),
    htimeout.orElse_eq (respects_below _ _), hpacing.isNone_eq,
    hpacing.optional_eq Pacing.respects, hsecrets.orElse_eq Secrets.respects,
    hsize.optional_eq (respects_below _ _), hcompression.optional_eq (respects_text _)]

/-! ## All types of data -/

namespace DataType

def shape : DataType → Shape
  | .adClient => AdClient.shape
  | .adUnit => AdUnit.shape
  | .customChannel => CustomChannel.shape
  | .targeting => Targeting.shape
  | .urlChannel => UrlChannel.shape
  | .savedReport => SavedReport.shape
  | .adClients => pageShape AdClient.shape
  | .adUnits => pageShape AdUnit.shape
  | .customChannels => pageShape CustomChannel.shape
  | .urlChannels => pageShape UrlChannel.shape
  | .savedReports => pageShape SavedReport.shape
  | .column => Column.shape
  | .report => Report.shape
  | .complaint => Complaint.shape
  | .explanation => Explanation.shape
  | .pacing => Pacing.shape
  | .secrets => Secrets.shape
  | .settings => Settings.shape

theorem respects (d : DataType) : Respects d.shape d.ofNode? := by
  cases d with
  | adClient => exact AdClient.respects
  | adUnit => exact AdUnit.respects
  | customChannel => exact CustomChannel.respects
  | targeting => exact Targeting.respects
  | urlChannel => exact UrlChannel.respects
  | savedReport => exact SavedReport.respects
  | adClients => exact Page.respects AdClient.respects
  | adUnits => exact Page.respects AdUnit.respects
  | customChannels => exact Page.respects CustomChannel.respects
  | urlChannels => exact Page.respects UrlChannel.respects
  | savedReports => exact Page.respects SavedReport.respects
  | column => exact Column.respects
  | report => exact Report.respects
  | complaint => exact Complaint.respects
  | explanation => exact Explanation.respects
  | pacing => exact Pacing.respects
  | secrets => exact Secrets.respects
  | settings => exact Settings.respects

/-- What a body decodes to depends only on known members. Octets that hold documents between which
edits lead, and the bodies of refusals too, decode to the same or both not at all: the members of
any record may be in another order, and members may be there or not whose names are unknown at
their place. Written documents hold what was written however deeply it is nested. -/
theorem decode_eq_of_edits :
    (∀ (d : DataType) octets octets' n n', readNode? octets = some n →
      readNode? octets' = some n' → Edits d.shape n n' → d.decode octets = d.decode octets') ∧
    (∀ status headers body body' n n', readTextNode? body = some n →
      readTextNode? body' = some n' → Edits envelopeShape n n' →
      (Refusal.of status headers body).explanation =
        (Refusal.of status headers body').explanation) ∧
    ∀ (d : DataType) (v v' : Value), v.IsWhole → v'.IsWhole → Edits d.shape v.node v'.node →
      d.decode (Utf8.encode v.toText.toList) = d.decode (Utf8.encode v'.toText.toList) := by
  have hdecode : ∀ (d : DataType) octets octets' n n', readNode? octets = some n →
      readNode? octets' = some n' → Edits d.shape n n' →
      d.decode octets = d.decode octets' := by
    intro d octets octets' n n' hn hn' h
    rw [decode, decode, hn, hn']
    exact d.respects.eq_of_edits h
  refine ⟨hdecode, fun status headers body body' n n' hn hn' h => ?_, fun d v v' hv hv' h => ?_⟩
  · simp only [Refusal.of, hn, hn', Option.bind_some]
    exact Explanation.respects_envelope.eq_of_edits h
  · exact hdecode d _ _ _ _ (readNode?_toText hv) (readNode?_toText hv') h

/-- A list in a list, and so on. -/
def deepList : Nat → Value
  | 0 => .null
  | depth + 1 => .list [deepList depth]

theorem isWhole_deepList (depth : Nat) : (deepList depth).IsWhole := by
  induction depth with
  | zero => exact .null
  | succ depth ih => exact .list (List.forall_mem_singleton.2 ih)

/-- A channel with its members in the usual order. -/
def plainChannel : Value := .record [("id", .text "u"), ("name", .text "n")]

/-- The same channel with its members in another order, and a deep one between them. -/
def noisyChannel : Value :=
  .record [("name", .text "n"), ("later", deepList 300), ("id", .text "u")]

def plainPage : Value := .record [("items", .list [plainChannel])]

def noisyPage : Value := .record [("items", .list [noisyChannel])]

theorem decode_eq_of_edits_noisyPage :
    plainPage.IsWhole ∧ noisyPage.IsWhole ∧
    Edits DataType.customChannels.shape plainPage.node noisyPage.node ∧
    DataType.customChannels.decode (Utf8.encode noisyPage.toText.toList) =
      some ({ items := [{ id := some "u", name := some "n" }] } : Page CustomChannel) := by
  have hpage : ∀ {channel : Value}, channel.IsWhole →
      (Value.record [("items", .list [channel])]).IsWhole := fun h =>
    .record (List.forall_mem_singleton.2 (.list (List.forall_mem_singleton.2 h)))
  have hplain : plainPage.IsWhole :=
    hpage (.record (List.forall_mem_cons.2 ⟨.text _, List.forall_mem_singleton.2 (.text _)⟩))
  have hnoisy : noisyPage.IsWhole :=
    hpage (.record (List.forall_mem_cons.2 ⟨.text _, List.forall_mem_cons.2
      ⟨isWhole_deepList 300, List.forall_mem_singleton.2 (.text _)⟩⟩))
  have hchannel : ∀ n n', Edit CustomChannel.shape n n' →
      Edit DataType.customChannels.shape (.record [(some "items", .list [n])])
        (.record [(some "items", .list [n'])]) := by
    intro n n' h
    have hitems : Edit (DataType.customChannels.shape.at (some "items")) (.list [n]) (.list [n']) :=
      .item [] [] (show Edit ((Shape.list CustomChannel.shape).entry 0) n n' from h)
    exact .member hitems [] []
  have hedits : Edits DataType.customChannels.shape plainPage.node noisyPage.node := by
    refine .trans _ (.record [(some "items", .list
      [.record [(some "name", .text (some "n")), (some "id", .text (some "u"))]])]) _ ?_ ?_
    · exact .rel _ _ (hchannel _ _ (.permute (.swap _ _ _)))
    · exact .rel _ _ (hchannel _ _ (.add (by decide) [_] [_] (deepList 300).node))
  obtain ⟨-, -, hwritten⟩ := decode_eq_of_edits
  refine ⟨hplain, hnoisy, hedits, ?_⟩
  rw [← hwritten .customChannels plainPage noisyPage hplain hnoisy hedits]
  have hread : (readNode? (Utf8.encode plainPage.toText.toList)).bind
      (Page.ofNode? (α := CustomChannel)) =
        some { items := [{ id := some "u", name := some "n" }] } := by
    decide +kernel
  exact hread

end DataType
end SellerApi
