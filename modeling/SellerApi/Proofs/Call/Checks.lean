import SellerApi.Proofs.Call.ListSettings
import SellerApi.Proofs.Call.ReportSettings
import SellerApi.Proofs.Call.Sending
import SellerApi.Proofs.Client.Fetching

/-! # One message for a call, and none for a bad one

Before a call is sent its parameters are checked, in the order in which they are sent, and then the
identifiers in its path from left to right: `Call.checks`. A draft is made exactly if all of them
pass, and it fails as the first one that does not (`Call.draft_eq`). Therefore a call sends at most
one message, and nothing happens on the link if a check does not pass (`Call.send_at_most_once`).
-/

namespace SellerApi

open SellerApi.Http SellerApi.Url

theorem name_of_identifier {bs : Bindings} {name : String} {f : Failure}
    (h : (identifier bs name).map (fun _ => ()) = .error f) :
    ∃ reason, f = .badParameter name reason := by
  unfold identifier at h
  split at h
  · exact ⟨_, (Except.error.inj h).symm⟩
  split at h
  · exact ⟨_, (Except.error.inj h).symm⟩
  split at h
  · exact ⟨_, (Except.error.inj h).symm⟩
  · cases h

/-- What is checked of a call before it is sent. -/
inductive Check where
  /-- A parameter of a report. -/
  | parameter (p : ReportCall.Checked)
  /-- An identifier by the name that the template has for it. -/
  | identifier (name value : String)

namespace Check

def name : Check → String
  | .parameter p => p.name
  | .identifier name _ => name

def Passes : Check → Prop
  | .parameter p => p.check = .ok ()
  | .identifier _ value => value ≠ "" ∧ value ≠ "." ∧ value ≠ ".."

instance (p : Check) : Decidable p.Passes :=
  match p with
  | .parameter p => inferInstanceAs (Decidable (p.check = .ok ()))
  | .identifier _ value => inferInstanceAs (Decidable (value ≠ "" ∧ value ≠ "." ∧ value ≠ ".."))

def run : Check → Except Failure Unit
  | .parameter p => p.check
  | .identifier name value => (SellerApi.identifier [(name, value)] name).map fun _ => ()

theorem run_eq_ok_iff {p : Check} : p.run = .ok () ↔ p.Passes := by
  cases p with
  | parameter p => rfl
  | identifier name value =>
    have hfind : Bindings.find? [(name, value)] name = some value := by simp [Bindings.find?]
    rw [run]
    constructor
    · intro h
      cases hid : SellerApi.identifier [(name, value)] name with
      | error f =>
        rw [hid] at h
        cases h
      | ok taken =>
        obtain ⟨htaken, hpasses⟩ := identifier_eq_ok_iff.1 hid
        cases hfind.symm.trans htaken
        exact hpasses
    · intro h
      rw [identifier_eq_ok_iff.2 ⟨hfind, h⟩]
      rfl

/-- A check that does not pass names what it is about. -/
theorem name_of_run {p : Check} {f : Failure} (h : p.run = .error f) :
    ∃ reason, f = .badParameter p.name reason := by
  cases p with
  | parameter p => exact ReportCall.Checked.name_of_check h
  | identifier name value => exact name_of_identifier h

end Check

/-! ## Identifiers -/

/-- A template is filled if every name in it is bound to an identifier that is taken, and otherwise
fails as the leftmost name that is not. -/
theorem mapM_segment (bs : Bindings) (pieces : List PathPiece) :
    pieces.mapM (PathPiece.segment bs) =
      (pieces.filterMap PathPiece.name?).forM (fun name => (identifier bs name).map fun _ => ()) >>=
        fun _ => .ok (pieces.map (Endpoint.filled bs)) := by
  induction pieces with
  | nil => rfl
  | cons piece pieces ih =>
    have hrest : ∀ (names : Except Failure Unit) (raw : String), (do
        let raws ← names >>= fun _ => .ok (pieces.map (Endpoint.filled bs))
        pure (raw :: raws)) =
          names >>= fun _ => .ok (raw :: pieces.map (Endpoint.filled bs)) := by
      intro names raw
      cases names <;> rfl
    rw [List.mapM_cons, ih]
    cases piece with
    | literal t => exact hrest _ t
    | placeholder name =>
      have hnames : (PathPiece.placeholder name :: pieces).filterMap PathPiece.name? =
          name :: pieces.filterMap PathPiece.name? := rfl
      rw [PathPiece.segment, hnames]
      cases hid : identifier bs name with
      | error f =>
        rw [List.forM, hid]
        rfl
      | ok value =>
        have hfilled : Endpoint.filled bs (.placeholder name) = value := by
          rw [Endpoint.filled, (identifier_eq_ok_iff.1 hid).1, Option.getD_some]
        rw [List.forM, hid, List.map_cons, hfilled]
        exact hrest _ value

namespace Endpoint

/-- The identifiers in the path of an endpoint, from left to right. -/
def checks (e : Endpoint) : List Check := e.bindings.map fun b => .identifier b.1 b.2

/-- No name is bound twice. -/
theorem forM_identifier (e : Endpoint) :
    (e.bindings.map (·.1)).forM (fun name => (identifier e.bindings name).map fun _ => ()) =
      e.checks.forM Check.run := by
  cases e <;> rfl

theorem expandPath_eq (e : Endpoint) :
    expandPath e.template e.bindings = e.checks.forM Check.run >>= fun _ => .ok e.raws := by
  rw [expandPath, mapM_segment, names_eq, forM_identifier, templatePieces_template,
    map_filled_pieces]

/-- A request of an endpoint is drafted if its identifiers pass, and otherwise fails as the first
one that does not. -/
theorem Asks.draft_eq {e : Endpoint} {r : Request} (h : e.Asks r) {c : Client}
    {segs : List String} (hpath : c.base.path = .segments segs) :
    ∃ d, c.draft r = e.checks.forM Check.run >>= fun _ => .ok d := by
  obtain ⟨htemplate, hbindings⟩ := h.template_eq
  have hexp : expandPath r.template r.bindings =
      e.checks.forM Check.run >>= fun _ => .ok e.raws := by
    rw [htemplate, hbindings, expandPath_eq]
  cases hchecks : e.checks.forM Check.run with
  | error f =>
    rw [hchecks] at hexp
    refine ⟨⟨none, []⟩, ?_⟩
    rw [Client.draft, Request.resolve, hexp]
    rfl
  | ok u =>
    rw [hchecks] at hexp
    obtain ⟨url, hurl⟩ : ∃ url, r.resolve c.base = .ok url := ⟨_, Request.resolve_eq hpath hexp⟩
    refine ⟨(Draft.to url).addAll (c.fields r), ?_⟩
    rw [Client.draft, hurl]
    rfl

end Endpoint

/-! ## Calls -/

namespace Call

/-- The parameters of a call that are checked, in the order in which they are sent. -/
def parameters : Call → List ReportCall.Checked
  | .report call | .download call =>
    ReportCall.inOrder call.startDate call.endDate call.dimensions call.metrics call.filters
      call.sorts call.window.locale
  | .savedReport call => call.window.locale.toList.map (.word "locale")
  | @list _ _ _ | @lookup _ _ _ => []

def checks (call : Call) : List Check :=
  call.parameters.map .parameter ++ call.endpoint.checks

theorem made_eq (call : Call) :
    ∃ r, call.made = call.parameters.forM ReportCall.Checked.check >>= fun _ => .ok r := by
  cases call with
  | list call => exact ⟨_, rfl⟩
  | lookup call => exact ⟨_, rfl⟩
  | report call | download call =>
    refine ⟨call.options.apply { Endpoint.report.request with query := call.query }, ?_⟩
    rw [made, ReportCall.request, ReportCall.check_eq]
    rfl
  | savedReport call =>
    refine ⟨call.options.apply { (Endpoint.savedReport call.id).request with
      query := call.window.apply Query.empty }, ?_⟩
    rw [made, SavedReportCall.request, ReportCall.window_check_eq]
    rfl

theorem forM_checks (call : Call) :
    call.checks.forM Check.run = call.parameters.forM ReportCall.Checked.check >>= fun _ =>
      call.endpoint.checks.forM Check.run := by
  simp only [checks, List.forM_eq_forM, List.forM_append, List.forM_map]
  rfl

/-- A call is drafted if all checks pass, and otherwise fails as the first one that does not. -/
theorem draft_eq (call : Call) {c : Client} {segs : List String}
    (hpath : c.base.path = .segments segs) :
    ∃ d, call.request >>= c.draft = call.checks.forM Check.run >>= fun _ => .ok d := by
  obtain ⟨r, hr⟩ := call.made_eq
  rw [forM_checks, request]
  cases hparameters : call.parameters.forM ReportCall.Checked.check with
  | error f =>
    rw [hparameters] at hr
    exact ⟨⟨none, []⟩, by rw [hr]; rfl⟩
  | ok u =>
    rw [hparameters] at hr
    have hasks := (asks_of_made hr).sent call.format call.options.watched
    obtain ⟨d, hd⟩ := hasks.draft_eq hpath
    exact ⟨d, by rw [hr]; exact hd⟩

section

variable {call : Call} {c : Client} {l : Link} {segs : List String}

/-- The first check that does not pass says how the call fails, and nothing happens on the link. -/
theorem send_refused (hwatched : call.options.watched = false)
    (hpath : c.base.path = .segments segs) {before after : List Check} {p : Check}
    (hchecks : call.checks = before ++ p :: after) (hbefore : ∀ q ∈ before, q.Passes)
    (hp : ¬p.Passes) : ∃ reason, call.send c l = (.error (.badParameter p.name reason), l) := by
  obtain ⟨f, hf⟩ : ∃ f, p.run = .error f := by
    cases hrun : p.run with
    | error f => exact ⟨f, rfl⟩
    | ok u => exact absurd (Check.run_eq_ok_iff.1 hrun) hp
  obtain ⟨reason, rfl⟩ := Check.name_of_run hf
  have hfirst := forM_eq_error_iff.2
    ⟨before, p, after, hchecks, fun q hq => Check.run_eq_ok_iff.2 (hbefore q hq), hf⟩
  obtain ⟨d, hd⟩ := call.draft_eq hpath
  rw [hfirst] at hd
  refine ⟨reason, ?_⟩
  cases hr : call.request with
  | error f =>
    rw [hr] at hd
    cases hd
    exact send_of_refused hr
  | ok r =>
    rw [hr] at hd
    have hsend : c.send r l = (.error (.badParameter p.name reason), l) := by
      rw [Client.send, show c.draft r = .error (.badParameter p.name reason) from hd]
    rw [send_of_unwatched hwatched hr, hsend]
    rfl

theorem drafted (hpath : c.base.path = .segments segs) (hpass : ∀ p ∈ call.checks, p.Passes) :
    ∃ r d, call.request = .ok r ∧ c.draft r = .ok d := by
  obtain ⟨d, hd⟩ := call.draft_eq hpath
  rw [forM_eq_ok_iff.2 fun p hp => Check.run_eq_ok_iff.2 (hpass p hp)] at hd
  obtain ⟨r, hr, hd⟩ := bind_eq_ok_iff.1 hd
  exact ⟨r, d, hr, hd⟩

/-- A source that fails keeps a good call from being sent. -/
theorem send_of_source_error (hwatched : call.options.watched = false)
    (hpath : c.base.path = .segments segs) (hpass : ∀ p ∈ call.checks, p.Passes)
    {source : Nat → Except Failure String} (hsource : c.credential = .source source) {f : Failure}
    (hf : source l.asked = .error f) :
    ∃ r, call.request = .ok r ∧ c.send r l = (.error f, { l with asked := l.asked + 1 }) ∧
      call.send c l =
        (.error (f.underDeadline (c.deadline r)), { l with asked := l.asked + 1 }) := by
  obtain ⟨r, d, hr, hd⟩ := drafted hpath hpass
  have hmessage : c.messageOf r l.asked = .error f := by
    rw [Client.messageOf, hd, hsource, Except.bind, Credential.attach, hf]
    rfl
  have hsend : c.send r l = (.error f, { l with asked := l.asked + 1 }) := by
    rw [Client.send_of_unwritten hd hmessage, Client.afterAsking, hsource]
    rfl
  refine ⟨r, hr, hsend, ?_⟩
  rw [send_of_unwatched hwatched hr, hsend]
  rfl

end

end Call

/-- Under a base that takes segments a URL is refused for an identifier only. -/
theorem Request.name_of_resolve {base : Url} {segs : List String}
    (hpath : base.path = .segments segs) {r : Request} {f : Failure}
    (h : r.resolve base = .error f) : ∃ name reason, f = .badParameter name reason := by
  have hexp : expandPath r.template r.bindings = .error f := by
    cases hexp : expandPath r.template r.bindings with
    | error f' =>
      rw [resolve, hexp] at h
      exact congrArg Except.error (Except.error.inj h)
    | ok raws =>
      rw [resolve_eq hpath hexp] at h
      cases h
  rw [expandPath, mapM_segment] at hexp
  cases hnames : ((templatePieces r.template).filterMap PathPiece.name?).forM
      (fun name => (identifier r.bindings name).map fun _ => ()) with
  | ok u =>
    rw [hnames] at hexp
    cases hexp
  | error f' =>
    rw [hnames] at hexp
    cases hexp
    obtain ⟨-, name, -, -, -, hname⟩ := forM_eq_error_iff.1 hnames
    exact ⟨name, name_of_identifier hname⟩

namespace Call

/-- A call that no signal ends sends one message at most, whatever the server replies, and no second
one. If a check does not pass, the first such check says how the call fails, and nothing is sent and
no token source is asked. A source that fails keeps the call from being sent; its failure is handed
on, where a deadline that passed meanwhile is told as that of the call. A client that was made
refuses a URL for an identifier only. -/
theorem send_at_most_once {t : Transport} {c₀ : Client} (hclient : Client.of t = .ok c₀)
    (credential : Credential) (call : Call) (hwatched : call.options.watched = false) (l : Link) :
    let c := { c₀ with credential }
    (∃ messages used, l.Exchanged (call.send c l).2 messages used ∧ messages.length ≤ 1 ∧
      ∀ m ∈ messages, ∃ r, call.request = .ok r ∧ c.messageOf r l.asked = .ok m) ∧
    (∀ r m, call.request = .ok r → c.messageOf r l.asked = .ok m → l.replies ≠ [] →
      (call.send c l).2.sent = l.sent ++ [m]) ∧
    (templatePieces call.endpoint.template).filterMap PathPiece.name? =
      call.endpoint.bindings.map (·.1) ∧
    (∀ before p after, call.checks = before ++ p :: after → (∀ q ∈ before, q.Passes) →
      ¬p.Passes → ∃ reason, call.send c l = (.error (.badParameter p.name reason), l)) ∧
    (∀ source f, credential = .source source → (∀ p ∈ call.checks, p.Passes) →
      source l.asked = .error f → ∃ r, call.request = .ok r ∧
        c.send r l = (.error f, { l with asked := l.asked + 1 }) ∧
        (call.send c l).2 = { l with asked := l.asked + 1 } ∧
        (call.send c l).1 = .error (f.underDeadline (c.deadline r)) ∧
        (f ≠ .transport .deadline → (call.send c l).1 = .error f)) ∧
    ∀ (r : Request) f, r.resolve c.base = .error f →
      ∃ name reason, f = .badParameter name reason := by
  intro c
  obtain ⟨⟨segs, hpath⟩, -⟩ := Client.of_eq_ok hclient
  replace hpath : c.base.path = .segments segs := hpath
  refine ⟨exchanged hwatched c l, fun r m hr hm hreplies => ?_, call.endpoint.names_eq,
    fun before p after hchecks hbefore hp => send_refused hwatched hpath hchecks hbefore hp,
    fun source f hsource hpass hf => ?_, fun r f h => Request.name_of_resolve hpath h⟩
  · rw [send_of_unwatched hwatched hr]
    exact (c.attempt r l).sent_of_messageOf hm hreplies
  · obtain ⟨r, hr, hsend, hcall⟩ := send_of_source_error hwatched hpath hpass hsource hf
    refine ⟨r, hr, hsend, ?_, ?_, fun hne => ?_⟩
    · rw [hcall]
    · rw [hcall]
    · rw [hcall, Failure.underDeadline_of_ne hne]

/-- A saved report with two bad parts, a listing with two bad identifiers, and a good call: once
with a source that fails, once with a server that is going to fail twice. -/
theorem send_at_most_once_bad_parts :
    let source : Nat → Except Failure String := fun _ => .error (.settings "no token")
    let c := { Client.plainClient with credential := .source source }
    let busy : Link := { replies := [.answer { status := 503 }, .answer { status := 503 }] }
    Client.of Client.plainClient.settings = .ok Client.plainClient ∧
    (∃ reason, (savedReport { id := "..", window := { locale := some "de-DE" } }).send c busy =
      (.error (.badParameter "locale" reason), busy)) ∧
    (∃ reason, (list { listing := .unitChannels "." "" }).send c busy =
      (.error (.badParameter "adClientId" reason), busy)) ∧
    ((list { listing := .adClients }).send c busy).1 = .error (.settings "no token") ∧
    ((list { listing := .adClients }).send c busy).2 = { busy with asked := 1 } ∧
    ∃ m, ((list { listing := .adClients }).send Client.plainClient busy).2.sent = [m] := by
  intro source c busy
  have hclient : Client.of Client.plainClient.settings = .ok Client.plainClient := by
    have hread : Url.read Client.plainClient.settings.baseUrl = .ok Client.plainClient.base := by
      decide +kernel
    rw [Client.of, hread]
    rfl
  obtain ⟨-, -, -, hsaved, -⟩ := send_at_most_once hclient (.source source)
    (savedReport { id := "..", window := { locale := some "de-DE" } }) rfl busy
  obtain ⟨-, -, -, hunits, -⟩ := send_at_most_once hclient (.source source)
    (list { listing := .unitChannels "." "" }) rfl busy
  obtain ⟨-, -, -, -, hfailing, -⟩ := send_at_most_once hclient (.source source)
    (list { listing := .adClients }) rfl busy
  obtain ⟨-, hone, -⟩ := send_at_most_once hclient .none
    (list { listing := .adClients }) rfl busy
  obtain ⟨r, -, -, hasked, -, hfailed⟩ := hfailing source _ rfl (by decide +kernel) rfl
  refine ⟨hclient, hsaved [] (.parameter (.word "locale" "de-DE"))
      [.identifier "savedReportId" ".."] rfl (List.forall_mem_nil _) (by decide +kernel),
    hunits [] (.identifier "adClientId" ".") [.identifier "adUnitId" ""] rfl
      (List.forall_mem_nil _) (by decide +kernel),
    hfailed (by decide), hasked, ?_⟩
  let m : Message :=
    ⟨{ Client.plainClient.base with
        path := .segments ["v1", "adclients"], query := some "alt=json" },
      [Header.of "user-agent" "adexchange-seller/0.1.0"]⟩
  have hm : Client.plainClient.messageOf Endpoint.adClients.request 0 = .ok m := by decide +kernel
  exact ⟨m, hone _ m rfl hm (List.cons_ne_nil _ _)⟩

/-- The failure of a source is not always handed on as it is. If a request of the source itself ran
out of time, the call tells its own deadline, though nothing was sent under it. -/
theorem send_late_source :
    let late : Failure := .transport .deadline
    let c := { Client.plainClient with credential := .source fun _ => .error late }
    (∀ p ∈ (list { listing := .adClients }).checks, p.Passes) ∧
    ((list { listing := .adClients }).send c {}).1 = .error (.timedOut 30000) ∧
    Failure.timedOut 30000 ≠ late ∧ ((list { listing := .adClients }).send c {}).2.sent = [] := by
  intro late c
  have hpass : ∀ p ∈ (list { listing := .adClients }).checks, p.Passes := by decide +kernel
  obtain ⟨r, hr, -, hsend⟩ := send_of_source_error (c := c) (l := {}) rfl rfl hpass rfl rfl
  cases hr
  rw [hsend]
  exact ⟨hpass, rfl, by decide, rfl⟩

end Call
end SellerApi
