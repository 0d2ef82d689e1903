import SellerApi.Call.Endpoint
import SellerApi.Proofs.Client.Sending
import SellerApi.Proofs.Http.Response

/-! # What a fetch comes to

A fetch that is answered, and that was not cancelled, comes to the outcome of the response
(`Client.fetch_outcome`): no deadline and no signal interferes any more.
-/

namespace SellerApi

open SellerApi.Http SellerApi.Resource SellerApi.Text

theorem Link.fired_of_exchange_ok {l l' : Link} {m : Message} {x : Response}
    (h : l.exchange m = (.ok x, l')) : l'.fired = l.fired := by
  unfold exchange at h
  split at h
  · cases h
  · split at h <;> cases h
    rfl

namespace Client

/-- The signal does not fire while an answer comes in. -/
theorem fired_of_send_ok {c : Client} {r : Request} {l l' : Link} {x : Response}
    (h : c.send r l = (.ok x, l')) : l'.fired = l.fired := by
  unfold send at h
  split at h
  · cases h
  · dsimp only at h
    split at h
    · cases h
    · next m _ =>
      cases he : ({ l with asked := c.credential.askedAfter l.asked } : Link).exchange m with
      | mk result l₁ =>
        rw [he] at h
        cases result with
        | error f => cases h
        | ok y =>
          cases h
          have hfired := Link.fired_of_exchange_ok he
          exact hfired

theorem fetch_eq_of_send_ok {β : Type} {c : Client} {r : Request} {l l' : Link} {x : Response}
    (hfree : (r.watched && l.fired) = false) (h : c.send r l = (.ok x, l'))
    (read : Response → Except Failure β) :
    c.fetch r read l = ((read x).mapError (Failure.underDeadline (c.deadline r)), l') := by
  have hfree' : (r.watched && l'.fired) = false := by rw [fired_of_send_ok h, hfree]
  rw [fetch, hfree, h]
  simp only [hfree']
  rfl

/-- Every response whose body arrives to its end has exactly one outcome: what it decodes to and
what its download is. The body of an unchanged resource does not matter. A fetch that gets the
response, and is not cancelled beforehand, comes to that outcome. -/
theorem fetch_outcome {α : Type} [Wire α] {x : Response} (hx : x.body.ending = .complete) :
    Response.Outcome x (x.decode (α := α)) x.download ∧
    (∀ (document : Except Failure (Answer α)) content, Response.Outcome x document content →
      document = x.decode ∧ content = x.download) ∧
    (x.status = 304 → ∀ body, Response.decode { x with body } = x.decode (α := α) ∧
      Response.download { x with body } = x.download) ∧
    ∀ (c : Client) (r : Request) (l l' : Link), (r.watched && l.fired) = false →
      (c.send { r with format := .json } l = (.ok x, l') →
        c.fetchJson r l = (x.decode (α := α), l')) ∧
      (c.send { r with format := .media } l = (.ok x, l') →
        c.fetchMedia r l = (x.download, l')) := by
  obtain ⟨document, content, houtcome⟩ := Response.exists_outcome α hx
  obtain ⟨rfl, rfl⟩ := houtcome.eq hx
  refine ⟨houtcome, fun document content h => ?_, fun hstatus body => ?_, fun c r l l' hfree => ?_⟩
  · obtain ⟨hdocument, hcontent⟩ := h.eq hx
    exact ⟨hdocument.symm, hcontent.symm⟩
  · -- the status alone decides, before the body is looked at
    have hbody : Response.accept { x with body } = .error (.notModified x.headers) :=
      if_pos hstatus
    obtain ⟨hdecode, hdownload⟩ := Response.of_accept_error (α := α) hbody
    obtain ⟨hdecode', hdownload'⟩ := (Response.Outcome.unchanged (α := α) hstatus).eq hx
    exact ⟨hdecode.trans hdecode'.symm, hdownload.trans hdownload'.symm⟩
  · refine ⟨fun h => ?_, fun h => ?_⟩
    · have hfetch := fetch_eq_of_send_ok (r := { r with format := .json }) hfree h
        (Response.decode (α := α))
      rw [(houtcome.underDeadline _).1] at hfetch
      exact hfetch
    · have hfetch := fetch_eq_of_send_ok (r := { r with format := .media }) hfree h
        Response.download
      rw [(houtcome.underDeadline _).2] at hfetch
      exact hfetch

def forbiddenText : String := "\x7b\"error\":\x7b\"code\":403,\"message\":\"nön\"\x7d\x7d"

/-- A refusal whose body arrives in two pieces, with one letter cut apart. -/
def forbidden : Response :=
  let octets := Utf8.encode forbiddenText.toList
  { status := 403, headers := [⟨"x-trace", "1"⟩]
    body := ⟨[octets.take 34, octets.drop 34], .complete⟩ }

/-- An empty page with the status of success. -/
def blank : Response := { status := 204 }

def plainClient : Client :=
  { settings := { baseUrl := "http://ads.example/v1/" }
    base := { scheme := "http", authority := some { host := .name "ads.example" },
              path := .segments ["v1", ""] } }

theorem fetch_outcome_forbidden :
    let r := Endpoint.adClients.request
    let refusal : Refusal :=
      ⟨403, [⟨"x-trace", "1"⟩], forbiddenText, some { code := 403, message := "nön" }⟩
    (∃ l', plainClient.fetchJson (α := Page AdClient) r { replies := [.answer forbidden] } =
      (.error (.refused refusal), l')) ∧
    (∃ l', plainClient.fetchMedia r { replies := [.answer forbidden] } =
      (.error (.refused refusal), l')) ∧
    (∃ l', plainClient.fetchJson (α := Page AdClient) r { replies := [.answer blank] } =
      (.error .badDocument, l')) ∧
    ∃ l', plainClient.fetchMedia r { replies := [.answer blank] } = (.ok ⟨blank⟩, l') := by
  intro r refusal
  have hexp : expandPath r.template r.bindings = .ok ["adclients"] := by decide +kernel
  have hsend : ∀ format x, ∃ l',
      plainClient.send { r with format } { replies := [.answer x] } = (.ok x, l') := by
    intro format x
    have hpath : plainClient.base.path = .segments ["v1", ""] := rfl
    have hurl := Request.resolve_eq hpath (r := { r with format }) hexp
    have hfields : Sendable (plainClient.fields { r with format } ++ []) := List.forall_mem_nil _
    have hsends := sends_of_sendable (c := plainClient) .none (by decide) (by decide) hfields hurl
      rfl rfl
    exact ⟨_, send_answered hsends rfl⟩
  have hrefused : forbidden.decode (α := Page AdClient) = .error (.refused refusal) ∧
      forbidden.download = .error (.refused refusal) :=
    ⟨by decide +kernel, by decide +kernel⟩
  have hblank : blank.decode (α := Page AdClient) = .error .badDocument := by decide +kernel
  have hfree : ∀ l : Link, (r.watched && l.fired) = false := fun _ => rfl
  obtain ⟨-, -, -, hforbidden⟩ := fetch_outcome (α := Page AdClient) (x := forbidden) rfl
  obtain ⟨-, -, -, hempty⟩ := fetch_outcome (α := Page AdClient) (x := blank) rfl
  refine ⟨?_, ?_, ?_, ?_⟩
  · obtain ⟨l', hl⟩ := hsend .json forbidden
    exact ⟨l', hrefused.1 ▸ (hforbidden plainClient r _ l' (hfree _)).1 hl⟩
  · obtain ⟨l', hl⟩ := hsend .media forbidden
    exact ⟨l', hrefused.2 ▸ (hforbidden plainClient r _ l' (hfree _)).2 hl⟩
  · obtain ⟨l', hl⟩ := hsend .json blank
    exact ⟨l', hblank ▸ (hempty plainClient r _ l' (hfree _)).1 hl⟩
  · obtain ⟨l', hl⟩ := hsend .media blank
    exact ⟨l', (hempty plainClient r _ l' (hfree _)).2 hl⟩

end Client
end SellerApi
