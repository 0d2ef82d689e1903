import SellerApi.Proofs.Call.Sending
import SellerApi.Proofs.Listing.Collect
import SellerApi.Proofs.Outcome

/-! # Clients with different secrets

Two clients that are alike but for the texts of their secrets (`Client.Swapped`) send messages that
are alike but for these texts (`Message.Swapped`) and come to the same, on links that were alike
before and are so behind (`Link.Agrees`). It holds for one message, hence for every call and for all
pages of a listing.
-/

namespace SellerApi

open SellerApi.Http SellerApi.Resource SellerApi.Text

/-! ## Secrets and messages -/

/-- A text that can be sent in a header field and that says something. -/
structure IsSecret (text : String) : Prop where
  sendable : isHeaderValue text = true
  notBlank : isAllBlank text = false

/-- Nothing, or the same text, or another secret in the place of a secret. -/
inductive Swapped : Option String → Option String → Prop where
  | same (x : Option String) : Swapped x x
  | secret {t u : String} (ht : IsSecret t) (hu : IsSecret u) : Swapped (some t) (some u)

theorem Swapped.or {x y x' y' : Option String} (h : Swapped x y) (h' : Swapped x' y') :
    Swapped (x.or x') (y.or y') := by
  cases h with
  | same x =>
    cases x with
    | none => exact h'
    | some t => exact .same _
  | secret ht hu => exact .secret ht hu

theorem Swapped.isSome_eq {x y : Option String} (h : Swapped x y) : x.isSome = y.isSome := by
  cases h <;> rfl

inductive Credential.Swapped : Credential → Credential → Prop where
  | same (k : Credential) : Swapped k k
  | bearer {t u : String} (ht : IsSecret t) (hu : IsSecret u) : Swapped (.bearer t) (.bearer u)
  | apiKey (k k' : String) : Swapped (.apiKey k) (.apiKey k')

/-- The field of a bearer token. -/
def bearerField (token : String) : Header := Header.of "authorization" ("Bearer " ++ token)

/-- Messages that are alike but for the value of the field of a bearer token, or for the value of
the pair of a key at the end of the query. -/
inductive Http.Message.Swapped : Message → Message → Prop where
  | same (m : Message) : Swapped m m
  | bearer (t u : String) (url : Url) (front back : Headers) :
    Swapped ⟨url, front ++ bearerField t :: back⟩ ⟨url, front ++ bearerField u :: back⟩
  | apiKey (k k' : String) (url : Url) (headers : Headers) :
    Swapped ⟨url.appendPairs [("key", k)], headers⟩ ⟨url.appendPairs [("key", k')], headers⟩

/-- Clients that are alike but for their secrets. -/
structure Client.Swapped (c c' : Client) : Prop where
  settings : c.settings = c'.settings
  base : c.base = c'.base
  credential : c.credential.Swapped c'.credential

/-! ## One message -/

namespace Client

variable {c c' : Client}

/-- What a client writes behind the fields of a draft, whatever a token says. -/
theorem signed_bearer (c : Client) (d : Http.Draft) : ∃ back, ∀ t,
    c.signed (Credential.addBearer d t) =
      ⟨d.url, d.fields ++ ("authorization", "Bearer " ++ t) :: back⟩ := by
  have hname : (lowercase "authorization" = "user-agent") ↔ False := by decide
  simp only [signed, Credential.addBearer, Draft.add, List.any_append, List.any_cons, List.any_nil,
    hname, decide_false, Bool.or_false]
  split
  · exact ⟨[], fun t => rfl⟩
  · refine ⟨[("user-agent", c.settings.userAgent)], fun t => ?_⟩
    rw [List.append_assoc]
    rfl

theorem message_bearer {t u : String} (ht : IsSecret t) (hu : IsSecret u) (url : Option Url)
    (front back : List (String × String)) :
    SameOutcome Message.Swapped
      (Draft.message ⟨url, front ++ ("authorization", "Bearer " ++ t) :: back⟩)
      (Draft.message ⟨url, front ++ ("authorization", "Bearer " ++ u) :: back⟩) := by
  have hfield : ∀ {v : String}, IsSecret v →
      (isHeaderName "authorization" && isHeaderValue ("Bearer " ++ v)) = true := fun hv => by
    rw [isHeaderValue_append (by decide) hv.sendable]
    decide
  cases url with
  | none => exact .error _
  | some url =>
    simp only [Draft.message, List.all_append, List.all_cons, hfield ht, hfield hu, Bool.true_and,
      List.map_append, List.map_cons]
    split
    · exact .error _
    split
    · exact .ok (.bearer t u url _ _)
    · exact .error _

/-- Pairs behind the query change nothing else. -/
theorem message_addPairs (d : Http.Draft) (pairs : List (String × String)) :
    (d.addPairs pairs).message =
      d.message.map fun m => ⟨m.url.appendPairs pairs, m.headers⟩ := by
  obtain ⟨_ | url, fields⟩ := d
  · rfl
  · have htakes := url.takesRequests_appendPairs pairs
    by_cases h : url.takesRequests = true
    · cases hfields : fields.all fun f => isHeaderName f.1 && isHeaderValue f.2 <;>
        simp [Draft.addPairs, Draft.message, htakes, h, hfields, Except.map]
    · simp [Draft.addPairs, Draft.message, htakes, h, Except.map]

theorem message_apiKey (k k' : String) (d : Http.Draft) :
    SameOutcome Message.Swapped (d.addPairs [("key", k)]).message
      (d.addPairs [("key", k')]).message := by
  rw [message_addPairs, message_addPairs]
  cases d.message with
  | error f => exact .error f
  | ok m => exact .ok (.apiKey k k' m.url m.headers)

theorem signed_addPairs (c : Client) (d : Http.Draft) (pairs : List (String × String)) :
    c.signed (d.addPairs pairs) = (c.signed d).addPairs pairs := by
  rw [signed_eq, signed_eq]
  rfl

theorem Swapped.messageOf (h : c.Swapped c') (r : Request) (asked : Nat) :
    SameOutcome Message.Swapped (c.messageOf r asked) (c'.messageOf r asked) := by
  have hsigned : c'.signed = c.signed := by
    funext d
    rw [signed, signed, h.settings]
  have hdraft : c'.draft r = c.draft r := by
    rw [draft, draft, fields, fields, h.settings, h.base]
  unfold Client.messageOf
  rw [hdraft, hsigned]
  have hcredential := h.credential
  generalize c.credential = k, c'.credential = k' at hcredential
  cases c.draft r with
  | error f => exact .error f
  | ok d =>
    cases hcredential with
    | same k =>
      have hsame : ∀ x : Except Failure Message, SameOutcome Message.Swapped x x := by
        rintro (f | m)
        · exact .error f
        · exact .ok (.same m)
      exact hsame _
    | @bearer t u ht hu =>
      obtain ⟨back, hback⟩ := c.signed_bearer d
      simp only [Credential.attach, Except.bind, hback]
      exact message_bearer ht hu _ _ _
    | apiKey k k' =>
      simp only [Credential.attach, Except.bind, signed_addPairs]
      exact message_apiKey k k' _

theorem Swapped.askedAfter (h : c.Swapped c') (asked : Nat) :
    c.credential.askedAfter asked = c'.credential.askedAfter asked := by
  have hcredential := h.credential
  generalize c.credential = k, c'.credential = k' at hcredential
  cases hcredential <;> rfl

end Client

/-! ## Steps on links -/

/-- Links that are alike but for the secrets in the messages that were sent. -/
structure Link.Swapped (l m : Link) : Prop where
  replies : l.replies = m.replies
  asked : l.asked = m.asked
  fired : l.fired = m.fired
  sent : List.Forall₂ Message.Swapped l.sent m.sent

/-- Two steps that come to the same on links that are alike but for secrets, and leave such ones. -/
def Link.Agrees {α : Type} (f g : Link → Except Failure α × Link) : Prop :=
  ∀ l m, l.Swapped m → (f l).1 = (g m).1 ∧ (f l).2.Swapped (g m).2

theorem Link.Swapped.exchange {l m : Link} (h : l.Swapped m) {x y : Message} (hx : x.Swapped y) :
    (l.exchange x).1 = (m.exchange y).1 ∧ (l.exchange x).2.Swapped (m.exchange y).2 := by
  have hsent : List.Forall₂ Message.Swapped (l.sent ++ [x]) (m.sent ++ [y]) :=
    List.rel_append h.sent (.cons hx .nil)
  unfold Link.exchange
  rw [← h.replies]
  cases hreplies : l.replies with
  | nil => exact ⟨rfl, h⟩
  | cons reply replies =>
    cases reply with
    | interruption => exact ⟨rfl, rfl, h.asked, rfl, hsent⟩
    | answer | silence | hangUp => exact ⟨rfl, rfl, h.asked, h.fired, hsent⟩

theorem Client.send_eq_messageOf (c : Client) (r : Request) (l : Link) :
    c.send r l = match c.draft r with
      | .error f => (.error f, l)
      | .ok _ => match c.messageOf r l.asked with
        | .error f => (.error f, c.afterAsking l)
        | .ok m => (((c.afterAsking l).exchange m).1.mapError .transport,
            ((c.afterAsking l).exchange m).2) := by
  unfold Client.send Client.messageOf
  cases c.draft r with
  | error f => rfl
  | ok d =>
    dsimp only [Except.bind]
    cases (c.credential.attach l.asked d).bind fun d => (c.signed d).message <;> rfl

namespace Client.Swapped

variable {c c' : Client} (h : c.Swapped c')
include h

theorem afterAsking {l m : Link} (hl : l.Swapped m) :
    (c.afterAsking l).Swapped (c'.afterAsking m) := by
  refine ⟨hl.replies, ?_, hl.fired, hl.sent⟩
  rw [Client.afterAsking, Client.afterAsking, ← hl.asked, h.askedAfter]

theorem send (r : Request) : Link.Agrees (c.send r) (c'.send r) := by
  intro l m hl
  have hdraft : c'.draft r = c.draft r := by
    rw [draft, draft, fields, fields, h.settings, h.base]
  rw [c.send_eq_messageOf, c'.send_eq_messageOf, hdraft, ← hl.asked]
  cases c.draft r with
  | error f => exact ⟨rfl, hl⟩
  | ok d =>
    have hmessages := h.messageOf r l.asked
    generalize c.messageOf r l.asked = x, c'.messageOf r l.asked = y at hmessages
    cases hmessages with
    | error f => exact ⟨rfl, h.afterAsking hl⟩
    | ok hm =>
      obtain ⟨hresult, hlinks⟩ := (h.afterAsking hl).exchange hm
      exact ⟨congrArg (Except.mapError Failure.transport) hresult, hlinks⟩

theorem fetch {α : Type} (r : Request) (read : Response → Except Failure α) :
    Link.Agrees (c.fetch r read) (c'.fetch r read) := by
  intro l m hl
  have hdeadline : c'.deadline r = c.deadline r := by
    rw [deadline, deadline, h.settings]
  rw [Client.fetch, Client.fetch, hdeadline, ← hl.fired]
  by_cases hfired : (r.watched && l.fired) = true
  · rw [if_pos hfired, if_pos hfired]
    exact ⟨rfl, hl⟩
  rw [if_neg hfired, if_neg hfired]
  obtain ⟨hresult, hlinks⟩ := h.send r l m hl
  rcases hsend : c.send r l with ⟨result, l'⟩
  rcases hsend' : c'.send r m with ⟨result', m'⟩
  rw [hsend, hsend'] at hresult hlinks
  obtain rfl : result = result' := hresult
  have hfired' : l'.fired = m'.fired := hlinks.fired
  dsimp only
  rw [hfired']
  split
  · exact ⟨rfl, hlinks⟩
  · exact ⟨rfl, hlinks⟩

/-! ## Calls and listings -/

theorem call (call : Call) : Link.Agrees (call.send c) (call.send c') := by
  intro l m hl
  rw [call.send_eq, call.send_eq]
  cases call.request with
  | error f => exact ⟨rfl, hl⟩
  | ok r =>
    obtain ⟨hresult, hlinks⟩ := h.fetch r call.read l m hl
    dsimp only
    rw [hresult]
    exact ⟨rfl, hlinks⟩

variable {α : Type} [Wire α]

theorem next (p : Pager α) {l m : Link} (hl : l.Swapped m) :
    (p.next c l).1 = (p.next c' m).1 ∧ (p.next c l).2.1 = (p.next c' m).2.1 ∧
      (p.next c l).2.2.Swapped (p.next c' m).2.2 := by
  unfold Pager.next
  rw [← hl.fired]
  split
  · exact ⟨rfl, rfl, hl⟩
  split
  · exact ⟨rfl, rfl, hl⟩
  split
  · exact ⟨rfl, rfl, hl⟩
  obtain ⟨hresult, hlinks⟩ := h.fetch { p.call.request p.progress.token with format := .json }
    (Response.decode (α := Page α)) l m hl
  unfold Client.fetchJson
  rcases hfetch : c.fetch { p.call.request p.progress.token with format := .json }
    (Response.decode (α := Page α)) l with ⟨result, l'⟩
  rcases hfetch' : c'.fetch { p.call.request p.progress.token with format := .json }
    (Response.decode (α := Page α)) m with ⟨result', m'⟩
  rw [hfetch, hfetch'] at hresult hlinks
  obtain rfl : result = result' := hresult
  have hfired' : l'.fired = m'.fired := hlinks.fired
  dsimp only
  rw [hfired']
  split
  · exact ⟨rfl, rfl, hlinks⟩
  · cases result with
    | error f => exact ⟨rfl, rfl, hlinks⟩
    | ok page => exact ⟨rfl, rfl, hlinks⟩

theorem pages (p : Pager α) {l m : Link} (hl : l.Swapped m) :
    (p.pages c l).1 = (p.pages c' m).1 ∧ (p.pages c l).2.1 = (p.pages c' m).2.1 ∧
      (p.pages c l).2.2.2.Swapped (p.pages c' m).2.2.2 := by
  -- every page uses up a reply, so that fewer of them are left
  induction hreplies : l.replies.length using Nat.strongRecOn generalizing p l m with
  | _ n ih =>
    obtain ⟨hresult, hpager, hlinks⟩ := h.next p hl
    rcases hnext : p.next c l with ⟨result, q, l'⟩
    rcases hnext' : p.next c' m with ⟨result', q', m'⟩
    rw [hnext, hnext'] at hresult hpager hlinks
    obtain rfl : result = result' := hresult
    obtain rfl : q = q' := hpager
    rcases result with f | _ | page
    · rw [Pager.pages_of_next_error hnext, Pager.pages_of_next_error hnext']
      exact ⟨rfl, rfl, hlinks⟩
    · rw [Pager.pages_of_next_none hnext, Pager.pages_of_next_none hnext']
      exact ⟨rfl, rfl, hlinks⟩
    · have hless := Pager.length_replies_of_next_ok hnext
      obtain ⟨hpages, hend, hrest⟩ := ih _ (hreplies ▸ hless) q hlinks rfl
      rw [Pager.pages_of_next_ok hnext, Pager.pages_of_next_ok hnext']
      exact ⟨congrArg (page :: ·) hpages, hend, hrest⟩

theorem collect (p : Pager α) : Link.Agrees (p.collect c) (p.collect c') := by
  intro l m hl
  obtain ⟨hpages, hend, hlinks⟩ := h.pages p hl
  unfold Pager.collect
  rcases hrun : p.pages c l with ⟨pages, f, q, l'⟩
  rcases hrun' : p.pages c' m with ⟨pages', f', q', m'⟩
  rw [hrun, hrun'] at hpages hend hlinks
  obtain rfl : pages = pages' := hpages
  obtain rfl : f = f' := hend
  cases f with
  | none => exact ⟨rfl, hlinks⟩
  | some f => exact ⟨rfl, hlinks⟩

end Client.Swapped
end SellerApi
