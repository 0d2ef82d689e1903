import SellerApi.Proofs.Client.Attempt
import SellerApi.Proofs.Listing.Course
import SellerApi.Proofs.Listing.Resume

/-! # Pages that fail and are asked for again

A reply that holds no page leaves a pager as it was, and its next call sends the same request
(`Pager.Asks.next_of_holdsNoPage`). One call on a link is therefore matched, on a link with such
replies put in between, by some calls that fail and one that comes to the same
(`Pager.next_retried`); hence a run with failures anywhere comes to the pages and to the pager of
the run without them (`Pager.nexts_retried`).
-/

namespace SellerApi

open SellerApi.Http SellerApi.Resource

/-! ## Lists with something put in -/

/-- The second list is the first one with such elements put in. -/
inductive Inserted {β : Type} (P : β → Prop) : List β → List β → Prop where
  | nil : Inserted P [] []
  | keep (x : β) {xs ys : List β} (h : Inserted P xs ys) : Inserted P (x :: xs) (x :: ys)
  | insert {y : β} (hy : P y) {xs ys : List β} (h : Inserted P xs ys) : Inserted P xs (y :: ys)

namespace Inserted

variable {β γ : Type} {P : β → Prop} {xs ys : List β}

theorem append_left (h : Inserted P xs ys) {front : List β} (hfront : ∀ y ∈ front, P y) :
    Inserted P xs (front ++ ys) := by
  induction front with
  | nil => exact h
  | cons y front ih =>
    obtain ⟨hy, hfront⟩ := List.forall_mem_cons.1 hfront
    exact .insert hy (ih hfront)

theorem filterMap_eq (h : Inserted P xs ys) {f : β → Option γ} (hf : ∀ y, P y → f y = none) :
    ys.filterMap f = xs.filterMap f := by
  induction h with
  | nil => rfl
  | keep x h ih => rw [List.filterMap_cons, List.filterMap_cons, ih]
  | insert hy h ih => rw [List.filterMap_cons_none (hf _ hy), ih]

end Inserted

/-! ## Replies without a page -/

/-- A reply that holds no page: no status of success, a body that breaks off or is no page, or no
response at all. The signal does not fire meanwhile. -/
inductive Reply.HoldsNoPage (α : Type) [Wire α] : Reply → Prop where
  | answer {x : Response} (h : page? α x = none) : HoldsNoPage α (.answer x)
  | silence : HoldsNoPage α .silence
  | hangUp : HoldsNoPage α .hangUp

namespace Reply.HoldsNoPage

variable {α : Type} [Wire α] {reply : Reply}

theorem failure (h : reply.HoldsNoPage α) :
    ∃ f, reply.result.bind (Response.decode (α := Page α)) = .error f := by
  cases h with
  | answer h => exact decode_of_page?_eq_none h
  | silence | hangUp => exact ⟨_, rfl⟩

theorem fires (h : reply.HoldsNoPage α) : reply.fires = false := by
  cases h <;> rfl

end Reply.HoldsNoPage

/-- The link with the same signal and, between the replies, some that hold no page. -/
structure Link.Retried (α : Type) [Wire α] (l m : Link) : Prop where
  replies : Inserted (Reply.HoldsNoPage α) l.replies m.replies
  fired : l.fired = m.fired

/-! ## Messages that can always be written -/

namespace Client

variable {c : Client}

/-- Whether a request can be written does not depend on how often a token source was asked. -/
def Steady (c : Client) : Prop :=
  ∀ r asked again f, c.messageOf r asked = .error f → c.messageOf r again = .error f

theorem messageOf_congr (h : ∀ token, c.credential ≠ .source token) (r : Request)
    (asked again : Nat) : c.messageOf r asked = c.messageOf r again := by
  unfold messageOf Credential.attach
  cases hcred : c.credential with
  | source token => exact absurd hcred (h token)
  | none | bearer | apiKey => rfl

theorem steady_of_ne_source (h : ∀ token, c.credential ≠ .source token) : c.Steady :=
  fun r asked again _ hf => (messageOf_congr h r again asked).trans hf

end Client

namespace Pager

variable {α : Type} [Wire α] {c : Client} {p : Pager α} {l m : Link} {x : Message}

/-! ## One call for the next page -/

omit [Wire α] in
/-- The request for the page of the token that a pager holds. -/
def request (p : Pager α) : Request := { p.call.request p.progress.token with format := .json }

omit [Wire α] in
/-- Nothing keeps the next call for a page from a request. -/
structure Open (p : Pager α) (fired : Bool) : Prop where
  running : p.progress.done = false
  below : p.isFull = false
  unfired : (p.watched && fired) = false

omit [Wire α] in
/-- The next call for a page sends this message. -/
structure Asks (p : Pager α) (c : Client) (l : Link) (x : Message) : Prop extends
    p.Open l.fired where
  writes : c.messageOf p.request l.asked = .ok x

omit [Wire α] in
/-- What a call comes to whose request came to a result, and the pager behind it. -/
def settle (p : Pager α) (result : Except Failure (Answer (Page α))) (fired : Bool) :
    Except Failure (Option (Answer (Page α))) × Pager α :=
  if p.watched && fired then (.error .cancelled, p.finish)
  else match result with
    | .error f => (.error f, p)
    | .ok page =>
      let (recorded, progress) :=
        p.progress.record page.payload.items.length page.payload.nextPageToken
      (recorded.map fun _ => some page, { p with progress })

/-- The failure or the page that a reply to a pager's request is read as. -/
def read (p : Pager α) (c : Client) (result : Except Failure Response) :
    Except Failure (Answer (Page α)) :=
  (result.bind Response.decode).mapError (Failure.underDeadline (c.deadline p.request))

theorem Open.next_eq (h : p.Open l.fired) {result : Except Failure Response} {l' : Link}
    (hsend : c.send p.request l = (result, l')) :
    p.next c l = ((p.settle (p.read c result) l'.fired).1,
      (p.settle (p.read c result) l'.fired).2, l') := by
  have hfetch : c.fetchJson (α := Page α) (p.call.request p.progress.token) l =
      (p.read c result, l') :=
    Client.fetchJson_eq_of_send (p.call.watched_request _) hsend
  simp only [next, settle, h.running, h.below, h.unfired, hfetch, Bool.false_eq_true, if_false]
  split
  · rfl
  · cases p.read c result <;> rfl

theorem Asks.next_of_replies (h : p.Asks c l x) {reply : Reply} {rest : List Reply}
    (hl : l.replies = reply :: rest) :
    p.next c l = ((p.settle (p.read c reply.result) (l.fired || reply.fires)).1,
      (p.settle (p.read c reply.result) (l.fired || reply.fires)).2,
      c.afterReply x reply rest l) :=
  h.toOpen.next_eq (Client.send_of_replies h.writes hl)

theorem Asks.next_of_no_replies (h : p.Asks c l x) (hl : l.replies = []) :
    p.next c l = (.error (.transport .unreachable), p, c.afterAsking l) := by
  rw [h.toOpen.next_eq (Client.send_of_no_replies h.writes hl)]
  have hunfired : (p.watched && (c.afterAsking l).fired) = false := h.unfired
  simp only [settle, hunfired, Bool.false_eq_true, if_false]
  rfl

/-- A reply without a page leaves the pager as it was. -/
theorem Asks.next_of_holdsNoPage (h : p.Asks c l x) {reply : Reply} {rest : List Reply}
    (hl : l.replies = reply :: rest) (hreply : reply.HoldsNoPage α) :
    ∃ f, reply.result.bind (Response.decode (α := Page α)) = .error f ∧
      p.next c l = (.error (f.underDeadline (c.deadline p.request)), p,
        c.afterReply x reply rest l) := by
  obtain ⟨f, hf⟩ := hreply.failure
  have hread : p.read c reply.result = .error (f.underDeadline (c.deadline p.request)) := by
    rw [read, hf]
    rfl
  refine ⟨f, hf, ?_⟩
  rw [h.next_of_replies hl, hread, hreply.fires, Bool.or_false]
  simp only [settle, h.unfired, Bool.false_eq_true, if_false]

theorem Asks.again (h : p.Asks c l x) {reply : Reply} (hreply : reply.HoldsNoPage α)
    (rest : List Reply) {y : Message}
    (hy : c.messageOf p.request (c.credential.askedAfter l.asked) = .ok y) :
    p.Asks c (c.afterReply x reply rest l) y := by
  refine ⟨⟨h.running, h.below, ?_⟩, hy⟩
  rw [Client.afterReply, hreply.fires, Bool.or_false]
  exact h.unfired

theorem next_of_not_open (h : ¬p.Open l.fired) :
    ∃ result q, ∀ m : Link, m.fired = l.fired → p.next c m = (result, q, m) := by
  by_cases hdone : p.progress.done = true
  · exact ⟨.ok none, p, fun m _ => if_pos hdone⟩
  by_cases hfull : p.isFull = true
  · refine ⟨.ok none, p.finish, fun m _ => ?_⟩
    rw [next, if_neg hdone, if_pos hfull]
  by_cases hcancelled : (p.watched && l.fired) = true
  · refine ⟨.error .cancelled, p.finish, fun m hm => ?_⟩
    rw [next, if_neg hdone, if_neg hfull, hm, if_pos hcancelled]
  · rw [Bool.not_eq_true] at hdone hfull hcancelled
    exact absurd ⟨hdone, hfull, hcancelled⟩ h

/-- A call that sends nothing comes to the same whatever the server is going to do. -/
theorem next_of_not_asks (hsteady : c.Steady) (h : ∀ x, ¬p.Asks c l x) :
    ∃ result q, ∀ m : Link, m.fired = l.fired →
      ∃ m', p.next c m = (result, q, m') ∧ m'.replies = m.replies ∧ m'.fired = m.fired := by
  by_cases hopen : p.Open l.fired
  · cases hwrites : c.messageOf p.request l.asked with
    | ok x => exact absurd ⟨hopen, hwrites⟩ (h x)
    | error f =>
      refine ⟨(p.settle (p.read c (.error f)) l.fired).1,
        (p.settle (p.read c (.error f)) l.fired).2, fun m hm => ?_⟩
      obtain ⟨m', hsend, hreplies, hfired⟩ :=
        Client.send_of_messageOf_error (hsteady _ _ m.asked f hwrites)
      have hopen' : p.Open m.fired := hm ▸ hopen
      refine ⟨m', ?_, hreplies, hfired⟩
      rw [hopen'.next_eq hsend, hfired, hm]
  · obtain ⟨result, q, hnext⟩ := next_of_not_open (c := c) hopen
    exact ⟨result, q, fun m hm => ⟨m, hnext m hm, rfl, rfl⟩⟩

omit [Wire α] in
theorem Asks.of_fired (h : p.Asks c l x) (hsteady : c.Steady) (hm : l.fired = m.fired) :
    ∃ y, p.Asks c m y := by
  cases hy : c.messageOf p.request m.asked with
  | ok y => exact ⟨y, hm ▸ h.toOpen, hy⟩
  | error f => exact nomatch (hsteady _ _ _ f hy).symm.trans h.writes

/-! ## Calls until one comes to the same -/

theorem nexts_add (j n : Nat) (p : Pager α) (l : Link) :
    nexts c (j + n) p l =
      ((nexts c j p l).1 ++ (nexts c n (nexts c j p l).2.1 (nexts c j p l).2.2).1,
        (nexts c n (nexts c j p l).2.1 (nexts c j p l).2.2).2) := by
  induction j generalizing p l with
  | zero => rw [Nat.zero_add]; rfl
  | succ j ih =>
    rw [Nat.succ_add]
    dsimp only [nexts]
    rw [ih]
    rfl

/-- One call on a link is matched, where replies without a page are put in between, by some calls
that fail and one that comes to the same. -/
theorem next_retried (hsteady : c.Steady) (h : l.Retried α m) :
    ∃ j failures m', nexts c j p m = (failures, p, m') ∧ (∀ y ∈ failures, ∃ f, y = .error f) ∧
      (p.next c m').1 = (p.next c l).1 ∧ (p.next c m').2.1 = (p.next c l).2.1 ∧
      Link.Retried α (p.next c l).2.2 (p.next c m').2.2 := by
  by_cases hasks : ∃ x, p.Asks c l x
  · obtain ⟨x, hasks⟩ := hasks
    obtain ⟨hreplies, hfired⟩ := h
    generalize hl : l.replies = before at hreplies
    generalize hm : m.replies = after at hreplies
    -- a reply that was put in is used up by one call more; the link behind it has the same signal
    induction hreplies generalizing m with
    | nil =>
      obtain ⟨y, hasks'⟩ := hasks.of_fired hsteady hfired
      refine ⟨0, [], m, rfl, List.forall_mem_nil _, ?_⟩
      have hnone : Inserted (Reply.HoldsNoPage α) l.replies m.replies := by
        rw [hl, hm]
        exact .nil
      rw [hasks.next_of_no_replies hl, hasks'.next_of_no_replies hm]
      exact ⟨rfl, rfl, hnone, hfired⟩
    | keep reply hrest =>
      obtain ⟨y, hasks'⟩ := hasks.of_fired hsteady hfired
      refine ⟨0, [], m, rfl, List.forall_mem_nil _, ?_⟩
      rw [hasks.next_of_replies hl, hasks'.next_of_replies hm, ← hfired]
      exact ⟨rfl, rfl, hrest, congrArg (· || reply.fires) hfired⟩
    | @insert reply hreply _ rest _ ih =>
      obtain ⟨y, hasks'⟩ := hasks.of_fired hsteady hfired
      obtain ⟨f, -, hnext⟩ := hasks'.next_of_holdsNoPage hm hreply
      have hfired' : l.fired = (c.afterReply y reply rest m).fired := by
        rw [Client.afterReply, hreply.fires, Bool.or_false, hfired]
      obtain ⟨j, failures, m', hnexts, hfailures, hsame⟩ := ih hfired' hl rfl
      refine ⟨j + 1, .error (f.underDeadline (c.deadline p.request)) :: failures, m', ?_,
        List.forall_mem_cons.2 ⟨⟨_, rfl⟩, hfailures⟩, hsame⟩
      rw [nexts, hnext]
      dsimp only
      rw [hnexts]
  · obtain ⟨result, q, hnext⟩ := next_of_not_asks (p := p) hsteady (not_exists.1 hasks)
    obtain ⟨l', hl, hlreplies, hlfired⟩ := hnext l rfl
    obtain ⟨m', hm, hmreplies, hmfired⟩ := hnext m h.fired.symm
    refine ⟨0, [], m, rfl, List.forall_mem_nil _, ?_⟩
    rw [hl, hm]
    exact ⟨rfl, rfl, hlreplies ▸ hmreplies ▸ h.replies, by rw [hlfired, hmfired, h.fired]⟩

/-- A run of calls is matched, where replies without a page are put in between, by a run that comes
to the same with some failures put in. -/
theorem nexts_inserted (hsteady : c.Steady) (h : l.Retried α m) (n : Nat) :
    ∃ k, Inserted (fun y => ∃ f, y = .error f) (nexts c n p l).1 (nexts c k p m).1 ∧
      (nexts c k p m).2.1 = (nexts c n p l).2.1 ∧
      Link.Retried α (nexts c n p l).2.2 (nexts c k p m).2.2 := by
  induction n generalizing p l m with
  | zero => exact ⟨0, .nil, rfl, h⟩
  | succ n ih =>
    obtain ⟨j, failures, m', hnexts, hfailures, hresult, hpager, hlinks⟩ :=
      next_retried (p := p) hsteady h
    obtain ⟨k, hresults, hpagers, hlinks'⟩ := ih (p := (p.next c l).2.1) hlinks
    refine ⟨j + (k + 1), ?_⟩
    rw [nexts_add j, hnexts]
    dsimp only [nexts]
    rw [hresult, hpager]
    exact ⟨.append_left (.keep _ hresults) hfailures, hpagers, hlinks'⟩

/-- The page that a call came to, if any. -/
def pageOf? : Except Failure (Option (Answer (Page α))) → Option (Answer (Page α))
  | .ok page => page
  | .error _ => none

/-- A page that fails can be asked for again. While nothing keeps a pager from a request, its next
call sends one message; a reply that holds no page is returned as its failure and leaves the pager
as it was, and the call behind it sends the message of the same request, which is the identical one
unless the token comes from a source. Hence any run of calls is matched, where any number of such
replies is put in at any places, by a run that comes to the same pages in the same order, with
failures between them, and to the same pager. -/
theorem nexts_retried (c : Client) :
    (∀ (p : Pager α) (l : Link) (x : Message), p.Asks c l x →
      (l.replies = [] →
        p.next c l = (.error (.transport .unreachable), p, c.afterAsking l)) ∧
      ∀ reply rest, l.replies = reply :: rest →
        (p.next c l).2.2.sent = l.sent ++ [x] ∧
        (reply.HoldsNoPage α →
          ∃ f l', reply.result.bind (Response.decode (α := Page α)) = .error f ∧
            p.next c l = (.error (f.underDeadline (c.deadline p.request)), p, l') ∧
            l'.replies = rest ∧ l'.fired = l.fired ∧
            (∀ y, c.messageOf p.request l'.asked = .ok y → p.Asks c l' y) ∧
            ((∀ token, c.credential ≠ .source token) → p.Asks c l' x))) ∧
    (c.Steady → ∀ (p : Pager α) (l m : Link), l.Retried α m → ∀ n, ∃ k,
      Inserted (fun y => ∃ f, y = .error f) (nexts c n p l).1 (nexts c k p m).1 ∧
      (nexts c k p m).1.filterMap pageOf? = (nexts c n p l).1.filterMap pageOf? ∧
      (nexts c k p m).2.1 = (nexts c n p l).2.1) := by
  refine ⟨fun p l x hasks => ⟨hasks.next_of_no_replies, fun reply rest hl =>
    ⟨?_, fun hreply => ?_⟩⟩, fun hsteady p l m h n => ?_⟩
  · rw [hasks.next_of_replies hl]
    rfl
  · obtain ⟨f, hf, hnext⟩ := hasks.next_of_holdsNoPage hl hreply
    refine ⟨f, _, hf, hnext, rfl, ?_, fun y hy => hasks.again hreply rest hy, fun hsource => ?_⟩
    · rw [Client.afterReply, hreply.fires, Bool.or_false]
    · refine hasks.again hreply rest ?_
      rw [Client.messageOf_congr hsource _ _ l.asked]
      exact hasks.writes
  · obtain ⟨k, hresults, hpagers, -⟩ := nexts_inserted (p := p) hsteady h n
    refine ⟨k, hresults, hresults.filterMap_eq ?_, hpagers⟩
    rintro _ ⟨f, rfl⟩
    rfl

/-- The sample pages behind a connection that breaks, with an unavailable server and a silent one
between them. -/
def unsteadyReplies : List Reply :=
  .hangUp :: sampleResponses.flatMap fun x => [.answer { status := 503 }, .silence, .answer x]

theorem nexts_retried_unsteady :
    (∃ x, (start sampleCall).Asks sampleClient { replies := unsteadyReplies } x ∧
      ∃ l', (start sampleCall).next sampleClient { replies := unsteadyReplies } =
        (.error (.transport .hungUp), start sampleCall, l') ∧
        (start sampleCall).Asks sampleClient l' x) ∧
    sampleClient.Steady ∧
    Link.Retried UrlChannel { replies := sampleResponses.map .answer }
      { replies := unsteadyReplies } ∧
    ∃ k, (nexts sampleClient k (start sampleCall) { replies := unsteadyReplies }).2.1.progress =
      { pages := 2, items := 1, done := true } := by
  have hsource : ∀ token, sampleClient.credential ≠ .source token := nofun
  have hsteady := Client.steady_of_ne_source hsource
  have hretried : Link.Retried UrlChannel { replies := sampleResponses.map .answer }
      { replies := unsteadyReplies } := by
    refine ⟨.insert .hangUp ?_, rfl⟩
    dsimp only
    induction sampleResponses with
    | nil => exact .nil
    | cons x rest ih => exact .insert (.answer rfl) (.insert .silence (.keep _ ih))
  obtain ⟨hstep, hrun⟩ := nexts_retried (α := UrlChannel) sampleClient
  have hopen : (start sampleCall).Open false := ⟨rfl, rfl, rfl⟩
  have hwrites : ∃ x, sampleClient.messageOf (start sampleCall).request 0 = .ok x := by
    have hok : (sampleClient.messageOf (start sampleCall).request 0).toOption.isSome := by
      decide +kernel
    cases hx : sampleClient.messageOf (start sampleCall).request 0 with
    | ok x => exact ⟨x, rfl⟩
    | error f => rw [hx] at hok; cases hok
  obtain ⟨x, hx⟩ := hwrites
  have hasks : (start sampleCall).Asks sampleClient { replies := unsteadyReplies } x := ⟨hopen, hx⟩
  obtain ⟨f, l', hf, hnext, -, -, -, hagain⟩ :=
    ((hstep _ _ x hasks).2 .hangUp _ rfl).2 .hangUp
  cases hf
  obtain ⟨k, -, -, hpager⟩ := hrun hsteady (start sampleCall) _ _ hretried 2
  have hprogress : (nexts sampleClient 2 (start sampleCall)
      { replies := sampleResponses.map .answer }).2.1.progress =
        { pages := 2, items := 1, done := true } := by
    decide +kernel
  refine ⟨⟨x, hasks, l', hnext, hagain hsource⟩, hsteady, hretried, k, ?_⟩
  rw [hpager]
  exact hprogress

end Pager
end SellerApi
