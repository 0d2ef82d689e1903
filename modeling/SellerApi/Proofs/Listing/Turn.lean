import SellerApi.Proofs.Listing.Retry

/-! # How a call for the next page goes

A call for the next page comes to nothing because the listing is at its end or its limit is reached;
it is cancelled before or while its request is under way; it fails and leaves the pager as it was;
or it receives a page, which is recorded. `Pager.Turn` has a case for each of these with what the
call used up, and every call is one of them (`Pager.turn`).
-/

namespace SellerApi

open SellerApi.Http SellerApi.Resource

/-! ## Pages among replies -/

section

variable (α : Type) [Wire α]

/-- The page that a reply holds. -/
def Reply.page? : Reply → Option (Page α)
  | .answer x => SellerApi.page? α x
  | _ => none

/-- The pages that replies hold, in order. -/
def pagesOf (replies : List Reply) : List (Page α) := replies.filterMap (Reply.page? α)

end

section

variable {α : Type} [Wire α]

theorem pagesOf_append (used more : List Reply) :
    pagesOf α (used ++ more) = pagesOf α used ++ pagesOf α more :=
  List.filterMap_append

theorem pagesOf_answer {x : Response} {page : Page α} (h : page? α x = some page) :
    pagesOf α [.answer x] = [page] :=
  List.filterMap_cons_some h

theorem Reply.holdsNoPage_iff {reply : Reply} :
    reply.HoldsNoPage α ↔ reply.page? α = none ∧ reply.fires = false := by
  constructor
  · rintro (h | _ | _)
    · exact ⟨h, rfl⟩
    · exact ⟨rfl, rfl⟩
    · exact ⟨rfl, rfl⟩
  · rintro ⟨hpage, hfires⟩
    cases reply with
    | answer x => exact .answer hpage
    | silence => exact .silence
    | hangUp => exact .hangUp
    | interruption => cases hfires

end

/-! ## Signals that do not fire -/

/-- A signal that neither has fired nor is going to. -/
structure Link.Quiet (l : Link) : Prop where
  unfired : l.fired = false
  fires : ∀ reply ∈ l.replies, reply.fires = false

theorem Link.Quiet.fires_exchanged {l l' : Link} (h : l.Quiet) {messages : List Message}
    {used : List Reply} (hl' : l.Exchanged l' messages used) :
    (∀ reply ∈ used, reply.fires = false) ∧ ∀ reply ∈ l'.replies, reply.fires = false :=
  List.forall_mem_append.1 fun reply hreply => h.fires reply (hl'.replies ▸ hreply)

/-! ## Recorded pages -/

namespace Progress

variable (p : Progress) (items : Nat) (next : Option String)

theorem counts_record : (p.record items next).2.pages = p.pages + 1 ∧
    (p.record items next).2.items = p.items + items := by
  unfold record
  cases Continuation.ofToken next with
  | done => exact ⟨rfl, rfl⟩
  | more token =>
    dsimp only
    split <;> exact ⟨rfl, rfl⟩

@[simp] theorem pages_record : (p.record items next).2.pages = p.pages + 1 :=
  (p.counts_record items next).1

@[simp] theorem items_record : (p.record items next).2.items = p.items + items :=
  (p.counts_record items next).2

end Progress

namespace Pager

variable {α : Type} [Wire α] {c : Client} {p q : Pager α} {l l' : Link}
  {result : Except Failure (Option (Answer (Page α)))}

/-! ## One call -/

/-- How one call for the next page goes. -/
inductive Turn (c : Client) (p : Pager α) (l : Link) :
    Except Failure (Option (Answer (Page α))) → Pager α → Link → Prop where
  | ended (h : p.progress.done = true) : Turn c p l (.ok none) p l
  | full (hrunning : p.progress.done = false) (h : p.isFull = true) :
    Turn c p l (.ok none) p.finish l
  /-- The signal has fired before the call. -/
  | cancelled (hrunning : p.progress.done = false) (hbelow : p.isFull = false)
    (hwatched : p.watched = true) (hfired : l.fired = true) :
    Turn c p l (.error .cancelled) p.finish l
  /-- The signal fires while the request is under way. -/
  | interrupted {m : Message} {reply : Reply} {l' : Link} (hopen : p.Open l.fired)
    (hwatched : p.watched = true) (hl' : l.Exchanged l' [m] [reply])
    (hfires : reply.fires = true) (hfired : l'.fired = true) :
    Turn c p l (.error .cancelled) p.finish l'
  /-- Nothing was sent, or the reply holds no page. -/
  | failed {f : Failure} {messages : List Message} {used : List Reply} {l' : Link}
    (hopen : p.Open l.fired) (hl' : l.Exchanged l' messages used) (hone : used.length ≤ 1)
    (hnone : pagesOf α used = []) (hunfired : (p.watched && l'.fired) = false) :
    Turn c p l (.error f) p l'
  | received {m : Message} {x : Response} {page : Page α} {l' : Link} (hopen : p.Open l.fired)
    (hl' : l.Exchanged l' [m] [.answer x]) (hpage : page? α x = some page)
    (hfired : l'.fired = l.fired) :
    Turn c p l
      ((p.progress.record page.items.length page.nextPageToken).1.map fun _ =>
        some ⟨x.status, x.headers, page⟩)
      { p with progress := (p.progress.record page.items.length page.nextPageToken).2 } l'

/-- A request that was not sent leaves the pager as it was. -/
private theorem Open.turn_unsent (h : p.Open l.fired) {f : Failure}
    (hsend : c.send p.request l = (.error f, l')) (hl' : l'.sent = l.sent ∧ l'.replies = l.replies)
    (hfired : l'.fired = l.fired) :
    Turn c p l (p.next c l).1 (p.next c l).2.1 (p.next c l).2.2 := by
  have hunfired : (p.watched && l'.fired) = false := hfired ▸ h.unfired
  rw [h.next_eq hsend]
  simp only [settle, hunfired, Bool.false_eq_true, if_false]
  exact .failed h (.none hl'.1 hl'.2) (Nat.zero_le 1) rfl hunfired

private theorem Asks.turn {x : Message} (h : p.Asks c l x) {reply : Reply} {rest : List Reply}
    (hl : l.replies = reply :: rest) :
    Turn c p l (p.next c l).1 (p.next c l).2.1 (p.next c l).2.2 := by
  have hl' : l.Exchanged (c.afterReply x reply rest l) [x] [reply] := ⟨rfl, hl, rfl⟩
  by_cases hfires : reply.fires = true
  · have hfired : (c.afterReply x reply rest l).fired = true := by
      rw [Client.afterReply, hfires, Bool.or_true]
    rw [h.next_of_replies hl, hfires, Bool.or_true]
    cases hwatched : p.watched with
    | true =>
      simp only [settle, hwatched, Bool.and_self, if_true]
      exact .interrupted h.toOpen hwatched hl' hfires hfired
    | false =>
      obtain rfl : reply = .interruption := by
        cases reply <;> first | rfl | cases hfires
      simp only [settle, hwatched, Bool.false_and, Bool.false_eq_true, if_false]
      exact .failed h.toOpen hl' (Nat.le_refl 1) rfl (by rw [hwatched, Bool.false_and])
  have hquiet : reply.fires = false := Bool.eq_false_iff.2 hfires
  have hfired : (c.afterReply x reply rest l).fired = l.fired := by
    rw [Client.afterReply, hquiet, Bool.or_false]
  cases hpage : reply.page? α with
  | none =>
    obtain ⟨f, -, hnext⟩ := h.next_of_holdsNoPage hl (Reply.holdsNoPage_iff.2 ⟨hpage, hquiet⟩)
    rw [hnext]
    exact .failed h.toOpen hl' (Nat.le_refl 1) (List.filterMap_cons_none hpage)
      (hfired ▸ h.unfired)
  | some page =>
    cases reply with
    | answer r =>
      have hread : p.read c (Reply.answer r).result = .ok ⟨r.status, r.headers, page⟩ := by
        rw [read, Reply.result, Except.bind, decode_of_page?_eq_some hpage]
        rfl
      rw [h.next_of_replies hl, hread, hquiet, Bool.or_false]
      simp only [settle, h.unfired, Bool.false_eq_true, if_false]
      exact .received h.toOpen hl' hpage hfired
    | silence | hangUp | interruption => cases hpage

theorem turn (c : Client) (p : Pager α) (l : Link) :
    Turn c p l (p.next c l).1 (p.next c l).2.1 (p.next c l).2.2 := by
  by_cases hdone : p.progress.done = true
  · rw [next, if_pos hdone]
    exact .ended hdone
  have hrunning := Bool.eq_false_iff.2 hdone
  by_cases hfull : p.isFull = true
  · rw [next, if_neg hdone, if_pos hfull]
    exact .full hrunning hfull
  have hbelow := Bool.eq_false_iff.2 hfull
  by_cases hfired : (p.watched && l.fired) = true
  · rw [next, if_neg hdone, if_neg hfull, if_pos hfired]
    obtain ⟨hwatched, hfired⟩ := (Bool.and_eq_true _ _).mp hfired
    exact .cancelled hrunning hbelow hwatched hfired
  have hopen : p.Open l.fired := ⟨hrunning, hbelow, Bool.eq_false_iff.2 hfired⟩
  cases hwrites : c.messageOf p.request l.asked with
  | error f =>
    cases hdraft : c.draft p.request with
    | error g => exact hopen.turn_unsent (by rw [Client.send, hdraft]) ⟨rfl, rfl⟩ rfl
    | ok d => exact hopen.turn_unsent (Client.send_of_unwritten hdraft hwrites) ⟨rfl, rfl⟩ rfl
  | ok x =>
    have hasks : p.Asks c l x := ⟨hopen, hwrites⟩
    cases hreplies : l.replies with
    | nil => exact hopen.turn_unsent (Client.send_of_no_replies hwrites hreplies) ⟨rfl, rfl⟩ rfl
    | cons reply rest => exact hasks.turn hreplies

theorem turn_of_next (h : p.next c l = (result, q, l')) : Turn c p l result q l' := by
  have hturn := turn c p l
  rwa [h] at hturn

theorem Turn.maxPages_eq (h : Turn c p l result q l') : q.maxPages = p.maxPages := by
  cases h <;> rfl

theorem Turn.watched_eq (h : Turn c p l result q l') : q.watched = p.watched := by
  cases h <;> rfl

/-- A signal that is not going to fire stays so. -/
theorem Turn.quiet (h : Turn c p l result q l') (hquiet : p.watched = true → l.Quiet)
    (hq : q.watched = true) : l'.Quiet := by
  have hl := hquiet (h.watched_eq ▸ hq)
  cases h with
  | ended | full | cancelled => exact hl
  | interrupted _ _ hl' hfires =>
    have hnone := List.forall_mem_singleton.1 (hl.fires_exchanged hl').1
    exact nomatch hnone.symm.trans hfires
  | failed _ hl' _ _ hunfired =>
    rw [hq, Bool.true_and] at hunfired
    exact ⟨hunfired, (hl.fires_exchanged hl').2⟩
  | received _ hl' _ hfired => exact ⟨hfired.trans hl.unfired, (hl.fires_exchanged hl').2⟩

/-! ## Calls without a page to come -/

/-- At the end of a listing, or where its limit is reached, calls come to nothing and send
nothing. -/
theorem nexts_of_over (h : p.progress.done = true ∨ p.isFull = true) (n : Nat) (l : Link) :
    ∃ q, nexts c n p l = (List.replicate n (.ok none), q, l) := by
  induction n generalizing p with
  | zero => exact ⟨p, rfl⟩
  | succ n ih =>
    by_cases hdone : p.progress.done = true
    · obtain ⟨q, hq⟩ := ih (.inl hdone)
      refine ⟨q, ?_⟩
      rw [nexts, next, if_pos hdone]
      dsimp only
      rw [hq, List.replicate_succ]
    · have hfull : p.isFull = true := h.resolve_left hdone
      obtain ⟨q, hq⟩ := ih (p := p.finish) (.inl rfl)
      refine ⟨q, ?_⟩
      rw [nexts, next, if_neg hdone, if_pos hfull]
      dsimp only
      rw [hq, List.replicate_succ]

end Pager
end SellerApi
