import SellerApi.Proofs.Listing.Turn

/-! # Listings that a signal ends

The caller's signal may fire before any call for a page, or while one is under way: `nextsAmid` and
`collectAmid` are the calls of a run with marks that say before which of them it fires, and a reply
may be an interruption. A signal that fires while a call waits to send its message ends the call as
one that fired just before it. The first call that finds the signal fired, or during which it fires,
is cancelled and records nothing; no later one sends anything (`Pager.nexts_cancelled`). Whoever
gathers all items never takes such a run for a complete one.
-/

namespace SellerApi

open SellerApi.Http SellerApi.Resource

/-- The link when the signal fires, if it does so now. -/
def Link.firedIf (l : Link) (now : Bool) : Link := if now then l.fire else l

namespace Link

@[simp] theorem firedIf_false (l : Link) : l.firedIf false = l := rfl

@[simp] theorem sent_firedIf (l : Link) (now : Bool) : (l.firedIf now).sent = l.sent := by
  cases now <;> rfl

@[simp] theorem replies_firedIf (l : Link) (now : Bool) :
    (l.firedIf now).replies = l.replies := by
  cases now <;> rfl

@[simp] theorem fired_firedIf (l : Link) (now : Bool) :
    (l.firedIf now).fired = (l.fired || now) := by
  cases now with
  | false => exact (Bool.or_false _).symm
  | true => exact (Bool.or_true _).symm

theorem Alike.firedIf {l m : Link} (h : l.Alike m) (now : Bool) : (l.firedIf now).Alike m := by
  cases now <;> exact ⟨h.replies, h.asked⟩

end Link

namespace Pager

variable {α : Type} [Wire α] {c : Client} {p q : Pager α} {l l' : Link}
  {result : Except Failure (Option (Answer (Page α)))}

/-! ## Runs with a signal -/

/-- What calls for the next page come to, one for each mark. Where the mark is set, the signal fires
before the call. -/
def nextsAmid (c : Client) :
    List Bool → Pager α → Link → List (Except Failure (Option (Answer (Page α)))) × Pager α × Link
  | [], p, l => ([], p, l)
  | now :: marks, p, l =>
    let (result, p, l) := p.next c (l.firedIf now)
    let (results, rest) := nextsAmid c marks p l
    (result :: results, rest)

/-- The items of all pages still to come, or what stops the listing, where the signal fires before
the calls whose marks are set. -/
def collectAmid (c : Client) (marks : List Bool) (p : Pager α) (l : Link) :
    Except Failure (List α) × Link :=
  match _ : p.next c (l.firedIf (marks.headD false)) with
  | (.ok none, _, l) => (.ok [], l)
  | (.error f, _, l) => (.error f, l)
  | (.ok (some page), p, l) =>
    let (later, l) := p.collectAmid c marks.tail l
    (later.map (page.payload.items ++ ·), l)
termination_by l.replies.length
decreasing_by
  rename_i hnext
  have hlt := length_replies_of_next_ok hnext
  rwa [Link.replies_firedIf] at hlt

theorem collectAmid_of_next_error (marks : List Bool) {f : Failure}
    (h : p.next c (l.firedIf (marks.headD false)) = (.error f, q, l')) :
    p.collectAmid c marks l = (.error f, l') := by
  rw [collectAmid]
  split <;> simp_all

theorem collectAmid_of_next_none (marks : List Bool)
    (h : p.next c (l.firedIf (marks.headD false)) = (.ok none, q, l')) :
    p.collectAmid c marks l = (.ok [], l') := by
  rw [collectAmid]
  split <;> simp_all

theorem collectAmid_of_next_ok (marks : List Bool) {page : Answer (Page α)}
    (h : p.next c (l.firedIf (marks.headD false)) = (.ok (some page), q, l')) :
    p.collectAmid c marks l =
      ((q.collectAmid c marks.tail l').1.map (page.payload.items ++ ·),
        (q.collectAmid c marks.tail l').2) := by
  rw [collectAmid]
  split <;> simp_all

theorem collectAmid_of_quiet {marks : List Bool} (hquiet : ∀ now ∈ marks, now = false)
    (c : Client) (p : Pager α) (l : Link) : p.collectAmid c marks l = p.collect c l := by
  induction hreplies : l.replies.length using Nat.strongRecOn generalizing p l marks with
  | _ n ih =>
    have hhead : l.firedIf (marks.headD false) = l := by
      cases marks with
      | nil => rfl
      | cons now marks => rw [List.headD_cons, hquiet now List.mem_cons_self, Link.firedIf_false]
    rcases hnext : p.next c l with ⟨f | _ | page, q, l'⟩
    · rw [collectAmid_of_next_error marks (hhead.symm ▸ hnext), collect_of_next_error hnext]
    · rw [collectAmid_of_next_none marks (hhead.symm ▸ hnext), collect, pages_of_next_none hnext]
      rfl
    · rcases hlater : q.collect c l' with ⟨result, l''⟩
      have htail : ∀ now ∈ marks.tail, now = false := fun now hnow =>
        hquiet now (List.mem_of_mem_tail hnow)
      rw [collectAmid_of_next_ok marks (hhead.symm ▸ hnext), collect_of_next_ok hnext hlater,
        ih _ (hreplies ▸ length_replies_of_next_ok hnext) htail q l' rfl, hlater]

/-! ## The call that meets the signal -/

/-- A call that finds the signal fired, or during which it fires, is cancelled. Only in the latter
case it has sent a message. -/
theorem Turn.cancelled_of_fired (h : Turn c p l result q l') (hwatched : p.watched = true)
    (hrunning : p.progress.done = false) (hbelow : p.isFull = false)
    (hfired : l.fired = true ∨ l'.fired = true) :
    result = .error .cancelled ∧ q = p.finish ∧ (l.fired = true → l' = l) := by
  have hunfired : p.Open l.fired → l.fired = false := by
    intro hopen
    have hunfired := hopen.unfired
    rwa [hwatched, Bool.true_and] at hunfired
  cases h with
  | ended hdone => exact nomatch hrunning.symm.trans hdone
  | full _ hfull => exact nomatch hbelow.symm.trans hfull
  | cancelled => exact ⟨rfl, rfl, fun _ => rfl⟩
  | interrupted hopen => exact ⟨rfl, rfl, fun hl => nomatch (hunfired hopen).symm.trans hl⟩
  | failed hopen _ _ _ hquiet =>
    rw [hwatched, Bool.true_and] at hquiet
    rcases hfired with hfired | hfired
    · exact nomatch (hunfired hopen).symm.trans hfired
    · exact nomatch hquiet.symm.trans hfired
  | received hopen _ _ hsame =>
    rw [hsame, or_self] at hfired
    exact nomatch (hunfired hopen).symm.trans hfired

/-- Behind a call that leaves the listing running the signal has not fired. -/
theorem Turn.unfired_of_running (h : Turn c p l result q l') (hwatched : p.watched = true)
    (hrunning : q.progress.done = false) : l'.fired = false := by
  cases h with
  | ended hdone => exact nomatch hrunning.symm.trans hdone
  | full | cancelled | interrupted => cases hrunning
  | failed _ _ _ _ hunfired =>
    rwa [hwatched, Bool.true_and] at hunfired
  | received hopen _ _ hsame =>
    have hunfired := hopen.unfired
    rw [hwatched, Bool.true_and] at hunfired
    exact hsame.trans hunfired

theorem Turn.done_of_none (h : Turn c p l (.ok none) q l') : q.progress.done = true := by
  generalize hresult : Except.ok none = result at h
  cases h with
  | ended hdone => exact hdone
  | full => rfl
  | cancelled | interrupted | failed => cases hresult
  | @received m x page _ =>
    generalize p.progress.record page.items.length page.nextPageToken = recorded at hresult
    obtain ⟨f | continuation, progress⟩ := recorded <;> cases hresult

/-- Behind the end of a listing a signal changes nothing, and nothing is sent. -/
theorem nextsAmid_of_done (h : p.progress.done = true) (c : Client) (marks : List Bool)
    (l : Link) : ∃ l', nextsAmid c marks p l = (List.replicate marks.length (.ok none), p, l') ∧
      l'.sent = l.sent ∧ l'.replies = l.replies := by
  induction marks generalizing l with
  | nil => exact ⟨l, rfl, rfl, rfl⟩
  | cons now marks ih =>
    obtain ⟨l', hnexts, hsent, hreplies⟩ := ih (l.firedIf now)
    refine ⟨l', ?_, hsent.trans (l.sent_firedIf now), hreplies.trans (l.replies_firedIf now)⟩
    rw [nextsAmid, next, if_pos h]
    dsimp only
    rw [hnexts, List.length_cons, List.replicate_succ]

/-- As long as a listing is running behind some calls, the signal has fired before none of them. -/
theorem unfired_of_nextsAmid (hwatched : p.watched = true) (now : Bool) (marks : List Bool)
    (hrunning : (nextsAmid c (now :: marks) p l).2.1.progress.done = false) :
    (nextsAmid c (now :: marks) p l).2.2.fired = false := by
  induction marks generalizing p l now with
  | nil => exact (turn c p (l.firedIf now)).unfired_of_running hwatched hrunning
  | cons again marks ih =>
    have hturn := turn c p (l.firedIf now)
    exact ih (hturn.watched_eq.trans hwatched) again hrunning

/-- The failure that a call came to. -/
def failureOf? : Except Failure (Option (Answer (Page α))) → Option Failure
  | .ok _ => none
  | .error f => some f

/-- Whoever gathers all items fails with the first call that does, if the listing is running until
a call fails. -/
theorem collectAmid_append {before after : List Bool}
    {results : List (Except Failure (Option (Answer (Page α))))}
    (hrun : nextsAmid c before p l = (results, q, l')) (hrunning : q.progress.done = false)
    {f : Failure} (hfail : (q.collectAmid c after l').1 = .error f) :
    (p.collectAmid c (before ++ after) l).1 = .error ((results.findSome? failureOf?).getD f) := by
  induction before generalizing p l results with
  | nil =>
    cases hrun
    exact hfail
  | cons now marks ih =>
    rcases hnext : p.next c (l.firedIf now) with ⟨first, p', l₁⟩
    rcases hrest : nextsAmid c marks p' l₁ with ⟨later, q', l₂⟩
    have hturn := turn_of_next hnext
    rw [nextsAmid, hnext] at hrun
    dsimp only at hrun
    rw [hrest] at hrun
    cases hrun
    rcases first with f' | _ | page
    · rw [List.cons_append, collectAmid_of_next_error (now :: (marks ++ after)) hnext]
      rfl
    · obtain ⟨l₃, hdone, -⟩ := nextsAmid_of_done hturn.done_of_none c marks l₁
      rw [hrest] at hdone
      cases hdone
      exact nomatch hrunning.symm.trans hturn.done_of_none
    · rw [List.cons_append, collectAmid_of_next_ok (now :: (marks ++ after)) hnext,
        List.tail_cons, ih hrest]
      rfl

theorem watched_nextsAmid (c : Client) (marks : List Bool) (p : Pager α) (l : Link) :
    (nextsAmid c marks p l).2.1.watched = p.watched := by
  induction marks generalizing p l with
  | nil => rfl
  | cons now marks ih => exact (ih _ _).trans (turn c p (l.firedIf now)).watched_eq

/-! ## Listings that are complete -/

section

omit [Wire α]

/-- The pager without a signal. -/
def unwatched (p : Pager α) : Pager α := { p with watched := false }

@[simp] theorem call_unwatched (p : Pager α) : p.unwatched.call = p.call := rfl

@[simp] theorem progress_unwatched (p : Pager α) : p.unwatched.progress = p.progress := rfl

@[simp] theorem isFull_unwatched (p : Pager α) : p.unwatched.isFull = p.isFull := rfl

@[simp] theorem watched_unwatched (p : Pager α) : p.unwatched.watched = false := rfl

end

/-- A call that does not fail comes to the same without a signal. -/
theorem next_unwatched {found : Option (Answer (Page α))} (h : p.next c l = (.ok found, q, l'))
    {m : Link} (hl : l.Alike m) :
    ∃ m', p.unwatched.next c m = (.ok found, q.unwatched, m') ∧ l'.Alike m' := by
  obtain ⟨hresult, hlinks⟩ := Client.fetchJson_inStep (α := Page α) (c := c) hl
    (p.call.watched_request p.progress.token)
  rcases hfetch : c.fetchJson (α := Page α) (p.call.request p.progress.token) l with ⟨fetched, l₁⟩
  rcases hfetch' : c.fetchJson (α := Page α) (p.call.request p.progress.token) m with ⟨same, m₁⟩
  rw [hfetch, hfetch'] at hresult hlinks
  obtain rfl : fetched = same := hresult
  simp only [next, hfetch] at h
  simp only [next, call_unwatched, progress_unwatched, isFull_unwatched, watched_unwatched,
    Bool.false_and, Bool.false_eq_true, if_false, hfetch']
  split_ifs at h ⊢
  · cases h
    exact ⟨m, rfl, hl⟩
  · cases h
    exact ⟨m, rfl, hl⟩
  · cases h
  · cases h
  · cases fetched with
    | error f => cases h
    | ok page =>
      obtain ⟨hfound, hq⟩ := Prod.mk.inj h
      obtain ⟨rfl, rfl⟩ := Prod.mk.inj hq
      exact ⟨m₁, by rw [← hfound]; rfl, hlinks.alike⟩

/-- Items that are gathered amid a signal are those of the complete listing. -/
theorem collect_of_collectAmid {marks : List Bool} {items : List α}
    (h : (p.collectAmid c marks l).1 = .ok items) {m : Link} (hl : l.Alike m) :
    (p.unwatched.collect c m).1 = .ok items := by
  induction hreplies : l.replies.length using Nat.strongRecOn generalizing p l m marks items with
  | _ n ih =>
    rcases hnext : p.next c (l.firedIf (marks.headD false)) with ⟨f | _ | page, q, l'⟩
    · rw [collectAmid_of_next_error marks hnext] at h
      cases h
    · obtain ⟨m', hnext', -⟩ := next_unwatched hnext (hl.firedIf _)
      rw [collectAmid_of_next_none marks hnext] at h
      rw [collect, pages_of_next_none hnext']
      exact h
    · obtain ⟨m', hnext', hl'⟩ := next_unwatched hnext (hl.firedIf _)
      have hlt := length_replies_of_next_ok hnext
      rw [Link.replies_firedIf, hreplies] at hlt
      rw [collectAmid_of_next_ok marks hnext] at h
      rcases hlater : q.collectAmid c marks.tail l' with ⟨f | later, l₂⟩
      · rw [hlater] at h
        cases h
      · have hrest := ih _ hlt (by rw [hlater]) hl' rfl
        rcases hcollect : q.unwatched.collect c m' with ⟨result, m₂⟩
        rw [hcollect] at hrest
        rw [collect_of_next_ok hnext' hcollect, show result = .ok later from hrest]
        rw [hlater] at h
        exact h

/-- After any calls, between which the signal may have fired, let a listing be neither at its end
nor at its limit, and let the signal fire before its next call or during it. This call is the first
one that meets the signal. It is cancelled, it records nothing, and unless the signal fires only
while the request is under way it sends nothing; neither does any later call, and these come to no
page. Whoever gathers all items gets the failure of the first call that failed, at the latest this
one's; and the items that are gathered in whatever run are those of the complete listing. -/
theorem nexts_cancelled (hwatched : p.watched = true) {before : List Bool}
    {results : List (Except Failure (Option (Answer (Page α))))} {l₁ : Link}
    (hrun : nextsAmid c before p l = (results, q, l₁)) (hrunning : q.progress.done = false)
    (hbelow : q.isFull = false) (now : Bool) {q' : Pager α} {l₂ : Link}
    (hnext : q.next c (l₁.firedIf now) = (result, q', l₂))
    (hfired : l₁.fired = true ∨ now = true ∨ l₂.fired = true) :
    (before ≠ [] → l₁.fired = false) ∧ result = .error .cancelled ∧
      q'.progress = { q.progress with done := true } ∧
      (l₁.fired = true ∨ now = true → l₂.sent = l₁.sent ∧ l₂.replies = l₁.replies) ∧
      (∀ marks, ∃ l₃,
        nextsAmid c marks q' l₂ = (List.replicate marks.length (.ok none), q', l₃) ∧
        l₃.sent = l₂.sent ∧ l₃.replies = l₂.replies) ∧
      (∀ after, (p.collectAmid c (before ++ now :: after) l).1 =
        .error ((results.findSome? failureOf?).getD .cancelled)) ∧
      ∀ marks items, (p.collectAmid c marks l).1 = .ok items →
        (p.unwatched.collect c l).1 = .ok items := by
  have hq : q.watched = true := by
    have hkept := watched_nextsAmid c before p l
    rw [hrun, hwatched] at hkept
    exact hkept
  have hentry : l₁.fired = true ∨ now = true ↔ (l₁.firedIf now).fired = true := by
    rw [Link.fired_firedIf, Bool.or_eq_true]
  obtain ⟨rfl, rfl, hlink⟩ := (turn_of_next hnext).cancelled_of_fired hq hrunning hbelow
    (by rwa [← hentry, or_assoc])
  refine ⟨fun hbefore => ?_, rfl, rfl, fun hl => ?_, fun marks => ?_, fun after => ?_,
    fun marks items h => collect_of_collectAmid h (.refl l)⟩
  · obtain ⟨first, marks, rfl⟩ := List.exists_cons_of_ne_nil hbefore
    have hunfired := unfired_of_nextsAmid (c := c) (l := l) hwatched first marks (by rwa [hrun])
    rwa [hrun] at hunfired
  · rw [hlink (hentry.1 hl), Link.sent_firedIf, Link.replies_firedIf]
    exact ⟨rfl, rfl⟩
  · exact nextsAmid_of_done rfl c marks l₂
  · refine collectAmid_append hrun hrunning ?_
    rw [collectAmid_of_next_error (now :: after) hnext]

/-- A page with a token to go on with, a signal that fires, and an answer that nobody waits for. -/
def interruptedReplies : List Reply :=
  sampleResponses.head?.toList.map .answer ++ [.interruption, .answer { status := 200 }]

theorem nexts_cancelled_interrupted : (start watchedCall).watched = true ∧
    ∃ results q l₁ q' l₂,
      nextsAmid sampleClient [false] (start watchedCall) { replies := interruptedReplies } =
        (results, q, l₁) ∧
      q.next sampleClient l₁ = (.error .cancelled, q', l₂) ∧ l₂.sent.length = 2 ∧
      q'.progress = { pages := 1, token := some "b", done := true } ∧
      ((start watchedCall).collect sampleClient { replies := interruptedReplies }).1 =
        .error .cancelled ∧
      (q.next sampleClient l₁.fire).2.2.sent = l₁.sent := by
  have hone :
      let run :=
        nextsAmid sampleClient [false] (start watchedCall) { replies := interruptedReplies }
      run.2.1.progress = { pages := 1, token := some "b" } ∧ run.2.1.isFull = false ∧
        (run.1.findSome? failureOf?).isNone = true ∧
        (run.2.1.next sampleClient run.2.2).2.2.fired = true ∧
        (run.2.1.next sampleClient run.2.2).2.2.sent.length = 2 := by
    decide +kernel
  rcases hrun : nextsAmid sampleClient [false] (start watchedCall) { replies := interruptedReplies }
    with ⟨results, q, l₁⟩
  rcases hnext : q.next sampleClient l₁ with ⟨result, q', l₂⟩
  rw [hrun] at hone
  dsimp only at hone
  rw [hnext] at hone
  obtain ⟨hprogress, hbelow, hnone, hfired, hsent⟩ := hone
  have hrunning : q.progress.done = false := by rw [hprogress]
  -- the signal fires while the second request is under way
  obtain ⟨-, rfl, hq', -, -, hcollect, -⟩ := nexts_cancelled (p := start watchedCall) rfl
    hrun hrunning hbelow false hnext (.inr (.inr hfired))
  -- or just before it
  rcases hearlier : q.next sampleClient l₁.fire with ⟨result, q'', l₃⟩
  obtain ⟨-, -, -, hsilent, -⟩ := nexts_cancelled (p := start watchedCall) rfl hrun hrunning
    hbelow true hearlier (.inr (.inl rfl))
  have hquiet : ∀ now ∈ [false, false], now = false := by decide
  refine ⟨rfl, results, q, l₁, q', l₂, rfl, hnext, hsent, ?_, ?_, ?_⟩
  · rw [hq', hprogress]
  · rw [← collectAmid_of_quiet hquiet]
    have hfirst := hcollect []
    rwa [Option.isNone_iff_eq_none.1 hnone] at hfirst
  · rw [hearlier]
    exact (hsilent (.inr rfl)).1

end Pager
end SellerApi
