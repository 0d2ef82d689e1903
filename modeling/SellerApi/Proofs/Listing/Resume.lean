import SellerApi.Proofs.Client.Alike
import SellerApi.Proofs.Listing.Step

/-! # Listings that are cut and resumed

Of all that lies behind a pager only its token decides how it goes on. A new pager on the same call
that starts at the token of a pager on its way is behind it by some pages and otherwise the same
(`Pager.Follows`). One call for the next page keeps it so (`Pager.next_follows`), hence so does any
number of calls: they come to the same and send the same messages (`Pager.nexts_resumed`). Only the
failure of a repeated token tells the two apart, because it names the number of the page.
-/

namespace SellerApi

open SellerApi.Http SellerApi.Resource

/-- The same result, but that the page whose token is a repeated one may have a number that is by
so much higher. -/
inductive Renumbered {β : Type} (before : Nat) : Except Failure β → Except Failure β → Prop where
  | same (result : Except Failure β) : Renumbered before result result
  | repeated (n : Nat) :
    Renumbered before (.error (Progress.repeatedToken (before + n)))
      (.error (Progress.repeatedToken n))

theorem Renumbered.map {β γ : Type} {before : Nat} {x y : Except Failure β}
    (h : Renumbered before x y) (f : β → γ) : Renumbered before (x.map f) (y.map f) := by
  cases h with
  | same result => exact .same _
  | repeated n => exact .repeated n

/-! ## Progress -/

namespace Progress

/-- Progress that is the same but for the pages and the items behind it, which are so many pages
more on the left. -/
structure Follows (before : Nat) (a b : Progress) : Prop where
  token : a.token = b.token
  done : a.done = b.done
  pages : a.pages = before + b.pages

theorem Follows.record {before : Nat} {a b : Progress} (h : Follows before a b) (items : Nat)
    (next : Option String) :
    Renumbered before (a.record items next).1 (b.record items next).1 ∧
      Follows before (a.record items next).2 (b.record items next).2 := by
  have hpages : a.pages + 1 = before + (b.pages + 1) := by rw [h.pages, Nat.add_assoc]
  unfold Progress.record
  cases Continuation.ofToken next with
  | done => exact ⟨.same _, rfl, rfl, hpages⟩
  | more token =>
    by_cases hagain : b.token = some token
    · simp only [h.token, hagain, hpages, if_true]
      exact ⟨.repeated _, rfl, rfl, rfl⟩
    · simp only [h.token, hagain, if_false]
      exact ⟨.same _, rfl, h.done, hpages⟩

end Progress

namespace Pager

variable {α : Type} [Wire α] {c : Client} {call : ListCall α} {p q : Pager α} {l m : Link}

/-! ## One call for the next page -/

omit [Wire α] in
/-- Two pagers that ask for the same pages, the left one with so many pages more behind it. -/
structure Follows (before : Nat) (p q : Pager α) : Prop where
  request : ∀ token, p.call.request token = q.call.request token
  unlimited : p.maxPages = none ∧ q.maxPages = none
  unwatched : p.watched = false ∧ q.watched = false
  progress : p.progress.Follows before q.progress

omit [Wire α] in
theorem Follows.refl (h : Within call p) : Follows 0 p p :=
  ⟨fun _ => rfl, ⟨h.unlimited, h.unlimited⟩, ⟨h.unwatched, h.unwatched⟩, rfl, rfl,
    (Nat.zero_add _).symm⟩

theorem next_follows {before : Nat} (h : Follows before p q) (hl : l.Alike m) :
    Renumbered before (p.next c l).1 (q.next c m).1 ∧
      Follows before (p.next c l).2.1 (q.next c m).2.1 ∧
      Link.InStep l m (p.next c l).2.2 (q.next c m).2.2 := by
  rw [next_eq h.unlimited.1 h.unwatched.1, next_eq h.unlimited.2 h.unwatched.2, h.progress.done,
    h.progress.token, h.request]
  split
  · exact ⟨.same _, h, hl.inStep⟩
  obtain ⟨hresult, hlinks⟩ := Client.fetchJson_inStep (α := Page α) (c := c) hl
    (q.call.watched_request q.progress.token)
  rcases hfetch : c.fetchJson (α := Page α) (q.call.request q.progress.token) l with ⟨result, l'⟩
  rcases hfetch' : c.fetchJson (α := Page α) (q.call.request q.progress.token) m with ⟨result', m'⟩
  rw [hfetch, hfetch'] at hresult hlinks
  obtain rfl : result = result' := hresult
  cases result with
  | error f => exact ⟨.same _, h, hlinks⟩
  | ok page =>
    obtain ⟨hrecorded, hprogress⟩ :=
      h.progress.record page.payload.items.length page.payload.nextPageToken
    exact ⟨hrecorded.map _, ⟨h.request, h.unlimited, h.unwatched, hprogress⟩, hlinks⟩

/-! ## Any number of calls -/

/-- What so many calls for the next page come to, one after the other. -/
def nexts (c : Client) :
    Nat → Pager α → Link → List (Except Failure (Option (Answer (Page α)))) × Pager α × Link
  | 0, p, l => ([], p, l)
  | n + 1, p, l =>
    let (result, p, l) := p.next c l
    let (results, rest) := nexts c n p l
    (result :: results, rest)

theorem Within.nexts (h : Within call p) (c : Client) (n : Nat) (l : Link) :
    Within call (Pager.nexts c n p l).2.1 := by
  induction n generalizing p l with
  | zero => exact h
  | succ n ih => exact ih (h.next c l) _

/-- Calls that come to pages and leave the pager at its end come to all its pages. -/
theorem pages_of_nexts {pages : List (Answer (Page α))} {l' : Link}
    (h : nexts c pages.length p l = (pages.map fun page => .ok (some page), q, l'))
    (hdone : q.progress.done = true) : p.pages c l = (pages, none, q, l') := by
  induction pages generalizing p l with
  | nil =>
    cases h
    exact pages_of_done hdone
  | cons page rest ih =>
    rcases hnext : p.next c l with ⟨result, p', l₁⟩
    rcases hrest : nexts c rest.length p' l₁ with ⟨results, p'', l₂⟩
    rw [List.length_cons, nexts, hnext] at h
    dsimp only at h
    rw [hrest] at h
    cases h
    rw [pages_of_next_ok hnext, ih hrest]

theorem nexts_follows {before : Nat} (h : Follows before p q) (hl : l.Alike m) (n : Nat) :
    List.Forall₂ (Renumbered before) (nexts c n p l).1 (nexts c n q m).1 ∧
      Follows before (nexts c n p l).2.1 (nexts c n q m).2.1 ∧
      Link.InStep l m (nexts c n p l).2.2 (nexts c n q m).2.2 := by
  induction n generalizing p q l m with
  | zero => exact ⟨.nil, h, hl.inStep⟩
  | succ n ih =>
    obtain ⟨hresult, hpagers, hlinks⟩ := next_follows (c := c) h hl
    obtain ⟨hresults, hpagers', hlinks'⟩ := ih hpagers hlinks.alike
    exact ⟨.cons hresult hresults, hpagers', hlinks.trans hlinks'⟩

/-! ## A new pager -/

omit [Wire α] in
theorem Within.follows (h : Within call p) (hwatched : call.options.watched = false)
    (hdone : p.progress.done = false) {t : String} (htoken : p.progress.token = some t) :
    Follows p.progress.pages p (start (call.set (.pageToken t))) := by
  have hne : t ≠ "" := fun he => h.token_ne (he ▸ htoken)
  have hstart : (some t).filter (· ≠ "") = some t :=
    ListCall.filter_of_ne_empty (by simpa using hne)
  refine ⟨fun token => ?_, ⟨h.unlimited, rfl⟩, ⟨h.unwatched, hwatched⟩, ?_, hdone, rfl⟩
  · -- the token to start from is no part of what the requests have in common
    rw [h.call_eq]
    rfl
  · rw [htoken, ← hstart]
    rfl

/-- A listing that is cut while it holds a token can be resumed by a new pager that starts at the
token, on a link behind which the server and the token source are going to do the same. Any number
of further calls for a page come to the same as without the cut, but for the number that a repeated
token's failure names, and send the same messages. -/
theorem nexts_resumed (hwatched : call.options.watched = false) {k : Nat} {l' : Link}
    {results : List (Except Failure (Option (Answer (Page α))))}
    (hrun : nexts c k (start call) l = (results, p, l')) (hdone : p.progress.done = false)
    {t : String} (htoken : p.progress.token = some t) (hm : l'.Alike m) (n : Nat) :
    ∃ later p' l'' resumed q m' messages,
      nexts c n p l' = (later, p', l'') ∧
      nexts c n (start (call.set (.pageToken t))) m = (resumed, q, m') ∧
      List.Forall₂ (Renumbered p.progress.pages) later resumed ∧
      l''.sent = l'.sent ++ messages ∧ m'.sent = m.sent ++ messages ∧ l''.Alike m' := by
  have hp : Within call p := by
    have hwithin := (within_start hwatched).nexts c k l
    rwa [hrun] at hwithin
  obtain ⟨hresults, -, hlinks⟩ := nexts_follows (c := c) (hp.follows hwatched hdone htoken) hm n
  obtain ⟨messages, hl, hm⟩ := hlinks.sent
  exact ⟨_, _, _, _, _, _, messages, rfl, rfl, hresults, hl, hm, hlinks.alike⟩

/-- A page with a new token, a page that repeats it, and a page without a token. -/
def repeatingResponses : List Response :=
  ["\x7b\"nextPageToken\":\"b\"\x7d", "\x7b\"nextPageToken\":\"b\"\x7d", "\x7b\x7d"].map
    fun body => { status := 200, body := ⟨[Text.Utf8.encode body.toList], .complete⟩ }

theorem nexts_resumed_repeating : ∃ results p l' later resumed,
    nexts sampleClient 1 (start sampleCall) { replies := repeatingResponses.map .answer } =
      (results, p, l') ∧ p.progress.pages = 1 ∧
    (nexts sampleClient 2 p l').1 = later ∧
    (nexts sampleClient 2 (start (sampleCall.set (.pageToken "b"))) l').1 = resumed ∧
    List.Forall₂ (Renumbered 1) later resumed := by
  have hwatched : sampleCall.options.watched = false := rfl
  have hstate : (nexts sampleClient 1 (start sampleCall)
      { replies := repeatingResponses.map .answer }).2.1.progress =
        { pages := 1, token := some "b" } := by
    decide +kernel
  rcases hrun : nexts sampleClient 1 (start sampleCall)
    { replies := repeatingResponses.map .answer } with ⟨results, p, l'⟩
  rw [hrun] at hstate
  have hdone : p.progress.done = false := by rw [hstate]
  have htoken : p.progress.token = some "b" := by rw [hstate]
  have hpages : p.progress.pages = 1 := by rw [hstate]
  obtain ⟨later, p', l'', resumed, q, m', messages, hlater, hresumed, hresults, -⟩ :=
    nexts_resumed hwatched hrun hdone htoken (.refl l') 2
  rw [hpages] at hresults
  refine ⟨_, p, l', later, resumed, rfl, hpages, ?_, ?_, hresults⟩
  · rw [hlater]
  · rw [hresumed]

end Pager
end SellerApi
