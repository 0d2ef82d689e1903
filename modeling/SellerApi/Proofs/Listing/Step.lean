import SellerApi.Proofs.Listing.Collect

/-! # One call for the next page

A pager on its way from the start of a call that no signal ends, `Pager.Within`, stays so with every
call for a page (`Pager.Within.next`). Behind a page it is at its end, or it asks for the token of
the page (`Pager.Within.asksFor_iff`); an empty token is never kept.
-/

namespace SellerApi

open SellerApi.Http SellerApi.Resource

theorem Continuation.ne_empty_of_ofToken {next : Option String} {token : String}
    (h : ofToken next = .more token) : token ≠ "" := by
  unfold ofToken at h
  split at h
  · contradiction
  · split at h
    · contradiction
    · next hne => exact more.inj h ▸ hne

/-- An empty token is never kept. -/
theorem Progress.token_record_ne {p : Progress} (h : p.token ≠ some "") (items : Nat)
    (next : Option String) : (p.record items next).2.token ≠ some "" := by
  unfold Progress.record
  cases hnext : Continuation.ofToken next with
  | done => exact nofun
  | more token =>
    by_cases hagain : p.token = some token
    · simp only [hagain, if_true]
      exact hagain ▸ h
    · simp only [hagain, if_false]
      exact fun heq => Continuation.ne_empty_of_ofToken hnext (Option.some.inj heq)

namespace Pager

variable {α : Type} [Wire α] {c : Client} {call : ListCall α} {p q : Pager α} {l l' : Link}

omit [Wire α] in
/-- A pager as it is on its way from the start of a call that no signal ends. -/
structure Within (call : ListCall α) (p : Pager α) : Prop where
  call_eq : p.call = call
  unlimited : p.maxPages = none
  unwatched : p.watched = false
  token_ne : p.progress.token ≠ some ""

omit [Wire α] in
theorem within_start (hwatched : call.options.watched = false) : Within call (start call) := by
  refine ⟨?_, rfl, hwatched, call.firstToken_ne_empty⟩
  rw [start, ← hwatched]

/-- One call for the next page, without a limit and a signal. -/
theorem next_eq (hlimit : p.maxPages = none) (hwatched : p.watched = false) :
    p.next c l =
      if p.progress.done then (.ok none, p, l)
      else match c.fetchJson (α := Page α) (p.call.request p.progress.token) l with
        | (.error f, l) => (.error f, p, l)
        | (.ok page, l) =>
          let (recorded, progress) :=
            p.progress.record page.payload.items.length page.payload.nextPageToken
          (recorded.map fun _ => some page, { p with progress }, l) := by
  have hfull : p.isFull = false := by rw [isFull, hlimit, Option.any_none]
  simp only [next, hfull, hwatched, Bool.false_and, Bool.false_eq_true, if_false]
  split
  · rfl
  · rcases c.fetchJson (α := Page α) (p.call.request p.progress.token) l with ⟨_ | _, _⟩ <;> rfl

theorem Within.next (h : Within call p) (c : Client) (l : Link) :
    Within call (p.next c l).2.1 := by
  rw [next_eq h.unlimited h.unwatched]
  split
  · exact h
  · rcases c.fetchJson (α := Page α) (p.call.request p.progress.token) l with ⟨f | page, l'⟩
    · exact h
    · exact ⟨h.call_eq, h.unlimited, h.unwatched, Progress.token_record_ne h.token_ne _ _⟩

/-- What a running pager does on the link is to fetch the page of its token. -/
theorem Within.link_next_of_running (h : Within call p) (hrunning : p.progress.done = false) :
    (p.next c l).2.2 = (c.fetchJson (α := Page α) (call.request p.progress.token) l).2 := by
  rw [next_eq h.unlimited h.unwatched, if_neg (by simp [hrunning]), h.call_eq]
  rcases c.fetchJson (α := Page α) (call.request p.progress.token) l with ⟨f | page, l₁⟩ <;> rfl

/-! ## Behind a page -/

omit [Wire α] in
/-- The next call for a page fetches the page of this token. -/
structure AsksFor (p : Pager α) (token : String) : Prop where
  running : p.progress.done = false
  token_eq : p.progress.token = some token

/-- A page that was received was fetched and is counted, and its token does not repeat the one that
was sent. -/
theorem Within.recorded (h : Within call p) {page : Answer (Page α)}
    (hnext : p.next c l = (.ok (some page), q, l')) :
    p.progress.done = false ∧ c.fetchJson (call.request p.progress.token) l = (.ok page, l') ∧
      ∃ continuation,
        p.progress.record page.payload.items.length page.payload.nextPageToken =
          (.ok continuation, q.progress) := by
  rw [next_eq h.unlimited h.unwatched, h.call_eq] at hnext
  split at hnext
  · cases hnext
  next hdone =>
  refine ⟨Bool.eq_false_iff.2 hdone, ?_⟩
  rcases hfetch : c.fetchJson (α := Page α) (call.request p.progress.token) l with ⟨f | page', l₁⟩
  · rw [hfetch] at hnext
    cases hnext
  rw [hfetch] at hnext
  dsimp only at hnext
  rcases hrecord : p.progress.record page'.payload.items.length page'.payload.nextPageToken with
    ⟨f | continuation, progress⟩
  · rw [hrecord] at hnext
    cases hnext
  · rw [hrecord] at hnext
    cases hnext
    exact ⟨rfl, continuation, hrecord⟩

/-- A pager on its way comes to no further page only where it is at its end. -/
theorem Within.done_of_next_none (h : Within call p) (hnext : p.next c l = (.ok none, q, l')) :
    p.progress.done = true := by
  rw [next_eq h.unlimited h.unwatched] at hnext
  split at hnext
  · assumption
  rcases hfetch : c.fetchJson (α := Page α) (p.call.request p.progress.token) l with ⟨f | page, l₁⟩
  · rw [hfetch] at hnext
    cases hnext
  rw [hfetch] at hnext
  dsimp only at hnext
  rcases hrecord : p.progress.record page.payload.items.length page.payload.nextPageToken with
    ⟨f | continuation, progress⟩ <;> rw [hrecord] at hnext <;> cases hnext

/-- Behind a page a pager is either at its end or asks for the token of the page. -/
theorem Within.behind_page (h : Within call p) {page : Answer (Page α)}
    (hnext : p.next c l = (.ok (some page), q, l')) :
    q.progress.done = true ∧
        (page.payload.nextPageToken = none ∨ page.payload.nextPageToken = some "") ∨
      ∃ token, page.payload.nextPageToken = some token ∧ token ≠ "" ∧ q.AsksFor token := by
  obtain ⟨hdone, -, continuation, hrecord⟩ := h.recorded hnext
  have hlast : page.payload.nextPageToken = none ∨ page.payload.nextPageToken = some "" →
      q.progress.done = true := by
    intro hlast
    obtain ⟨p', hend, hp'⟩ := p.progress.record_last page.payload.items.length hlast
    rw [hrecord] at hend
    exact (Prod.mk.inj hend).2 ▸ hp'
  cases htoken : page.payload.nextPageToken with
  | none => exact .inl ⟨hlast (.inl htoken), .inl rfl⟩
  | some token =>
    by_cases hne : token = ""
    · exact .inl ⟨hlast (.inr (hne ▸ htoken)), .inr (hne ▸ rfl)⟩
    rw [htoken] at hrecord
    by_cases hsent : p.progress.token = some token
    · obtain ⟨p', hagain⟩ := p.progress.record_repeated page.payload.items.length hne hsent
      exact nomatch hrecord.symm.trans hagain
    · rw [p.progress.record_more page.payload.items.length hne hsent] at hrecord
      have hq := (Prod.mk.inj hrecord).2
      exact .inr ⟨token, rfl, hne, by rw [← hq]; exact hdone, by rw [← hq]⟩

/-- A pager asks for the token of a page, if that is not empty, and for no other one. -/
theorem Within.asksFor_iff (h : Within call p) {page : Answer (Page α)}
    (hnext : p.next c l = (.ok (some page), q, l')) (token : String) :
    q.AsksFor token ↔ page.payload.nextPageToken = some token ∧ token ≠ "" := by
  rcases h.behind_page hnext with ⟨hdone, hlast⟩ | ⟨t, htoken, hne, hasks⟩
  · constructor
    · intro hasks
      exact nomatch hdone.symm.trans hasks.running
    · rintro ⟨htoken, hne⟩
      rw [htoken] at hlast
      rcases hlast with hlast | hlast
      · contradiction
      · exact absurd (Option.some.inj hlast) hne
  · constructor
    · intro hasks'
      rw [Option.some.inj (hasks'.token_eq.symm.trans hasks.token_eq)]
      exact ⟨htoken, hne⟩
    · rintro ⟨htoken', -⟩
      rwa [Option.some.inj (htoken'.symm.trans htoken)]

/-- The pages of a pager on its way begin with the one that it asks for. -/
theorem Within.pages_cons (h : Within call p) (hdone : p.progress.done = false)
    {pages : List (Answer (Page α))} {p' : Pager α} (hpages : p.pages c l = (pages, none, p', l')) :
    ∃ page rest l₁, ∃ q : Pager α, p.next c l = (.ok (some page), q, l₁) ∧ pages = page :: rest ∧
      q.pages c l₁ = (rest, none, p', l') := by
  rcases hnext : p.next c l with ⟨f | _ | page, q, l₁⟩
  · rw [pages_of_next_error hnext] at hpages
    cases hpages
  · exact nomatch hdone.symm.trans (h.done_of_next_none hnext)
  · rw [pages_of_next_ok hnext] at hpages
    rcases hrest : q.pages c l₁ with ⟨rest, f, q', l₂⟩
    rw [hrest] at hpages
    cases hpages
    exact ⟨page, rest, l₁, q, rfl, rfl, hrest⟩

end Pager
end SellerApi
