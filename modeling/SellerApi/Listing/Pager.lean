import SellerApi.Call.List
import SellerApi.Client.Basic
import SellerApi.Listing.Progress

/-! # Pagers

A `Pager` fetches a listing page by page until the server returns no further token, a limit of pages
is reached or the caller's signal fires. A page that fails leaves the pager as it was, so it can be
asked for again; a signal that fired, or a token that the server repeats, ends the listing. -/

namespace SellerApi

open SellerApi.Http SellerApi.Resource SellerApi.Text

/-- A listing under way. -/
structure Pager (α : Type) where
  call : ListCall α
  progress : Progress := {}
  /-- The most pages to fetch. -/
  maxPages : Option Nat := none
  /-- Whether the caller's cancellation signal ends the listing. -/
  watched : Bool := false

/-- Progress as a diagnostic shows it. -/
def Progress.describe (p : Progress) : String :=
  describeRecord "PageState"
    [("pages_fetched", natText p.pages), ("items_fetched", natText p.items),
      ("token", describeOption (p.token.map quoted)), ("done", describeBool p.done)]

namespace Pager

variable {α : Type}

/-- A listing from the page that the call names. The pager takes over the call's signal. -/
def start (call : ListCall α) : Pager α :=
  { call := { call with options := { call.options with watched := false } }
    progress := Progress.startingAt call.page.pageToken
    watched := call.options.watched }

/-- The listing with its progress, its limit and its signal as a diagnostic shows them. -/
def describeState (p : Pager α) : String :=
  describeFields
    [("state", p.progress.describe), ("max_pages", describeOption (p.maxPages.map natText)),
      ("abortable", describeBool p.watched)] ++ " \x7d"

/-- The listing with no further page. -/
def finish (p : Pager α) : Pager α := { p with progress := p.progress.finish }

/-- Whether the limit of pages is reached. -/
def isFull (p : Pager α) : Bool := p.maxPages.any (· ≤ p.progress.pages)

variable [Wire α]

/-- Fetches the next page: `none` when the listing is at its end. -/
def next (c : Client) (p : Pager α) (l : Link) :
    Except Failure (Option (Answer (Page α))) × Pager α × Link :=
  if p.progress.done then (.ok none, p, l)
  else if p.isFull then (.ok none, p.finish, l)
  else if p.watched && l.fired then (.error .cancelled, p.finish, l)
  else
    let (result, l) := c.fetchJson (α := Page α) (p.call.request p.progress.token) l
    if p.watched && l.fired then (.error .cancelled, p.finish, l)
    else
      match result with
      | .error f => (.error f, p, l)
      | .ok page =>
        let (recorded, progress) :=
          p.progress.record page.payload.items.length page.payload.nextPageToken
        (recorded.map fun _ => some page, { p with progress }, l)

/-- A page that was fetched has used up one reply. -/
theorem length_replies_of_next_ok {c : Client} {p p' : Pager α} {l l' : Link}
    {page : Answer (Page α)} (h : p.next c l = (.ok (some page), p', l')) :
    l'.replies.length < l.replies.length := by
  unfold next at h
  split at h
  · simp at h
  split at h
  · simp at h
  split at h
  · simp at h
  cases hf : c.fetchJson (α := Page α) (p.call.request p.progress.token) l with
  | mk result l₁ =>
    rw [hf] at h
    dsimp only at h
    split at h
    · simp at h
    cases result with
    | error f => simp at h
    | ok x =>
      simp only [Prod.mk.injEq] at h
      rw [← h.2.2]
      exact Client.length_replies_of_fetch_ok hf

/-- The pages still to come and, if it does not come to its end, what stops the listing. -/
def pages (c : Client) (p : Pager α) (l : Link) :
    List (Answer (Page α)) × Option Failure × Pager α × Link :=
  match _ : p.next c l with
  | (.ok none, p, l) => ([], none, p, l)
  | (.error f, p, l) => ([], some f, p, l)
  | (.ok (some page), p, l) =>
    let (later, rest) := p.pages c l
    (page :: later, rest)
termination_by l.replies.length
decreasing_by exact length_replies_of_next_ok (by assumption)

/-- The items of all pages still to come, or what stops the listing. -/
def collect (c : Client) (p : Pager α) (l : Link) : Except Failure (List α) × Link :=
  match p.pages c l with
  | (pages, none, _, l) => (.ok (pages.flatMap fun page => page.payload.items), l)
  | (_, some f, _, l) => (.error f, l)

/-- The next items, so many at most, and what stops the listing before them. A page is fetched only
when an item of it is wanted. -/
def items (c : Client) (count : Nat) (p : Pager α) (l : Link) :
    List α × Option Failure × Link :=
  if count = 0 then ([], none, l)
  else
    match _ : p.next c l with
    | (.ok none, _, l) => ([], none, l)
    | (.error f, _, l) => ([], some f, l)
    | (.ok (some page), p, l) =>
      let here := page.payload.items.take count
      let (later, rest) := p.items c (count - here.length) l
      (here ++ later, rest)
termination_by l.replies.length
decreasing_by exact length_replies_of_next_ok (by assumption)

end Pager
end SellerApi
