import SellerApi.Call.Send
import SellerApi.Proofs.Listing.Retry

/-! # The first page of a listing

To send a call for a list and to ask a new pager on it for a page is the same request, and it comes
to the same, unless the page returns the token that it was asked for with: then only the pager fails
(`ListCall.send_firstPage`).
-/

namespace SellerApi

open SellerApi.Http SellerApi.Resource

variable {α : Type} [Wire α]

/-- What the first call of a pager comes to, if its listing starts at a token and the call for the
page comes to this. -/
inductive FirstPage (start : Option String) :
    Except Failure (Answer (Page α)) → Except Failure (Option (Answer (Page α))) → Prop where
  | failed (f : Failure) : FirstPage start (.error f) (.error f)
  | page {a : Answer (Page α)}
    (h : ∀ token ≠ "", a.payload.nextPageToken = some token → start ≠ some token) :
    FirstPage start (.ok a) (.ok (some a))
  /-- The page returns the token that it was asked for with. -/
  | repeated {a : Answer (Page α)} {token : String} (hne : token ≠ "")
    (hnext : a.payload.nextPageToken = some token) (hsent : start = some token) :
    FirstPage start (.ok a) (.error (Progress.repeatedToken 1))

namespace ListCall

variable {call : ListCall α}

omit [Wire α] in
/-- An empty token to start from makes the request that none makes. -/
theorem watch_request (hwatched : call.options.watched = false) :
    call.options.watch (call.request call.page.pageToken) = call.request call.firstToken := by
  rw [CallOptions.watch, hwatched, request_eq, request_eq,
    filter_of_ne_empty call.firstToken_ne_empty]
  rfl

theorem send_of_unwatched (hwatched : call.options.watched = false) (c : Client) (l : Link) :
    call.send c l = c.fetchJson (call.request call.firstToken) l := by
  rw [send, watch_request hwatched]

omit [Wire α] in
/-- What a page makes of a new pager depends on its token and on the one to start from. -/
theorem firstPage_record (call : ListCall α) (a : Answer (Page α)) :
    FirstPage call.page.pageToken (.ok a)
      (((Pager.start call).progress.record a.payload.items.length a.payload.nextPageToken).1.map
        fun _ => some a) := by
  have hsent : ∀ token ≠ "", (Pager.start call).progress.token = some token ↔
      call.page.pageToken = some token := by
    intro token hne
    show call.page.pageToken.filter (· ≠ "") = some token ↔ _
    rw [Option.filter_eq_some_iff, decide_eq_true_iff, and_iff_left hne]
  by_cases hlast : a.payload.nextPageToken = none ∨ a.payload.nextPageToken = some ""
  · obtain ⟨p', hrecord, -⟩ := (Pager.start call).progress.record_last a.payload.items.length hlast
    rw [hrecord]
    refine .page fun token hne htoken => ?_
    rw [htoken] at hlast
    exact absurd (hlast.resolve_left (Option.some_ne_none token)) fun h => hne (Option.some.inj h)
  · obtain ⟨hsome, hempty⟩ := not_or.1 hlast
    obtain ⟨token, htoken⟩ := Option.ne_none_iff_exists'.1 hsome
    have hne : token ≠ "" := fun h => hempty (h ▸ htoken)
    by_cases hrepeated : (Pager.start call).progress.token = some token
    · obtain ⟨p', hrecord⟩ := (Pager.start call).progress.record_repeated
        a.payload.items.length hne hrepeated
      rw [htoken, hrecord]
      exact .repeated hne htoken ((hsent token hne).1 hrepeated)
    · rw [htoken, (Pager.start call).progress.record_more a.payload.items.length hne hrepeated]
      refine .page fun t _ ht => ?_
      obtain rfl : token = t := Option.some.inj (htoken.symm.trans ht)
      exact fun h => hrepeated ((hsent token hne).2 h)

omit [Wire α] in
theorem firstPage_settle (hwatched : call.options.watched = false)
    (result : Except Failure (Answer (Page α))) (fired : Bool) :
    FirstPage call.page.pageToken result ((Pager.start call).settle result fired).1 := by
  have hunfired : ((Pager.start call).watched && fired) = false := by
    rw [(Pager.within_start hwatched).unwatched, Bool.false_and]
  simp only [Pager.settle, hunfired, Bool.false_eq_true, if_false]
  cases result with
  | error f => exact .failed f
  | ok a => exact call.firstPage_record a

/-- A call for a list that no signal ends makes the request that a new pager on it makes first. The
same message goes out, if one does, and the pager comes to what the call comes to, but for a page
that returns the token that it was asked for with. -/
theorem send_firstPage (hwatched : call.options.watched = false) (c : Client) (l : Link) :
    ({ call.options.watch (call.request call.page.pageToken) with format := .json } : Request) =
      (Pager.start call).request ∧
    ∃ sent first q l', call.send c l = (sent, l') ∧ (Pager.start call).next c l = (first, q, l') ∧
      FirstPage call.page.pageToken sent first ∧
      ∃ messages used, l.Exchanged l' messages used ∧ messages.length ≤ 1 ∧
        ∀ m ∈ messages, c.messageOf (Pager.start call).request l.asked = .ok m := by
  have hwithin := Pager.within_start hwatched
  have hrequest : ({ call.request call.firstToken with format := .json } : Request) =
      (Pager.start call).request := by
    rw [Pager.request, hwithin.call_eq]
    rfl
  refine ⟨by rw [watch_request hwatched, hrequest], ?_⟩
  have hopen : (Pager.start call).Open l.fired :=
    ⟨rfl, rfl, by rw [hwithin.unwatched, Bool.false_and]⟩
  rcases hattempt : c.send (Pager.start call).request l with ⟨result, l'⟩
  have hsend : call.send c l = ((Pager.start call).read c result, l') := by
    rw [send_of_unwatched hwatched, Client.fetchJson_eq_of_send (call.watched_request _)
      (by rw [hrequest, hattempt])]
    rw [Pager.read, ← hrequest]
    rfl
  have hexchanged := (c.attempt (Pager.start call).request l).exchanged
  rw [hattempt] at hexchanged
  exact ⟨_, _, _, l', hsend, hopen.next_eq hattempt, firstPage_settle hwatched _ _, hexchanged⟩

/-- A page that returns the token which the sample call starts from. -/
def returningReplies : List Reply :=
  [.answer { status := 200
             body := ⟨[Text.Utf8.encode "\x7b\"nextPageToken\":\"a\"\x7d".toList], .complete⟩ }]

theorem send_firstPage_repeated :
    let call := Pager.sampleCall
    let l : Link := { replies := returningReplies }
    call.page.pageToken = some "a" ∧
    (∃ a, (call.send Pager.sampleClient l).1 = .ok a ∧ a.payload.nextPageToken = some "a") ∧
    ((Pager.start call).next Pager.sampleClient l).1 = .error (Progress.repeatedToken 1) ∧
    (call.send Pager.sampleClient l).2 = ((Pager.start call).next Pager.sampleClient l).2.2 := by
  intro call l
  have hwatched : call.options.watched = false := rfl
  obtain ⟨-, sent, first, q, l', hsend, hnext, hfirst, -⟩ :=
    send_firstPage hwatched Pager.sampleClient l
  have hpage : ((call.send Pager.sampleClient l).1.toOption.bind
      fun a => a.payload.nextPageToken) = some "a" := by
    decide +kernel
  rw [hsend] at hpage
  rw [hsend, hnext]
  cases hfirst with
  | failed => cases hpage
  | page hnew => exact absurd rfl (hnew "a" (by decide) hpage)
  | @repeated a => exact ⟨rfl, ⟨a, rfl, hpage⟩, rfl, rfl⟩

end ListCall
end SellerApi
