import SellerApi.Proofs.Call.Sending
import SellerApi.Proofs.Listing.Step

/-! # What a listing sends and uses up

Each page of a listing is asked for with one message and uses up one reply, which holds it. So a
listing that comes to its end, with all pages, has used up nothing but replies that hold a page
(`Pager.Within.exchanged_pages`).
-/

namespace SellerApi

open SellerApi.Http SellerApi.Resource

namespace Pager

variable {α : Type} [Wire α] {c : Client} {call : ListCall α} {p q : Pager α} {l l' : Link}

omit [Wire α] in
theorem watched_json (call : ListCall α) (token : Option String) :
    ({ call.request token with format := .json } : Request).watched = false :=
  call.watched_request token

omit [Wire α] in
theorem asks_json (call : ListCall α) (token : Option String) :
    call.listing.endpoint.Asks { call.request token with format := .json } :=
  .sent (.list call token) .json (call.request token).watched

theorem Within.exchanged_next (h : Within call p) (hrunning : p.progress.done = false) :
    ∃ messages used, l.Exchanged (p.next c l).2.2 messages used ∧
      ∀ m ∈ messages, c.Writes call.listing.endpoint m := by
  rw [h.link_next_of_running hrunning, Client.fetchJson,
    Client.fetch_of_unwatched (watched_json call _)]
  obtain ⟨messages, used, hl, -, hmessages⟩ := (c.attempt _ l).exchanged
  exact ⟨messages, used, hl, fun m hm => ⟨_, l.asked, asks_json call _, hmessages m hm⟩⟩

theorem Within.exchanged_of_next_ok (h : Within call p) {page : Answer (Page α)}
    (hnext : p.next c l = (.ok (some page), q, l')) :
    ∃ m reply, l.Exchanged l' [m] [reply] ∧ c.Writes call.listing.endpoint m ∧
      (Call.list call).Delivers reply := by
  obtain ⟨-, hfetch, -⟩ := h.recorded hnext
  obtain ⟨m, x, hl, hm, hdecode⟩ := Client.exchanged_of_fetch_ok (watched_json call _) hfetch
  refine ⟨m, _, hl, ⟨_, l.asked, asks_json call _, hm⟩, x, rfl, page, ?_⟩
  rw [Call.read, hdecode]
  rfl

/-- What a pager on its way sends and uses up until it stops. If it comes to its end, and has not
been there before, it has used up some replies, and each of them holds a page. -/
theorem Within.exchanged_pages (h : Within call p) :
    ∃ messages used, l.Exchanged (p.pages c l).2.2.2 messages used ∧
      (∀ m ∈ messages, c.Writes call.listing.endpoint m) ∧
      ((p.pages c l).2.1 = none → (p.progress.done = false → used ≠ []) ∧
        ∀ reply ∈ used, (Call.list call).Delivers reply) := by
  -- every page uses up a reply, so that fewer of them are left
  induction hreplies : l.replies.length using Nat.strongRecOn generalizing p l with
  | _ n ih =>
    rcases hnext : p.next c l with ⟨f | _ | page, q, l₁⟩
    · have hrunning : p.progress.done = false := by
        refine Bool.eq_false_iff.2 fun hdone => ?_
        rw [Pager.next, if_pos hdone] at hnext
        cases hnext
      obtain ⟨messages, used, hl, hmessages⟩ := h.exchanged_next (c := c) (l := l) hrunning
      rw [hnext] at hl
      rw [pages_of_next_error hnext]
      refine ⟨messages, used, hl, hmessages, fun hend => ?_⟩
      cases hend
    · have hdone := h.done_of_next_none hnext
      rw [pages_of_done hdone]
      refine ⟨[], [], .none rfl rfl, List.forall_mem_nil _, fun _ => ⟨fun hrunning => ?_,
        List.forall_mem_nil _⟩⟩
      exact absurd hdone (Bool.eq_false_iff.1 hrunning)
    · obtain ⟨m, reply, hl, hm, hholds⟩ := h.exchanged_of_next_ok hnext
      have hwithin := h.next c l
      rw [hnext] at hwithin
      obtain ⟨messages, used, hrest, hmessages, hused⟩ :=
        ih _ (hreplies ▸ length_replies_of_next_ok hnext) hwithin rfl
      rw [pages_of_next_ok hnext]
      refine ⟨_, _, hl.trans hrest, List.forall_mem_cons.2 ⟨hm, hmessages⟩,
        fun hend => ⟨fun _ => List.cons_ne_nil _ _, ?_⟩⟩
      exact List.forall_mem_cons.2 ⟨hholds, (hused hend).2⟩

end Pager
end SellerApi
