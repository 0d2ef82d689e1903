import SellerApi.Proofs.Client.Sending

/-! # Links that are alike

What a request comes to depends on a link in two ways only: by what the server is going to do and by
how often a token source was asked. Where two links agree on these (`Link.Alike`), a request comes
to the same on both, sends the same messages and leaves links that are alike again (`Link.InStep`).
-/

namespace SellerApi

open SellerApi.Http SellerApi.Resource

namespace Link

/-- Links behind which the server and the token source are going to do the same. -/
structure Alike (l m : Link) : Prop where
  replies : l.replies = m.replies
  asked : l.asked = m.asked

theorem Alike.refl (l : Link) : l.Alike l := ⟨rfl, rfl⟩

/-- On the way from each of two links to a later one the same messages went out, and the later
links are alike. -/
structure InStep (l m l' m' : Link) : Prop where
  alike : l'.Alike m'
  sent : ∃ messages, l'.sent = l.sent ++ messages ∧ m'.sent = m.sent ++ messages

theorem Alike.inStep {l m : Link} (h : l.Alike m) : InStep l m l m :=
  ⟨h, [], (List.append_nil _).symm, (List.append_nil _).symm⟩

theorem InStep.trans {l m l' m' l'' m'' : Link} (h : InStep l m l' m') (h' : InStep l' m' l'' m'') :
    InStep l m l'' m'' := by
  obtain ⟨first, hl, hm⟩ := h.sent
  obtain ⟨later, hl', hm'⟩ := h'.sent
  refine ⟨h'.alike, first ++ later, ?_, ?_⟩
  · rw [hl', hl, List.append_assoc]
  · rw [hm', hm, List.append_assoc]

theorem exchange_inStep {l m : Link} (h : l.Alike m) (x : Message) :
    (l.exchange x).1 = (m.exchange x).1 ∧ InStep l m (l.exchange x).2 (m.exchange x).2 := by
  unfold exchange
  rw [← h.replies]
  cases l.replies with
  | nil => exact ⟨rfl, h.inStep⟩
  | cons reply replies => cases reply <;> exact ⟨rfl, ⟨rfl, h.asked⟩, [x], rfl, rfl⟩

end Link

namespace Client

variable {c : Client} {r : Request} {l m : Link}

theorem send_inStep (h : l.Alike m) (r : Request) :
    (c.send r l).1 = (c.send r m).1 ∧ Link.InStep l m (c.send r l).2 (c.send r m).2 := by
  cases hd : c.draft r with
  | error f =>
    simp only [send, hd, true_and]
    exact h.inStep
  | ok d =>
    have halike : Link.Alike { l with asked := c.credential.askedAfter m.asked }
        { m with asked := c.credential.askedAfter m.asked } := ⟨h.replies, rfl⟩
    cases hready : (c.credential.attach m.asked d).bind fun d => (c.signed d).message with
    | error f =>
      simp only [send, hd, h.asked, hready, true_and]
      exact ⟨halike, h.inStep.sent⟩
    | ok x =>
      obtain ⟨hresult, hlinks⟩ := Link.exchange_inStep halike x
      simp only [send, hd, h.asked, hready, hresult, true_and]
      exact ⟨hlinks.alike, hlinks.sent⟩

/-- A request that no signal ends comes to the same on links that are alike. -/
theorem fetchJson_inStep {α : Type} [Wire α] (h : l.Alike m) (hwatched : r.watched = false) :
    (c.fetchJson (α := α) r l).1 = (c.fetchJson (α := α) r m).1 ∧
      Link.InStep l m (c.fetchJson (α := α) r l).2 (c.fetchJson (α := α) r m).2 := by
  obtain ⟨hresult, hlinks⟩ := c.send_inStep h { r with format := .json }
  rcases hl : c.send { r with format := .json } l with ⟨result, l'⟩
  rcases hm : c.send { r with format := .json } m with ⟨result', m'⟩
  rw [hl, hm] at hresult hlinks
  obtain rfl : result = result' := hresult
  rw [fetchJson_eq_of_send hwatched hl, fetchJson_eq_of_send hwatched hm]
  exact ⟨rfl, hlinks⟩

end Client
end SellerApi
