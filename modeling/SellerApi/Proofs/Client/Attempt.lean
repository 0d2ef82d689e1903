import SellerApi.Proofs.Client.Sending

/-! # What one request leaves behind

A request is not drafted, or it fails before it is sent, or it goes out as one message and uses up
one reply: `Client.Attempt` has a case for each of these, and every attempt is one of them
(`Client.attempt`). What went out between two links, and the replies that it got, is
`Link.Exchanged`. Where the message can be written, the first reply says what a fetch comes to
(`Client.fetch_of_replies`).
-/

namespace SellerApi

open SellerApi.Http SellerApi.Resource

/-! ## Links before and behind -/

/-- Between two links these messages went out, and each one used up one of these replies. -/
structure Link.Exchanged (l l' : Link) (messages : List Message) (used : List Reply) : Prop where
  sent : l'.sent = l.sent ++ messages
  replies : l.replies = used ++ l'.replies
  length_eq : messages.length = used.length

namespace Link.Exchanged

variable {l l' l'' : Link} {messages later : List Message} {used more : List Reply}

theorem none (hsent : l'.sent = l.sent) (hreplies : l'.replies = l.replies) :
    Exchanged l l' [] [] :=
  ⟨by rw [hsent, List.append_nil], hreplies.symm, rfl⟩

theorem trans (h : Exchanged l l' messages used) (h' : Exchanged l' l'' later more) :
    Exchanged l l'' (messages ++ later) (used ++ more) := by
  refine ⟨?_, ?_, ?_⟩
  · rw [h'.sent, h.sent, List.append_assoc]
  · rw [h.replies, h'.replies, List.append_assoc]
  · rw [List.length_append, List.length_append, h.length_eq, h'.length_eq]

/-- Two links tell what went out between them and what came back. -/
theorem unique (h : Exchanged l l' messages used) (h' : Exchanged l l' later more) :
    messages = later ∧ used = more :=
  ⟨List.append_cancel_left (h.sent.symm.trans h'.sent),
    List.append_cancel_right (h.replies.symm.trans h'.replies)⟩

end Link.Exchanged

def Reply.result : Reply → Except Failure Response
  | .answer x => .ok x
  | .silence | .interruption => .error (.transport .deadline)
  | .hangUp => .error (.transport .hungUp)

/-- The signal fires while the request is under way. -/
def Reply.fires : Reply → Bool
  | .interruption => true
  | _ => false

theorem Reply.eq_answer_of_result {reply : Reply} {x : Response} (h : reply.result = .ok x) :
    reply = .answer x := by
  cases reply <;> cases h
  rfl

theorem Failure.underDeadline_of_ne {f : Failure} (h : f ≠ .transport .deadline) (ms : Nat) :
    f.underDeadline ms = f := by
  unfold underDeadline
  split
  · contradiction
  · rfl

theorem Failure.underDeadline_eq_timedOut_iff {f : Failure} {ms n : Nat} (h : f ≠ .timedOut n) :
    f.underDeadline ms = .timedOut n ↔ f = .transport .deadline ∧ n = ms % Text.bound64 := by
  by_cases hf : f = .transport .deadline
  · rw [hf, underDeadline, timedOut.injEq, eq_comm]
    exact (and_iff_right rfl).symm
  · rw [underDeadline_of_ne hf]
    exact ⟨fun hn => absurd hn h, fun hn => absurd hn.1 hf⟩

theorem mapError_underDeadline_eq_timedOut_iff {α : Type} {result : Except Failure α} {ms n : Nat}
    (h : result ≠ .error (.timedOut n)) :
    result.mapError (Failure.underDeadline ms) = .error (.timedOut n) ↔
      result = .error (.transport .deadline) ∧ n = ms % Text.bound64 := by
  cases result with
  | ok a => exact ⟨nofun, nofun⟩
  | error f =>
    simp only [Except.mapError, Except.error.injEq]
    exact Failure.underDeadline_eq_timedOut_iff fun hf => h (congrArg _ hf)

namespace Client

variable {c : Client} {r : Request} {l : Link}

/-- The message of a request, if a token source was asked so often before. -/
def messageOf (c : Client) (r : Request) (asked : Nat) : Except Failure Message :=
  (c.draft r).bind fun d => (c.credential.attach asked d).bind fun d => (c.signed d).message

/-- The link behind a draft: a token source was asked. -/
def afterAsking (c : Client) (l : Link) : Link :=
  { l with asked := c.credential.askedAfter l.asked }

/-- How an attempt to send a request goes. -/
inductive Attempt (c : Client) (r : Request) (l : Link) : Except Failure Response → Link → Prop
  where
  | undrafted {f : Failure} (h : c.draft r = .error f) : Attempt c r l (.error f) l
  /-- The credential failed, or it cannot be put on a wire. -/
  | unwritten {d : Draft} {f : Failure} (hdraft : c.draft r = .ok d)
    (h : c.messageOf r l.asked = .error f) : Attempt c r l (.error f) (c.afterAsking l)
  | unreachable {m : Message} (h : c.messageOf r l.asked = .ok m) (hreplies : l.replies = []) :
    Attempt c r l (.error (.transport .unreachable)) (c.afterAsking l)
  | sent {m : Message} {reply : Reply} {l' : Link} (h : c.messageOf r l.asked = .ok m)
    (hl' : l.Exchanged l' [m] [reply]) (hasked : l'.asked = c.credential.askedAfter l.asked) :
    Attempt c r l reply.result l'

theorem attempt (c : Client) (r : Request) (l : Link) :
    Attempt c r l (c.send r l).1 (c.send r l).2 := by
  unfold send
  cases hdraft : c.draft r with
  | error f => exact .undrafted hdraft
  | ok d =>
    have hmessage : c.messageOf r l.asked =
        (c.credential.attach l.asked d).bind fun d => (c.signed d).message := by
      rw [messageOf, hdraft]
      rfl
    dsimp only
    rw [← hmessage]
    cases hm : c.messageOf r l.asked with
    | error f => exact .unwritten hdraft hm
    | ok m =>
      obtain ⟨replies, sent, asked, fired⟩ := l
      cases replies with
      | nil => exact .unreachable hm rfl
      | cons reply replies =>
        -- a reply may fire the signal, which is no part of an exchange
        have hsent : ∀ after, Attempt c r ⟨reply :: replies, sent, asked, fired⟩ reply.result
            ⟨replies, sent ++ [m], c.credential.askedAfter asked, after⟩ :=
          fun _ => .sent hm ⟨rfl, rfl, rfl⟩ rfl
        cases reply <;> exact hsent _

theorem send_of_unwritten {d : Draft} {f : Failure} (hdraft : c.draft r = .ok d)
    (h : c.messageOf r l.asked = .error f) : c.send r l = (.error f, c.afterAsking l) := by
  rw [messageOf, hdraft] at h
  rw [send, hdraft]
  dsimp only [Except.bind] at h ⊢
  rw [h]
  rfl

/-- The link behind a message that used up the first reply. -/
def afterReply (c : Client) (m : Message) (reply : Reply) (rest : List Reply) (l : Link) : Link :=
  ⟨rest, l.sent ++ [m], c.credential.askedAfter l.asked, l.fired || reply.fires⟩

theorem send_of_replies {m : Message} (hm : c.messageOf r l.asked = .ok m) {reply : Reply}
    {rest : List Reply} (hl : l.replies = reply :: rest) :
    c.send r l = (reply.result, c.afterReply m reply rest l) := by
  obtain ⟨d, hd, hm⟩ := bind_eq_ok_iff.1 hm
  have hready : ((c.credential.attach l.asked d).bind fun d => (c.signed d).message) = .ok m := hm
  simp only [send, hd, hready, Link.exchange, hl, afterReply]
  cases reply with
  | interruption => simp only [Reply.fires, Bool.or_true]; rfl
  | answer | silence | hangUp => simp only [Reply.fires, Bool.or_false]; rfl

theorem send_of_no_replies {m : Message} (hm : c.messageOf r l.asked = .ok m)
    (hl : l.replies = []) : c.send r l = (.error (.transport .unreachable), c.afterAsking l) := by
  obtain ⟨d, hd, hm⟩ := bind_eq_ok_iff.1 hm
  have hready : ((c.credential.attach l.asked d).bind fun d => (c.signed d).message) = .ok m := hm
  simp only [send, hd, hready, Link.exchange, hl, afterAsking]
  rfl

/-- A request that cannot be written touches nothing but the token source. -/
theorem send_of_messageOf_error {f : Failure} (hf : c.messageOf r l.asked = .error f) :
    ∃ l', c.send r l = (.error f, l') ∧ l'.replies = l.replies ∧ l'.fired = l.fired := by
  cases hd : c.draft r with
  | error g =>
    rw [messageOf, hd] at hf
    cases hf
    exact ⟨l, by rw [send, hd], rfl, rfl⟩
  | ok d => exact ⟨_, send_of_unwritten hd hf, rfl, rfl⟩

theorem Attempt.exchanged {result : Except Failure Response} {l' : Link}
    (h : Attempt c r l result l') :
    ∃ messages used, l.Exchanged l' messages used ∧ messages.length ≤ 1 ∧
      ∀ m ∈ messages, c.messageOf r l.asked = .ok m := by
  cases h with
  | undrafted | unwritten | unreachable =>
    exact ⟨[], [], .none rfl rfl, Nat.zero_le 1, List.forall_mem_nil _⟩
  | @sent m reply _ hm hl' =>
    exact ⟨[m], [reply], hl', Nat.le_refl 1, List.forall_mem_singleton.2 hm⟩

/-- A message that can be written goes out if a server is there. -/
theorem Attempt.sent_of_messageOf {result : Except Failure Response} {l' : Link}
    (h : Attempt c r l result l') {m : Message} (hm : c.messageOf r l.asked = .ok m)
    (hreplies : l.replies ≠ []) : l'.sent = l.sent ++ [m] := by
  cases h with
  | undrafted h =>
    rw [messageOf, h] at hm
    cases hm
  | unwritten _ h => exact nomatch h.symm.trans hm
  | unreachable _ h => exact absurd h hreplies
  | sent h hl' =>
    cases h.symm.trans hm
    exact hl'.sent

/-- A response that was received used up the reply that it is. -/
theorem Attempt.exchanged_of_ok {x : Response} {l' : Link} (h : Attempt c r l (.ok x) l') :
    ∃ m, l.Exchanged l' [m] [.answer x] ∧ c.messageOf r l.asked = .ok m := by
  generalize hresult : Except.ok x = result at h
  cases h with
  | undrafted | unwritten | unreachable => cases hresult
  | @sent m reply _ hm hl' =>
    rw [Reply.eq_answer_of_result hresult.symm] at hl'
    exact ⟨m, hl', hm⟩

/-- A fetch that no signal ends hands on what the attempt came to. -/
theorem fetch_of_unwatched {α : Type} {read : Response → Except Failure α}
    (h : r.watched = false) :
    c.fetch r read l =
      (((c.send r l).1.bind read).mapError (Failure.underDeadline (c.deadline r)),
        (c.send r l).2) := by
  simp only [fetch, h, Bool.false_and, Bool.false_eq_true, if_false]

/-- A fetch that goes out hands on what the reply comes to, unless the signal is watched and fires
meanwhile. -/
theorem fetch_of_replies {α : Type} {m : Message} {reply : Reply} {rest : List Reply}
    (hfree : (r.watched && l.fired) = false) (hm : c.messageOf r l.asked = .ok m)
    (hl : l.replies = reply :: rest)
    (read : Response → Except Failure α) :
    c.fetch r read l =
      (if r.watched && reply.fires then .error .cancelled
        else (reply.result.bind read).mapError (Failure.underDeadline (c.deadline r)),
      c.afterReply m reply rest l) := by
  have hfired : (r.watched && (l.fired || reply.fires)) = (r.watched && reply.fires) := by
    rw [Bool.and_or_distrib_left, hfree, Bool.false_or]
  rw [fetch, hfree, send_of_replies hm hl]
  simp only [afterReply, hfired, Bool.false_eq_true, if_false]
  split <;> rfl

/-- A payload that was fetched came with the one reply that was used up. -/
theorem exchanged_of_fetch_ok {α : Type} {read : Response → Except Failure α} {a : α} {l' : Link}
    (h : r.watched = false) (hfetch : c.fetch r read l = (.ok a, l')) :
    ∃ m x, l.Exchanged l' [m] [.answer x] ∧ c.messageOf r l.asked = .ok m ∧ read x = .ok a := by
  have hattempt := c.attempt r l
  rw [fetch_of_unwatched h] at hfetch
  rcases hsend : c.send r l with ⟨f | x, l₁⟩
  · rw [hsend] at hfetch
    cases hfetch
  · rw [hsend] at hfetch hattempt
    obtain ⟨m, hl₁, hm⟩ := hattempt.exchanged_of_ok
    obtain ⟨hread, rfl⟩ := Prod.mk.inj hfetch
    refine ⟨m, x, hl₁, hm, ?_⟩
    cases hx : read x with
    | error f =>
      rw [Except.bind, hx] at hread
      cases hread
    | ok b =>
      rw [Except.bind, hx] at hread
      exact hread

end Client
end SellerApi
