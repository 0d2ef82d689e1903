import SellerApi.Http.Response
import SellerApi.Proofs.Text.Utf8

/-! # What a response comes to

A response whose body arrives to its end is unchanged, a refusal, a document or no document:
`Response.Outcome`, which says for each of them what a caller gets who wants a document, and what
one who wants the raw content. The two get the same failure, unless the status means success. There
is always an outcome (`Response.exists_outcome`), and only one (`Response.Outcome.eq`). Of a body
that does not arrive to its end `Response.decode_error` says how its document fails.
-/

namespace SellerApi.Http

open SellerApi.Json SellerApi.Resource SellerApi.Text

/-! ## Statuses -/

theorem isSuccess_iff {status : Nat} : isSuccess status = true ↔ 200 ≤ status ∧ status ≤ 299 := by
  rw [isSuccess, Bool.and_eq_true, decide_eq_true_iff, decide_eq_true_iff]
  omega

/-- A response is accepted if its status means success, and then as it is. -/
theorem Response.accept_eq_ok_iff {x y : Response} :
    x.accept = .ok y ↔ y = x ∧ 200 ≤ x.status ∧ x.status ≤ 299 := by
  unfold accept
  by_cases hunchanged : x.status = 304
  · rw [if_pos hunchanged]
    refine ⟨fun h => (nomatch h), fun h => ?_⟩
    omega
  rw [if_neg hunchanged]
  by_cases hstatus : isSuccess x.status = true
  · rw [if_pos hstatus]
    exact ⟨fun h => ⟨(Except.ok.inj h).symm, isSuccess_iff.1 hstatus⟩,
      fun h => congrArg Except.ok h.1.symm⟩
  · rw [if_neg hstatus]
    exact ⟨fun h => (nomatch h), fun h => absurd (isSuccess_iff.2 h.2) hstatus⟩

/-! ## Bodies -/

theorem Body.fault?_of_complete {b : Body} (h : b.ending = .complete) : b.fault? = none := by
  rw [fault?, h]

theorem Body.octets_of_complete {b : Body} (h : b.ending = .complete) :
    b.octets = .ok b.pieces.flatten := by
  rw [octets, fault?_of_complete h]

/-- A download gives these octets, however they are asked for. -/
structure Download.Yields (d : Download) (octets : List UInt8) : Prop where
  whole : d.octets = .ok octets
  stream : ∃ pieces : List (List UInt8), d.stream = pieces.map .ok ∧ pieces.flatten = octets
  copy : d.copy = (.ok octets.length, octets)

theorem Download.yields_of_complete {x : Response} (hx : x.body.ending = .complete) :
    (Download.mk x).Yields x.body.pieces.flatten where
  whole := by
    rw [Download.octets, Body.octets_of_complete hx]
    rfl
  stream := by
    refine ⟨x.body.pieces, ?_, rfl⟩
    rw [stream, Body.fault?_of_complete hx]
    exact List.append_nil _
  copy := by
    rw [copy, Body.fault?_of_complete hx]

/-- A refusal tells what the server answered. The body is kept as a text, in place of what is not
UTF-8 there is a mark, and the explanation is the one that this text holds. -/
structure Refusal.Tells (r : Refusal) (status : Nat) (headers : Headers) (octets : List UInt8) :
    Prop where
  status : r.status = status
  headers : r.headers = headers
  body : r.body = String.ofList (Utf8.lossy octets)
  verbatim : ∀ text : String, octets = Utf8.encode text.toList → r.body = text
  explanation : ∀ e, r.explanation = some e ↔
    ∃ n, readTextNode? r.body = some n ∧ Explanation.ofEnvelope? n = some e

theorem Refusal.tells_of_complete {x : Response} (hx : x.body.ending = .complete) :
    (Refusal.of x.status x.headers x.body.refusalText).Tells x.status x.headers
      x.body.pieces.flatten := by
  have hbody : x.body.refusalText = String.ofList (Utf8.lossy x.body.pieces.flatten) := by
    rw [Body.refusalText, Body.octets_of_complete hx]
  exact {
    status := rfl
    headers := rfl
    body := hbody
    verbatim := fun text h => by
      rw [h, Utf8.lossy_encode, String.ofList_toList] at hbody
      exact hbody
    explanation := fun e => Option.bind_eq_some_iff }

/-- What is told of an answer makes up the refusal. -/
theorem Refusal.Tells.eq {r r' : Refusal} {status : Nat} {headers : Headers} {octets : List UInt8}
    (h : r.Tells status headers octets) (h' : r'.Tells status headers octets) : r = r' := by
  have hbody : r.body = r'.body := h.body.trans h'.body.symm
  have hexplanation : r.explanation = r'.explanation := by
    refine Option.ext fun e => ?_
    rw [h.explanation, h'.explanation, hbody]
  cases r
  cases r'
  cases h.status.trans h'.status.symm
  cases h.headers.trans h'.headers.symm
  cases hbody
  cases hexplanation
  rfl

namespace Response

variable {α : Type} [Wire α] {x : Response} {f : Failure}

/-! ## Acceptance -/

/-- A response that is not accepted fails with its status. -/
theorem status?_of_accept_error (h : x.accept = .error f) : f.status? = some x.status := by
  unfold accept at h
  split at h
  · next hstatus =>
    cases h
    exact congrArg some hstatus.symm
  · split at h <;> cases h
    rfl

theorem status?_of_download_error (h : x.download = .error f) : f.status? = some x.status := by
  rw [download] at h
  cases haccept : x.accept with
  | error g =>
    rw [haccept] at h
    cases h
    exact status?_of_accept_error haccept
  | ok y =>
    rw [haccept] at h
    cases h

theorem download_of_status (h : 200 ≤ x.status ∧ x.status ≤ 299) : x.download = .ok ⟨x⟩ := by
  rw [download, accept_eq_ok_iff.2 ⟨rfl, h⟩]
  rfl

/-! ## Outcomes -/

/-- The payload that octets hold. -/
def payload? (α : Type) [Wire α] (octets : List UInt8) : Option α :=
  (readNode? octets).bind Wire.ofNode?

/-- What a response with all of its body comes to, as a document and as raw content. -/
inductive Outcome (x : Response) : Except Failure (Answer α) → Except Failure Download → Prop where
  | unchanged (hstatus : x.status = 304) :
    Outcome x (.error (.notModified x.headers)) (.error (.notModified x.headers))
  | refused {refusal : Refusal} (hstatus : x.status ≠ 304 ∧ ¬(200 ≤ x.status ∧ x.status ≤ 299))
    (htells : refusal.Tells x.status x.headers x.body.pieces.flatten) :
    Outcome x (.error (.refused refusal)) (.error (.refused refusal))
  | document {payload : α} (hstatus : 200 ≤ x.status ∧ x.status ≤ 299)
    (hpayload : payload? α x.body.pieces.flatten = some payload)
    (hyields : (Download.mk x).Yields x.body.pieces.flatten) :
    Outcome x (.ok ⟨x.status, x.headers, payload⟩) (.ok ⟨x⟩)
  | noDocument (hstatus : 200 ≤ x.status ∧ x.status ≤ 299)
    (hpayload : payload? α x.body.pieces.flatten = none)
    (hyields : (Download.mk x).Yields x.body.pieces.flatten) :
    Outcome x (.error .badDocument) (.ok ⟨x⟩)

theorem of_accept_error (h : x.accept = .error f) :
    x.decode (α := α) = .error f ∧ x.download = .error f := by
  rw [decode, download, h]
  exact ⟨rfl, rfl⟩

/-- A document is not accepted, or its body breaks off, or it has not the expected shape. -/
theorem decode_error (h : x.decode (α := α) = .error f) :
    x.accept = .error f ∨ (200 ≤ x.status ∧ x.status ≤ 299) ∧
      ((∃ fault, x.body.fault? = some fault ∧ f = .transport fault) ∨ f = .badDocument) := by
  cases haccept : x.accept with
  | error g =>
    cases (of_accept_error haccept).1.symm.trans h
    exact .inl rfl
  | ok y =>
    obtain ⟨rfl, hstatus⟩ := accept_eq_ok_iff.1 haccept
    refine .inr ⟨hstatus, ?_⟩
    rw [decode, haccept] at h
    simp only [bind, Except.bind, Body.octets] at h
    cases hfault : y.body.fault? with
    | some fault =>
      rw [hfault] at h
      exact .inl ⟨fault, rfl, (Except.error.inj h).symm⟩
    | none =>
      rw [hfault] at h
      dsimp only at h
      split at h
      · cases h
      · exact .inr (Except.error.inj h).symm

theorem of_success (hx : x.body.ending = .complete) (h : 200 ≤ x.status ∧ x.status ≤ 299) :
    x.decode = (match payload? α x.body.pieces.flatten with
      | some payload => .ok ⟨x.status, x.headers, payload⟩
      | none => .error .badDocument) ∧ x.download = .ok ⟨x⟩ := by
  rw [decode, download, accept_eq_ok_iff.2 ⟨rfl, h⟩]
  refine ⟨?_, rfl⟩
  simp only [bind, Except.bind, Body.octets_of_complete hx, payload?]
  rfl

/-- A response comes to the one outcome that it has. -/
theorem Outcome.eq (hx : x.body.ending = .complete) {document : Except Failure (Answer α)}
    {content : Except Failure Download} (h : Outcome x document content) :
    x.decode = document ∧ x.download = content := by
  cases h with
  | unchanged hstatus =>
    exact of_accept_error (if_pos hstatus)
  | refused hstatus htells =>
    refine of_accept_error ?_
    rw [accept, if_neg hstatus.1, if_neg fun h => hstatus.2 (isSuccess_iff.1 h),
      (Refusal.tells_of_complete hx).eq htells]
  | document hstatus hpayload hyields =>
    have h := of_success (α := α) hx hstatus
    rwa [hpayload] at h
  | noDocument hstatus hpayload hyields =>
    have h := of_success (α := α) hx hstatus
    rwa [hpayload] at h

theorem exists_outcome (α : Type) [Wire α] (hx : x.body.ending = .complete) :
    ∃ (document : Except Failure (Answer α)) (content : Except Failure Download),
      Outcome x document content := by
  have hyields := Download.yields_of_complete hx
  by_cases hunchanged : x.status = 304
  · exact ⟨_, _, .unchanged hunchanged⟩
  by_cases hstatus : 200 ≤ x.status ∧ x.status ≤ 299
  · cases hpayload : payload? α x.body.pieces.flatten with
    | some payload => exact ⟨_, _, .document hstatus hpayload hyields⟩
    | none => exact ⟨_, _, .noDocument hstatus hpayload hyields⟩
  · exact ⟨_, _, .refused ⟨hunchanged, hstatus⟩ (Refusal.tells_of_complete hx)⟩

/-- No deadline is to blame for an outcome. -/
theorem Outcome.underDeadline {document : Except Failure (Answer α)}
    {content : Except Failure Download} (h : Outcome x document content) (ms : Nat) :
    document.mapError (Failure.underDeadline ms) = document ∧
      content.mapError (Failure.underDeadline ms) = content := by
  cases h <;> exact ⟨rfl, rfl⟩

end Response
end SellerApi.Http
