import SellerApi.Call.Send
import SellerApi.Proofs.Call.Distinct
import SellerApi.Proofs.Client.Attempt

/-! # Calls of any method

Calls of all methods take one course, and so does the download of a report: the request is made,
which may be refused, one fetch follows, and what was received is looked at (`Call.send_eq`). What a
call without a signal does on the link is what sending its request does (`Call.send_of_unwatched`).
-/

namespace SellerApi

open SellerApi.Http SellerApi.Resource

/-- The message is that of some request to the endpoint. -/
def Client.Writes (c : Client) (e : Endpoint) (m : Message) : Prop :=
  ∃ r asked, e.Asks r ∧ c.messageOf r asked = .ok m

namespace Call

/-! ## The course of a call -/

def format : Call → Format
  | .download _ => .media
  | _ => .json

def made : Call → Except Failure Request
  | @list _ _ call => .ok (call.request call.page.pageToken)
  | @lookup _ _ call => .ok call.request
  | .report call | .download call => call.request
  | .savedReport call => call.request

/-- The request of a call as it is sent. -/
def request (call : Call) : Except Failure Request :=
  call.made.map fun r => { r with format := call.format, watched := call.options.watched }

def read : (call : Call) → Response → Except Failure call.Result
  | @list _ _ _ | @lookup _ _ _ | .report _ | .savedReport _ => Response.decode
  | .download _ => Response.download

/-- The last look at what was received. -/
def review : (call : Call) → call.Result → Except Failure call.Result
  | .report _ | .savedReport _ => checkedReport
  | @list _ _ _ | @lookup _ _ _ | .download _ => .ok

variable {call : Call} {c : Client} {r : Request} {l : Link}

theorem send_eq (call : Call) (c : Client) (l : Link) :
    call.send c l = match call.request with
      | .error f => (.error f, l)
      | .ok r => ((c.fetch r call.read l).1.bind call.review, (c.fetch r call.read l).2) := by
  have hok {α : Type} (x : Except Failure α × Link) : x = (x.1.bind .ok, x.2) := by
    rcases x with ⟨_ | _, _⟩ <;> rfl
  cases call with
  | list call => exact hok _
  | lookup call => exact hok _
  | report call =>
    simp only [send, ReportCall.send, Client.fetchReport, request, made]
    cases call.request <;> rfl
  | download call =>
    simp only [send, ReportCall.download, request, made]
    cases call.request with
    | error f => rfl
    | ok r => exact hok _
  | savedReport call =>
    simp only [send, SavedReportCall.send, Client.fetchReport, request, made]
    cases call.request <;> rfl

theorem send_of_refused {f : Failure} (h : call.request = .error f) :
    call.send c l = (.error f, l) := by
  rw [send_eq, h]

theorem asks_of_made (h : call.made = .ok r) : call.endpoint.Asks r := by
  cases call with
  | list call =>
    cases h
    exact .list call _
  | lookup call =>
    cases h
    exact .lookup call
  | report | download => exact .report h
  | savedReport => exact .savedReport h

theorem request_eq_ok_iff :
    call.request = .ok r ↔ ∃ r', call.made = .ok r' ∧
      r = { r' with format := call.format, watched := call.options.watched } := by
  rw [request]
  cases call.made with
  | error f => exact ⟨nofun, fun ⟨_, h, _⟩ => nomatch h⟩
  | ok r' =>
    constructor
    · intro h
      exact ⟨r', rfl, (Except.ok.inj h).symm⟩
    · rintro ⟨_, h, rfl⟩
      cases h
      rfl

theorem asks_of_request (h : call.request = .ok r) : call.endpoint.Asks r := by
  obtain ⟨r', hr', rfl⟩ := request_eq_ok_iff.1 h
  exact .sent (asks_of_made hr') _ _

theorem watched_of_request (h : call.request = .ok r) : r.watched = call.options.watched := by
  obtain ⟨r', -, rfl⟩ := request_eq_ok_iff.1 h
  rfl

/-! ## Calls without a signal -/

/-- A call that no signal ends leaves the link as sending its request does. -/
theorem send_of_unwatched (hwatched : call.options.watched = false) (h : call.request = .ok r) :
    call.send c l =
      ((((c.send r l).1.bind call.read).mapError (Failure.underDeadline (c.deadline r))).bind
        call.review, (c.send r l).2) := by
  rw [send_eq, h]
  dsimp only
  rw [Client.fetch_of_unwatched ((watched_of_request h).trans hwatched)]

/-- One message goes out at most, and it is that of the call's request. -/
theorem exchanged (hwatched : call.options.watched = false) (c : Client) (l : Link) :
    ∃ messages used, l.Exchanged (call.send c l).2 messages used ∧ messages.length ≤ 1 ∧
      ∀ m ∈ messages, ∃ r, call.request = .ok r ∧ c.messageOf r l.asked = .ok m := by
  cases hr : call.request with
  | error f =>
    rw [send_of_refused hr]
    exact ⟨[], [], .none rfl rfl, Nat.zero_le 1, List.forall_mem_nil _⟩
  | ok r =>
    rw [send_of_unwatched hwatched hr]
    obtain ⟨messages, used, hl, hlength, hmessages⟩ := (c.attempt r l).exchanged
    exact ⟨messages, used, hl, hlength, fun m hm => ⟨r, rfl, hmessages m hm⟩⟩

/-- The reply is a response that holds what the call is for. -/
def Delivers (call : Call) (reply : Reply) : Prop :=
  ∃ x, reply = .answer x ∧ ∃ result, (call.read x).bind call.review = .ok result

/-- A call that succeeds has used up one reply, which holds what it is for. -/
theorem exchanged_of_send_ok (hwatched : call.options.watched = false) {result : call.Result}
    {l' : Link} (h : call.send c l = (.ok result, l')) :
    ∃ m reply, l.Exchanged l' [m] [reply] ∧ c.Writes call.endpoint m ∧ call.Delivers reply := by
  cases hr : call.request with
  | error f =>
    rw [send_of_refused hr] at h
    cases h
  | ok r =>
    rw [send_eq, hr] at h
    obtain ⟨hresult, rfl⟩ := Prod.mk.inj h
    rcases hfetch : c.fetch r call.read l with ⟨f | received, l₁⟩
    · rw [hfetch] at hresult
      cases hresult
    · rw [hfetch] at hresult
      obtain ⟨m, x, hl, hm, hread⟩ :=
        Client.exchanged_of_fetch_ok ((watched_of_request hr).trans hwatched) hfetch
      refine ⟨m, _, hl, ⟨r, l.asked, asks_of_request hr, hm⟩, x, rfl, result, ?_⟩
      rw [hread]
      exact hresult

end Call
end SellerApi
