import SellerApi.Proofs.Call.Sending
import SellerApi.Proofs.Client.Fetching
import SellerApi.Proofs.Report.Rectangle

/-! # Deadlines

A deadline passes while no answer is there (`Reply.Silent`), or while the body of an answer is still
coming in (`Response.Stalls`). A call for a document reads the body as part of its fetch, and so it
times out either way (`Call.timedOut_iff_late`). A download hands the open body on. What its reader
meets afterwards is a fault of the transport, however the body is read (`Download.meets_iff`): only
a deadline that passes before the answer surfaces as a timeout (`ReportCall.timedOut_iff_silent`).
-/

namespace SellerApi

open SellerApi.Http SellerApi.Resource SellerApi.Text

/-! ## Where a deadline passes -/

/-- The deadline passes without an answer. If a signal fires meanwhile, nobody watches it. -/
inductive Reply.Silent (watched : Bool) : Reply → Prop where
  | silence : Silent watched .silence
  | interruption (h : watched = false) : Silent watched .interruption

namespace Http

/-- The deadline passes while the body comes in, behind a status that means success. -/
structure Response.Stalls (x : Response) : Prop where
  status : 200 ≤ x.status ∧ x.status ≤ 299
  ending : x.body.ending = .stalled

end Http

/-- The deadline passes before the answer is there with all of its body. -/
inductive Reply.Late (watched : Bool) : Reply → Prop where
  | silent {reply : Reply} (h : reply.Silent watched) : Late watched reply
  | stalled {x : Response} (h : x.Stalls) : Late watched (.answer x)

namespace Reply

variable {reply : Reply} {watched : Bool}

theorem Silent.unheard (h : reply.Silent watched) : (watched && reply.fires) = false := by
  cases h with
  | silence => exact Bool.and_false watched
  | interruption h =>
    rw [h]
    rfl

/-- What comes of a reply that no watched signal interrupts blames the deadline if the reply is
silent, or if the reader of the answer does. -/
theorem bind_eq_deadline_iff (h : (watched && reply.fires) = false) {α : Type}
    {read : Response → Except Failure α} :
    reply.result.bind read = .error (.transport .deadline) ↔
      reply.Silent watched ∨ ∃ x, reply = .answer x ∧ read x = .error (.transport .deadline) := by
  cases reply with
  | answer x =>
    refine ⟨fun h => .inr ⟨x, rfl, h⟩, ?_⟩
    rintro (hsilent | ⟨_, hx, h⟩)
    · cases hsilent
    · cases hx
      exact h
  | silence => exact ⟨fun _ => .inl .silence, fun _ => rfl⟩
  | interruption =>
    have hwatched : watched = false := (Bool.and_true watched).symm.trans h
    exact ⟨fun _ => .inl (.interruption hwatched), fun _ => rfl⟩
  | hangUp =>
    refine ⟨nofun, ?_⟩
    rintro (hsilent | ⟨_, hx, _⟩)
    · cases hsilent
    · cases hx

end Reply

/-! ## Reading a download -/

namespace Http

/-- The ways to read a download. -/
inductive Reading where
  | octets
  | text
  | stream
  | copy
  deriving DecidableEq, Repr

namespace Download

variable {d : Download} {f : Failure}

/-- Whoever reads a download in this way meets this failure. -/
inductive Meets (d : Download) : Reading → Failure → Prop where
  | octets {f : Failure} (h : d.octets = .error f) : Meets d .octets f
  | text {f : Failure} (h : d.text = .error f) : Meets d .text f
  | stream {f : Failure} (h : .error f ∈ d.stream) : Meets d .stream f
  | copy {f : Failure} (h : d.copy.1 = .error f) : Meets d .copy f

theorem octets_eq_error_iff :
    d.octets = .error f ↔ ∃ fault, d.response.body.fault? = some fault ∧ f = .transport fault := by
  rw [octets, Body.octets]
  cases d.response.body.fault? with
  | none =>
    constructor
    · intro h
      cases h
    · rintro ⟨_, ⟨⟩, _⟩
  | some fault =>
    constructor
    · intro h
      exact ⟨fault, rfl, (Except.error.inj h).symm⟩
    · rintro ⟨_, ⟨⟩, rfl⟩
      rfl

theorem text_eq_error_iff : d.text = .error f ↔ d.octets = .error f := by
  rw [text]
  cases d.octets with
  | error g => exact ⟨fun h => by cases h; rfl, fun h => by cases h; rfl⟩
  | ok octets => exact ⟨nofun, nofun⟩

theorem error_mem_stream_iff :
    .error f ∈ d.stream ↔ ∃ fault, d.response.body.fault? = some fault ∧ f = .transport fault := by
  have hpieces : Except.error f ∉ d.response.body.pieces.map Except.ok := by
    intro h
    obtain ⟨piece, -, hpiece⟩ := List.mem_map.1 h
    cases hpiece
  rw [stream, List.mem_append, or_iff_right hpieces]
  cases d.response.body.fault? <;> simp

theorem copy_eq_error_iff :
    d.copy.1 = .error f ↔ ∃ fault, d.response.body.fault? = some fault ∧ f = .transport fault := by
  rw [copy]
  cases d.response.body.fault? <;> simp [eq_comm]

/-- All readers meet the same: what went wrong behind the last piece, as a fault of the
transport. -/
theorem meets_iff {how : Reading} :
    d.Meets how f ↔ ∃ fault, d.response.body.fault? = some fault ∧ f = .transport fault := by
  cases how with
  | octets => exact Iff.trans ⟨fun | .octets h => h, .octets⟩ octets_eq_error_iff
  | text =>
    exact Iff.trans ⟨fun | .text h => h, .text⟩ (text_eq_error_iff.trans octets_eq_error_iff)
  | stream => exact Iff.trans ⟨fun | .stream h => h, .stream⟩ error_mem_stream_iff
  | copy => exact Iff.trans ⟨fun | .copy h => h, .copy⟩ copy_eq_error_iff

/-- What a reader gets from a body that stalls: all of its pieces, and then the failure. -/
theorem stream_of_stalls {x : Response} (hx : x.Stalls) :
    (Download.mk x).stream = x.body.pieces.map .ok ++ [.error (.transport .deadline)] := by
  rw [stream, Body.fault?, hx.ending]

theorem copy_of_stalls {x : Response} (hx : x.Stalls) :
    (Download.mk x).copy = (.error (.transport .deadline), x.body.pieces.flatten) := by
  rw [copy, Body.fault?, hx.ending]

end Download

/-! ## Reading a response -/

theorem Body.fault?_eq_deadline_iff {b : Body} :
    b.fault? = some .deadline ↔ b.ending = .stalled := by
  rw [fault?]
  cases b.ending <;> simp

namespace Response

variable {x : Response} {f : Failure}

theorem decode_of_stalls {α : Type} [Wire α] (hx : x.Stalls) :
    x.decode (α := α) = .error (.transport .deadline) := by
  rw [decode, accept_eq_ok_iff.2 ⟨rfl, hx.status⟩]
  simp only [bind, Except.bind, Body.octets, Body.fault?, hx.ending]
  rfl

theorem decode_eq_deadline_iff {α : Type} [Wire α] :
    x.decode (α := α) = .error (.transport .deadline) ↔ x.Stalls := by
  refine ⟨fun h => ?_, decode_of_stalls⟩
  obtain haccept | ⟨hstatus, ⟨fault, hfault, hf⟩ | hf⟩ := decode_error h
  · cases status?_of_accept_error haccept
  · cases hf
    exact ⟨hstatus, Body.fault?_eq_deadline_iff.1 hfault⟩
  · cases hf

theorem decode_ne_timedOut {α : Type} [Wire α] (ms : Nat) :
    x.decode (α := α) ≠ .error (.timedOut ms) := by
  intro h
  obtain haccept | ⟨-, ⟨fault, -, hf⟩ | hf⟩ := decode_error h
  · cases status?_of_accept_error haccept
  · cases hf
  · cases hf

end Response
end Http

/-! ## Fetches -/

namespace Client

variable {c : Client} {r : Request} {l : Link} {m : Message} {reply : Reply} {rest : List Reply}

/-- A fetch that goes out times out if its reply or its reader finds the deadline passed. -/
theorem fetch_timedOut_iff {α : Type} (hfree : (r.watched && l.fired) = false)
    (hm : c.messageOf r l.asked = .ok m) (hl : l.replies = reply :: rest)
    {read : Response → Except Failure α} {ms : Nat} (hread : ∀ x, read x ≠ .error (.timedOut ms)) :
    (c.fetch r read l).1 = .error (.timedOut ms) ↔
      (reply.Silent r.watched ∨
        ∃ x, reply = .answer x ∧ read x = .error (.transport .deadline)) ∧
      ms = c.deadline r % bound64 := by
  have hne : reply.result.bind read ≠ .error (.timedOut ms) := by
    cases reply with
    | answer x => exact hread x
    | silence | hangUp | interruption => nofun
  rw [fetch_of_replies hfree hm hl]
  dsimp only
  by_cases hheard : (r.watched && reply.fires) = true
  · -- the fetch ends as cancelled, and the reply is neither silent nor an answer
    rw [if_pos hheard]
    refine ⟨nofun, fun ⟨h, _⟩ => ?_⟩
    rcases h with hsilent | ⟨x, rfl, -⟩
    · cases hsilent.unheard.symm.trans hheard
    · cases (Bool.and_false r.watched).symm.trans hheard
  · rw [if_neg hheard, mapError_underDeadline_eq_timedOut_iff hne]
    exact and_congr_left fun _ => Reply.bind_eq_deadline_iff (Bool.eq_false_iff.2 hheard)

end Client

/-! ## Calls -/

theorem checkedReport_ne_timedOut {a : Answer Report} {ms : Nat} :
    checkedReport a ≠ .error (.timedOut ms) := by
  intro h
  cases hcheck : a.payload.check with
  | ok =>
    rw [checkedReport, hcheck] at h
    cases h
  | error f =>
    obtain ⟨m, -, rfl⟩ := Report.check_eq_error_iff.1 hcheck
    rw [checkedReport, hcheck] at h
    cases h

namespace Call

variable {call : Call} {x : Response} {ms : Nat}

theorem read_ne_timedOut : call.read x ≠ .error (.timedOut ms) := by
  cases call with
  | download =>
    -- a response that is not accepted has a status, and a timeout has none
    intro h
    cases Response.status?_of_download_error h
  | list | lookup | report | savedReport => exact Response.decode_ne_timedOut ms

theorem read_eq_deadline_iff :
    call.read x = .error (.transport .deadline) ↔ call.format = .json ∧ x.Stalls := by
  cases call with
  | download =>
    constructor
    · intro h
      cases Response.status?_of_download_error h
    · rintro ⟨⟨⟩, -⟩
  | list | lookup | report | savedReport =>
    exact (Response.decode_eq_deadline_iff).trans (and_iff_right rfl).symm

theorem bind_review_eq_timedOut_iff {result : Except Failure call.Result} :
    result.bind call.review = .error (.timedOut ms) ↔ result = .error (.timedOut ms) := by
  cases result with
  | error f => exact ⟨fun h => congrArg _ (Except.error.inj h), fun h => h ▸ rfl⟩
  | ok a =>
    refine ⟨fun h => ?_, nofun⟩
    cases call with
    | list | lookup | download => cases h
    | report | savedReport => exact absurd h checkedReport_ne_timedOut

/-- The milliseconds that a call may take: its own deadline, or else that of the client. -/
def deadline (call : Call) (c : Client) : Nat := call.options.deadline.getD c.settings.timeout

variable {c : Client} {r : Request} {l : Link} {m : Message} {reply : Reply} {rest : List Reply}

theorem deadline_of_request (h : call.request = .ok r) : c.deadline r = call.deadline c := by
  obtain ⟨r', hmade, rfl⟩ := request_eq_ok_iff.1 h
  have hdeadline : r'.deadline = call.options.deadline := by
    cases call with
    | list call =>
      cases hmade
      rfl
    | lookup call =>
      cases hmade
      rfl
    | report call | download call | savedReport call =>
      obtain ⟨-, -, hr'⟩ := bind_eq_ok_iff.1 hmade
      cases hr'
      rfl
  exact congrArg (Option.getD · c.settings.timeout) hdeadline

/-- A call that reaches the server times out if the deadline passes before the answer, or if it is
for a document and the deadline passes while the body comes in. -/
theorem timedOut_iff (hrequest : call.request = .ok r) (hm : c.messageOf r l.asked = .ok m)
    (hl : l.replies = reply :: rest) (hfree : (call.options.watched && l.fired) = false) :
    (call.send c l).1 = .error (.timedOut ms) ↔
      (reply.Silent call.options.watched ∨
        call.format = .json ∧ ∃ x, reply = .answer x ∧ x.Stalls) ∧
      ms = call.deadline c % bound64 := by
  rw [← watched_of_request hrequest] at hfree ⊢
  rw [← deadline_of_request hrequest, send_eq, hrequest]
  dsimp only
  rw [bind_review_eq_timedOut_iff, Client.fetch_timedOut_iff hfree hm hl fun _ => read_ne_timedOut]
  refine and_congr_left fun _ => or_congr_right ?_
  simp only [read_eq_deadline_iff]
  exact ⟨fun ⟨x, hx, hformat, hstalls⟩ => ⟨hformat, x, hx, hstalls⟩,
    fun ⟨hformat, x, hx, hstalls⟩ => ⟨x, hx, hformat, hstalls⟩⟩

/-- A call for a document times out if the deadline passes before the document is there. -/
theorem timedOut_iff_late (hformat : call.format = .json) (hrequest : call.request = .ok r)
    (hm : c.messageOf r l.asked = .ok m) (hl : l.replies = reply :: rest)
    (hfree : (call.options.watched && l.fired) = false) :
    (call.send c l).1 = .error (.timedOut ms) ↔
      reply.Late call.options.watched ∧ ms = call.deadline c % bound64 := by
  rw [timedOut_iff hrequest hm hl hfree]
  refine and_congr_left fun _ => ?_
  constructor
  · rintro (h | ⟨-, x, rfl, h⟩)
    · exact .silent h
    · exact .stalled h
  · rintro (h | h)
    · exact .inl h
    · exact .inr ⟨hformat, _, rfl, h⟩

end Call

/-! ## Downloads -/

namespace ReportCall

/-- Whoever sends a call for raw content, and then reads what came in this way, meets this
failure. -/
inductive Meets (call : ReportCall) (c : Client) (l : Link) (how : Reading) : Failure → Prop where
  | fetch {f : Failure} (h : (call.download c l).1 = .error f) : Meets call c l how f
  | body {d : Download} {f : Failure} (hd : (call.download c l).1 = .ok d) (h : d.Meets how f) :
    Meets call c l how f

variable {call : ReportCall} {c : Client} {r : Request} {l : Link} {m : Message} {reply : Reply}
  {rest : List Reply}

theorem meets_iff_of_download {d : Download} (hd : (call.download c l).1 = .ok d) {how : Reading}
    {f : Failure} : call.Meets c l how f ↔ d.Meets how f := by
  refine ⟨fun h => ?_, .body hd⟩
  cases h with
  | fetch h => cases hd.symm.trans h
  | body hd' h =>
    cases hd.symm.trans hd'
    exact h

theorem meets_timedOut_iff {how : Reading} {ms : Nat} :
    call.Meets c l how (.timedOut ms) ↔ (call.download c l).1 = .error (.timedOut ms) := by
  refine ⟨fun h => ?_, .fetch⟩
  cases h with
  | fetch h => exact h
  | body hd h =>
    obtain ⟨fault, -, hf⟩ := Download.meets_iff.1 h
    cases hf

theorem download_of_stalls {x : Response} (hrequest : (Call.download call).request = .ok r)
    (hm : c.messageOf r l.asked = .ok m) (hl : l.replies = .answer x :: rest)
    (hfree : (call.options.watched && l.fired) = false) (hx : x.Stalls) :
    (call.download c l).1 = .ok ⟨x⟩ := by
  have hfree' : (r.watched && l.fired) = false := by
    rw [Call.watched_of_request hrequest]
    exact hfree
  have hread : (Call.download call).read x = .ok ⟨x⟩ := Response.download_of_status hx.status
  have hfetch := Client.fetch_eq_of_send_ok hfree' (Client.send_of_replies hm hl)
    (Call.download call).read
  rw [hread] at hfetch
  have hdownload : call.download c l = _ := Call.send_eq (.download call) c l
  rw [hdownload, hrequest]
  dsimp only
  rw [hfetch]
  rfl

/-- A deadline surfaces as a timeout of a download, however it is read, if and only if it passes
before the answer; the count of milliseconds is kept in 64 bits. If it passes while the body comes
in, then the download succeeds, and whoever reads it gets all that came in and meets a fault of the
transport. A call for a document times out in both cases. -/
theorem timedOut_iff_silent (hrequest : (Call.download call).request = .ok r)
    (hm : c.messageOf r l.asked = .ok m) (hl : l.replies = reply :: rest)
    (hfree : (call.options.watched && l.fired) = false) :
    (∀ how ms, call.Meets c l how (.timedOut ms) ↔
      reply.Silent call.options.watched ∧ ms = (Call.download call).deadline c % bound64) ∧
    (∀ x, reply = .answer x → x.Stalls →
      (call.download c l).1 = .ok ⟨x⟩ ∧
      (∀ how f, call.Meets c l how f ↔ f = .transport .deadline) ∧
      (Download.mk x).stream = x.body.pieces.map .ok ++ [.error (.transport .deadline)] ∧
      (Download.mk x).copy = (.error (.transport .deadline), x.body.pieces.flatten)) ∧
    ∀ (other : Call) r m ms, other.format = .json → other.request = .ok r →
      c.messageOf r l.asked = .ok m → (other.options.watched && l.fired) = false →
      ((other.send c l).1 = .error (.timedOut ms) ↔
        reply.Late other.options.watched ∧ ms = other.deadline c % bound64) := by
  refine ⟨fun how ms => ?_, ?_, fun other r m ms hformat hrequest hm hfree => ?_⟩
  · rw [meets_timedOut_iff]
    refine (Call.timedOut_iff hrequest hm hl hfree).trans (and_congr_left fun _ => ?_)
    exact or_iff_left fun h => nomatch h.1
  · rintro x rfl hx
    have hdownload := download_of_stalls hrequest hm hl hfree hx
    refine ⟨hdownload, fun how f => ?_, Download.stream_of_stalls hx, Download.copy_of_stalls hx⟩
    rw [meets_iff_of_download hdownload, Download.meets_iff,
      Body.fault?_eq_deadline_iff.2 hx.ending]
    simp
  · exact Call.timedOut_iff_late hformat hrequest hm hl hfree

/-- A call for a report of one month that may take a quarter of a second. -/
def timedCall : ReportCall := Report.monthCall.set (.option (.deadline 250))

/-- The request of that call. -/
def timedRequest (format : Format) : Request :=
  { timedCall.options.apply { Endpoint.report.request with query := timedCall.query } with format }

theorem request_timedCall :
    (Call.download timedCall).request = .ok (timedRequest .media) ∧
      (Call.report timedCall).request = .ok (timedRequest .json) := by
  have hcheck : timedCall.check = .ok () := by decide +kernel
  have hrequest : timedCall.request =
      .ok (timedCall.options.apply { Endpoint.report.request with query := timedCall.query }) := by
    rw [request, hcheck]
    rfl
  simp only [Call.request, Call.made, hrequest]
  exact ⟨rfl, rfl⟩

theorem exists_messageOf_timedRequest (format : Format) :
    ∃ m, Client.plainClient.messageOf (timedRequest format) 0 = .ok m := by
  have hok : (Client.plainClient.messageOf (timedRequest format) 0).isOk = true := by
    cases format <;> decide +kernel
  cases hm : Client.plainClient.messageOf (timedRequest format) 0 with
  | ok m => exact ⟨m, rfl⟩
  | error f =>
    rw [hm] at hok
    cases hok

/-- Three of fifty octets come in. -/
def stallingResponse : Response :=
  { status := 200, length := some 50, body := ⟨[[0x61, 0x62], [0x63]], .stalled⟩ }

theorem timedOut_iff_silent_quarter :
    let silent : Link := { replies := [.silence] }
    let stalling : Link := { replies := [.answer stallingResponse] }
    (∀ how, timedCall.Meets Client.plainClient silent how (.timedOut 250)) ∧
    (∀ how f, timedCall.Meets Client.plainClient stalling how f ↔ f = .transport .deadline) ∧
    (timedCall.send Client.plainClient silent).1 = .error (.timedOut 250) ∧
    (timedCall.send Client.plainClient stalling).1 = .error (.timedOut 250) := by
  intro silent stalling
  obtain ⟨hmedia, hjson⟩ := request_timedCall
  obtain ⟨m, hm⟩ := exists_messageOf_timedRequest .media
  obtain ⟨m', hm'⟩ := exists_messageOf_timedRequest .json
  have hstalls : stallingResponse.Stalls := ⟨by decide, rfl⟩
  obtain ⟨hsilent, -, hsent⟩ := timedOut_iff_silent (l := silent) hmedia hm rfl rfl
  obtain ⟨-, hstalling, hsent'⟩ := timedOut_iff_silent (l := stalling) hmedia hm rfl rfl
  refine ⟨fun how => (hsilent how 250).2 ⟨.silence, rfl⟩,
    (hstalling stallingResponse rfl hstalls).2.1, ?_, ?_⟩
  · exact (hsent (.report timedCall) _ m' 250 rfl hjson hm' rfl).2 ⟨.silent .silence, rfl⟩
  · exact (hsent' (.report timedCall) _ m' 250 rfl hjson hm' rfl).2 ⟨.stalled hstalls, rfl⟩

/-- The body of a successful response stalls. The call for the document times out, and no reader of
the download is told so. -/
theorem not_timedOut_stalling :
    let stalling : Link := { replies := [.answer stallingResponse] }
    stallingResponse.Stalls ∧
    (timedCall.send Client.plainClient stalling).1 = .error (.timedOut 250) ∧
    ¬∃ how, timedCall.Meets Client.plainClient stalling how (.timedOut 250) := by
  have hdownload : (timedCall.download Client.plainClient
      { replies := [.answer stallingResponse] }).1 = .ok ⟨stallingResponse⟩ := by
    decide +kernel
  refine ⟨⟨by decide, rfl⟩, by decide +kernel, ?_⟩
  rintro ⟨how, h⟩
  rw [meets_timedOut_iff, hdownload] at h
  cases h

end ReportCall
end SellerApi
