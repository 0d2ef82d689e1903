import SellerApi.Http.Message
import SellerApi.Http.Response

/-! # The link to a server

A `Link` is all that clients share with the world: what the server is going to do with the next
requests, the requests that it got, how often a token source was asked, and whether the caller's
cancellation signal has fired. When the server has nothing more to do, it cannot be reached. -/

namespace SellerApi

open SellerApi.Http

/-- What the server does with one request. -/
inductive Reply where
  | answer (response : Response)
  /-- It never answers. -/
  | silence
  /-- It closes the connection. -/
  | hangUp
  /-- It never answers, and meanwhile the caller's signal fires. -/
  | interruption
  deriving DecidableEq, Repr

/-- The state of the world around a client. -/
structure Link where
  /-- What the server does with the requests to come. -/
  replies : List Reply := []
  /-- The requests that the server got, in order. -/
  sent : List Message := []
  /-- How often a token source was asked. -/
  asked : Nat := 0
  /-- Whether the cancellation signal has fired. -/
  fired : Bool := false
  deriving DecidableEq, Repr

namespace Link

/-- Fires the cancellation signal. -/
def fire (l : Link) : Link := { l with fired := true }

/-- Sends a message and waits for the answer, or for the deadline. -/
def exchange (l : Link) (m : Message) : Except Fault Response × Link :=
  match l.replies with
  | [] => (.error .unreachable, l)
  | reply :: replies =>
    let l := { l with replies, sent := l.sent ++ [m] }
    match reply with
    | .answer r => (.ok r, l)
    | .silence => (.error .deadline, l)
    | .hangUp => (.error .hungUp, l)
    | .interruption => (.error .deadline, l.fire)

/-- An answered message has used up one reply. -/
theorem length_replies_of_exchange_ok {l l' : Link} {m : Message} {r : Response}
    (h : l.exchange m = (.ok r, l')) : l'.replies.length < l.replies.length := by
  unfold exchange at h
  split at h
  · simp at h
  · next heq =>
    rw [heq]
    split at h <;> simp at h
    simp [← h.2]

end Link
end SellerApi
