import SellerApi.Client.Credential
import SellerApi.Client.Link
import SellerApi.Client.Transport
import SellerApi.Request.Basic
import SellerApi.Url.Reader

/-! # Clients

A `Client` turns requests into messages. Its base URL is read once, when it is made; a base that can
hold no path is refused then. Every fetch sends at most one message: nothing is sent again. Time is
no part of it: what a pacing makes a message wait, and the warning after a long wait, is left out,
and a `Bucket` only tells whether there are permits. -/

namespace SellerApi

open SellerApi.Http SellerApi.Resource SellerApi.Text

/-- Who sends requests. -/
structure Client where
  settings : Transport
  base : Url
  credential : Credential := .none

namespace Client

/-- A client of given settings, without a credential. -/
def of (t : Transport) : Except Failure Client :=
  match Url.read t.baseUrl with
  | .error fault => .error (.badUrl fault)
  | .ok base =>
    if base.isRootless then
      .error (.settings ("Base URL cannot hold a path: " ++ t.baseUrl))
    else if isHeaderValue t.userAgent then .ok { settings := t, base }
    else .error (.transport (.unsendable "user agent"))

/-- A client as a diagnostic shows it. -/
def describe (c : Client) : String :=
  describePartly "HttpClient"
    [("config", c.settings.describe), ("auth", c.credential.describe),
      ("has_rate_limiter", describeBool c.settings.pacing.isSome)]

/-- The milliseconds that a request may take. -/
def deadline (c : Client) (r : Request) : Nat := r.deadline.getD c.settings.timeout

/-- The fields of a request: those of every request, the tag of the version that the caller
holds. -/
def fields (c : Client) (r : Request) : List (String × String) :=
  c.settings.headers ++
    match r.cacheTag with
    | some tag => [("if-none-match", tag)]
    | none => []

/-- Fields with the client's name, unless they name another one. -/
def signed (c : Client) (d : Draft) : Draft :=
  if d.fields.any fun f => lowercase f.1 = "user-agent" then d
  else d.add "user-agent" c.settings.userAgent

/-- The draft of a request, without the credential. -/
def draft (c : Client) (r : Request) : Except Failure Draft := do
  let url ← r.resolve c.base
  return (Draft.to url).addAll (c.fields r)

/-- Sends a request and hands on the response, whatever its status. A request that cannot be drafted
does not ask the token source, and a source that fails keeps the request from being sent. -/
def send (c : Client) (r : Request) (l : Link) : Except Failure Response × Link :=
  match c.draft r with
  | .error f => (.error f, l)
  | .ok d =>
    let ready := (c.credential.attach l.asked d).bind fun d => (c.signed d).message
    let l := { l with asked := c.credential.askedAfter l.asked }
    match ready with
    | .error f => (.error f, l)
    | .ok m =>
      let (result, l) := l.exchange m
      (result.mapError .transport, l)

/-- Sends a request and reads the response. A signal that is watched ends the fetch when it fires,
and one that has fired already keeps it from beginning. -/
def fetch {α : Type} (c : Client) (r : Request) (read : Response → Except Failure α) (l : Link) :
    Except Failure α × Link :=
  if r.watched && l.fired then (.error .cancelled, l)
  else
    let (result, l) := c.send r l
    if r.watched && l.fired then (.error .cancelled, l)
    else ((result.bind read).mapError (Failure.underDeadline (c.deadline r)), l)

/-- Fetches a document. -/
def fetchJson {α : Type} [Wire α] (c : Client) (r : Request) (l : Link) :
    Except Failure (Answer α) × Link :=
  c.fetch { r with format := .json } Response.decode l

/-- Fetches raw content, which the caller reads. -/
def fetchMedia (c : Client) (r : Request) (l : Link) : Except Failure Download × Link :=
  c.fetch { r with format := .media } Response.download l

/-- A response that was received has used up one reply. -/
theorem length_replies_of_send_ok {c : Client} {r : Request} {l l' : Link} {x : Response}
    (h : c.send r l = (.ok x, l')) : l'.replies.length < l.replies.length := by
  unfold send at h
  split at h
  · simp at h
  · dsimp only at h
    split at h
    · simp at h
    · next m _ =>
      cases he : ({ l with asked := c.credential.askedAfter l.asked } : Link).exchange m with
      | mk result l₁ =>
        rw [he] at h
        cases result with
        | error f => cases (Prod.mk.inj h).1
        | ok y =>
          rw [← (Prod.mk.inj h).2]
          have hl := Link.length_replies_of_exchange_ok he
          exact hl

/-- A fetch that succeeds has used up one reply. -/
theorem length_replies_of_fetch_ok {α : Type} {c : Client} {r : Request}
    {read : Response → Except Failure α} {l l' : Link} {x : α}
    (h : c.fetch r read l = (.ok x, l')) : l'.replies.length < l.replies.length := by
  unfold fetch at h
  split at h
  · simp at h
  · cases hs : c.send r l with
    | mk result l₁ =>
      rw [hs] at h
      dsimp only at h
      split at h
      · simp at h
      · cases result with
        | error f => cases (Prod.mk.inj h).1
        | ok y =>
          rw [← (Prod.mk.inj h).2]
          exact length_replies_of_send_ok hs

end Client
end SellerApi
