import SellerApi.Failure
import SellerApi.Resource.Page
import SellerApi.Text.Utf8

/-! # Responses

A `Response` has a status, headers and a body that arrives in pieces and may break off. It is read
in one of two ways. `Response.decode` wants a document; `Response.download` hands the open body on.
Both first sort out the statuses that mean no success: `Response.accept`. -/

namespace SellerApi.Http

open SellerApi.Json SellerApi.Resource SellerApi.Text

/-- How a body ends. -/
inductive Ending where
  /-- With its last octet. -/
  | complete
  /-- Before its announced length. -/
  | cutOff
  /-- Not before the deadline. -/
  | stalled
  deriving DecidableEq, Repr

/-- A body, in the pieces in which it arrives. -/
structure Body where
  pieces : List (List UInt8) := []
  ending : Ending := .complete
  deriving DecidableEq, Repr

/-- What goes wrong after the last piece. -/
def Body.fault? (b : Body) : Option Fault :=
  match b.ending with
  | .complete => none
  | .cutOff => some .cutOff
  | .stalled => some .deadline

/-- All octets of a body that ends well. -/
def Body.octets (b : Body) : Except Fault (List UInt8) :=
  match b.fault? with
  | none => .ok b.pieces.flatten
  | some f => .error f

/-- What a server answers. -/
structure Response where
  status : Nat
  headers : Headers := []
  /-- The announced length of the body. -/
  length : Option Nat := none
  body : Body := {}
  deriving DecidableEq, Repr

/-- The statuses that mean success. -/
def isSuccess (status : Nat) : Bool := 200 ≤ status && status < 300

/-- A payload with the status and headers that came with it. -/
structure Answer (α : Type) where
  status : Nat
  headers : Headers
  payload : α
  deriving DecidableEq, Repr

/-- An accepted response whose body is still to be read. -/
structure Download where
  response : Response
  deriving DecidableEq, Repr

/-- The body of a refusal as a text; what is not UTF-8 is replaced. -/
def Body.refusalText (b : Body) : String :=
  match b.octets with
  | .ok octets => String.ofList (Utf8.lossy octets)
  | .error f => "<unreadable error body: " ++ f.message ++ ">"

namespace Response

/-- A response that means success. The body of any other one is read as an explanation, but that of
an unchanged resource is not read at all. -/
def accept (r : Response) : Except Failure Response :=
  if r.status = 304 then .error (.notModified r.headers)
  else if isSuccess r.status then .ok r
  else .error (.refused (Refusal.of r.status r.headers r.body.refusalText))

/-- The payload of a response whose body is a document of the expected shape. -/
def decode {α : Type} [Wire α] (r : Response) : Except Failure (Answer α) := do
  let r ← r.accept
  match r.body.octets with
  | .error f => throw (.transport f)
  | .ok octets =>
    match (readNode? octets).bind Wire.ofNode? with
    | some payload => return ⟨r.status, r.headers, payload⟩
    | none => throw .badDocument

/-- A response to be read by the caller. -/
def download (r : Response) : Except Failure Download := r.accept.map Download.mk

end Response

namespace Download

/-- The media type that the server declared. -/
def contentType (d : Download) : Option String := d.response.headers.text? "content-type"

def length (d : Download) : Option Nat := d.response.length

/-- The whole body. -/
def octets (d : Download) : Except Failure (List UInt8) :=
  d.response.body.octets.mapError .transport

/-- The whole body as a text; what is not UTF-8 is replaced. -/
def text (d : Download) : Except Failure String :=
  d.octets.map fun octets => String.ofList (Utf8.lossy octets)

/-- The body piece by piece. What goes wrong comes last. -/
def stream (d : Download) : List (Except Failure (List UInt8)) :=
  d.response.body.pieces.map .ok ++
    match d.response.body.fault? with
    | some f => [.error (.transport f)]
    | none => []

/-- Copies the body to a sink: the count of octets, or what went wrong, and what the sink got. -/
def copy (d : Download) : Except Failure Nat × List UInt8 :=
  let octets := d.response.body.pieces.flatten
  match d.response.body.fault? with
  | some f => (.error (.transport f), octets)
  | none => (.ok octets.length, octets)

end Download
end SellerApi.Http
