import SellerApi.Http.Header
import SellerApi.Json.Record
import SellerApi.Text.Integer

/-! # Refusals

A `Refusal` is an answer with a status that means no success: its status, its headers and its
body, and the server's own explanation when the body holds one. -/

namespace SellerApi.Http

open SellerApi.Json SellerApi.Text

/-- What the server says about one field of a request. -/
structure Complaint where
  domain : String := ""
  reason : String := ""
  message : String := ""
  location : Option String := none
  locationType : Option String := none
  deriving DecidableEq, Repr

/-- The server's explanation of a refusal. -/
structure Explanation where
  code : Nat := 0
  message : String := ""
  complaints : List Complaint := []
  deriving DecidableEq, Repr

/-- An answer that means no success. -/
structure Refusal where
  status : Nat
  headers : Headers
  body : String
  explanation : Option Explanation
  deriving DecidableEq, Repr

def Complaint.ofNode? (n : Node) : Option Complaint := do
  let [domain, reason, message, location, locationType] ←
    n.fields? ["domain", "reason", "message", "location", "locationType"] | none
  return {
    domain := ← orElse "" Node.text? domain
    reason := ← orElse "" Node.text? reason
    message := ← orElse "" Node.text? message
    location := ← optional Node.text? location
    locationType := ← optional Node.text? locationType }

def Complaint.toValue (c : Complaint) : Value :=
  recordOf [present "domain" (.text c.domain), present "reason" (.text c.reason),
    present "message" (.text c.message), whenSome "location" .text c.location,
    whenSome "locationType" .text c.locationType]

/-- The reason and the message, and where the fault is if the server says. -/
def Complaint.toText (c : Complaint) : String :=
  c.reason ++ ": " ++ c.message ++
    match c.location with
    | some place => " (at " ++ place ++ ")"
    | none => ""

/-- An explanation; its code is an unsigned 16-bit number. -/
def Explanation.ofNode? (n : Node) : Option Explanation := do
  let [code, message, complaints] ← n.fields? ["code", "message", "errors"] | none
  return {
    code := ← orElse 0 (Node.below? 0x1_0000) code
    message := ← orElse "" Node.text? message
    complaints := ← orElse [] (Node.list? Complaint.ofNode?) complaints }

def Explanation.toValue (e : Explanation) : Value :=
  recordOf [present "code" (ofNat e.code), present "message" (.text e.message),
    present "errors" (.list (e.complaints.map Complaint.toValue))]

/-- The explanation in an envelope, a record whose field `error` holds it. -/
def Explanation.ofEnvelope? (n : Node) : Option Explanation := do
  let [error] ← n.fields? ["error"] | none
  required Explanation.ofNode? error

/-- A refusal, with the explanation that its body holds. -/
def Refusal.of (status : Nat) (headers : Headers) (body : String) : Refusal :=
  ⟨status, headers, body, (readTextNode? body).bind Explanation.ofEnvelope?⟩

/-- The server's message if it is not empty, else the whole body. -/
def Refusal.message (r : Refusal) : String :=
  match r.explanation with
  | some e => if e.message = "" then r.body else e.message
  | none => r.body

def Refusal.complaints (r : Refusal) : List Complaint :=
  match r.explanation with
  | some e => e.complaints
  | none => []

/-- The status and the message, then a line per complaint. -/
def Refusal.toText (r : Refusal) : String :=
  "HTTP " ++ natText r.status ++ ": " ++ r.message ++
    String.join (r.complaints.map fun c => "\n  " ++ c.toText)

end SellerApi.Http
