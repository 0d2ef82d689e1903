/-! # Faults of an exchange -/

namespace SellerApi.Http

/-- Why a request has no answer, or an answer no end. -/
inductive Fault where
  /-- The request cannot be put on a wire. -/
  | unsendable (reason : String)
  /-- No server takes the connection. -/
  | unreachable
  /-- The server closed the connection without an answer. -/
  | hungUp
  /-- The body ended before its announced length. -/
  | cutOff
  /-- The deadline passed. -/
  | deadline
  deriving DecidableEq, Repr

def Fault.message : Fault → String
  | .unsendable reason => "builder error: " ++ reason
  | .unreachable => "error sending request: no connection"
  | .hungUp => "error sending request: connection closed"
  | .cutOff => "error decoding response body: body ended early"
  | .deadline => "operation timed out"

end SellerApi.Http
