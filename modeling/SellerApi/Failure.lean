import SellerApi.Http.Fault
import SellerApi.Http.Refusal
import SellerApi.Url.Fault

/-! # Failures

Every way in which an operation of this library can end without a result. The failures of a fetch
are kept apart: the resource did not change, the server refused, no answer came, or the answer was
not of the expected shape. -/

namespace SellerApi

open SellerApi.Http SellerApi.Text

/-- Why there is no result. -/
inductive Failure where
  /-- The resource still matches the cache tag that was sent. -/
  | notModified (headers : Headers)
  /-- The server answered with a status that means no success. -/
  | refused (refusal : Refusal)
  /-- A successful answer did not have the expected shape. -/
  | undecodable (message : String)
  /-- The request could not be sent or its answer not be received. -/
  | transport (fault : Http.Fault)
  /-- The deadline of so many milliseconds passed. -/
  | timedOut (ms : Nat)
  /-- The caller's cancellation signal fired. -/
  | cancelled
  | badUrl (fault : Url.Fault)
  | badParameter (name : String) (reason : String)
  | listing (message : String)
  | settings (message : String)
  | yaml (detail : String)
  | parquet (message : String)
  | output (message : String)
  /-- The operating system refused to read or write. -/
  | storage (reason : String)
  /-- A failure told in the words of the one who met it. -/
  | other (message : String)
  deriving DecidableEq, Repr

namespace Failure

/-- What a user is told. -/
def message : Failure → String
  | .notModified _ => "Not modified (HTTP 304)"
  | .refused r => r.toText
  | .undecodable m => "Failed to decode response: " ++ m
  | .transport f => "HTTP request failed: " ++ f.message
  | .timedOut ms => "Request timeout after " ++ natText ms ++ "ms"
  | .cancelled => "Request cancelled"
  | .badUrl f => "Invalid URL: " ++ f.message
  | .badParameter name reason => "Invalid value for parameter '" ++ name ++ "': " ++ reason
  | .listing m => "Pagination error: " ++ m
  | .settings m => "Configuration error: " ++ m
  | .yaml d => "Failed to parse YAML: " ++ d
  | .parquet m => "Parquet error: " ++ m
  | .output m => "Output error: " ++ m
  | .storage r => "IO error: " ++ r
  | .other m => m

/-- A body that is no document of the expected shape. -/
def badDocument : Failure := .undecodable "Failed to parse JSON: unexpected shape"

/-- A failure within a task, told by its text. -/
def within (task : String) (f : Failure) : Failure := .other (task ++ ": " ++ f.message)

/-- No status was received. -/
def isTransport : Failure → Bool
  | .transport _ | .timedOut _ | .cancelled => true
  | _ => false

/-- A transport failure for which the deadline of so many milliseconds is to blame. The count is
kept in 64 bits. -/
def underDeadline (ms : Nat) : Failure → Failure
  | .transport .deadline => .timedOut (ms % bound64)
  | f => f

def isNotModified : Failure → Bool
  | .notModified _ => true
  | _ => false

/-- The status that the server answered with. -/
def status? : Failure → Option Nat
  | .notModified _ => some 304
  | .refused r => some r.status
  | _ => none

/-- The headers that the server answered with. -/
def headers? : Failure → Option Headers
  | .notModified hs => some hs
  | .refused r => some r.headers
  | _ => none

end Failure
end SellerApi
