import SellerApi.Http.Message

/-! # Credentials

What a client says about itself with every request. A bearer token travels in a header field, a key
as the last pair of the query. Tokens may also come from a source that is asked anew for each
request; it may fail, and then nothing is sent. -/

namespace SellerApi

open SellerApi.Http

/-- How a client proves that it may ask. -/
inductive Credential where
  | none
  | bearer (token : String)
  | apiKey (key : String)
  /-- The token depends on how often the source was asked before. -/
  | source (token : Nat → Except Failure String)

namespace Credential

def isNone : Credential → Bool
  | .none => true
  | _ => false

/-- A credential as a diagnostic shows it: without the secret. -/
def describe : Credential → String
  | .none => "None"
  | .bearer _ => "Bearer(***)"
  | .apiKey _ => "ApiKey(***)"
  | .source _ => "TokenSource"

/-- A source that has one token for ever. -/
def fixed (token : String) : Credential := .source fun _ => .ok token

/-- The description of a fixed token. -/
def fixedDescription : String := "StaticToken(***)"

/-- A draft with a bearer token. -/
def addBearer (d : Draft) (token : String) : Draft := d.add "authorization" ("Bearer " ++ token)

/-- How often a source has been asked after one request more. -/
def askedAfter (c : Credential) (asked : Nat) : Nat :=
  match c with
  | .source _ => asked + 1
  | _ => asked

/-- A draft with the credential; `asked` says how often a source was asked before. -/
def attach (c : Credential) (asked : Nat) (d : Draft) : Except Failure Draft :=
  match c with
  | .none => .ok d
  | .bearer token => .ok (addBearer d token)
  | .apiKey key => .ok (d.addPairs [("key", key)])
  | .source token => (token asked).map (addBearer d)

end Credential
end SellerApi
