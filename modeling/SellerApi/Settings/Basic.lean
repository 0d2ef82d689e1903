import SellerApi.Client.Credential
import SellerApi.Client.Transport
import SellerApi.Json.Record
import SellerApi.Report.Parquet
import SellerApi.Request.Format

/-! # Settings

What a user configures: where the service is, who asks and how fast, and how reports are written.
Settings have a default each; a file, the environment and the command line change them, in this
order. `Settings.transport` and `Settings.credential` are what a client is made of. -/

namespace SellerApi

open SellerApi.Json SellerApi.Text

/-- What a user has to prove that they may ask. -/
structure Secrets where
  bearerToken : Option String := none
  apiKey : Option String := none
  /-- What the token allows. -/
  scope : Scope := .readonly
  deriving DecidableEq, Repr

/-- What a user configures. -/
structure Settings where
  baseUrl : String := defaultBaseUrl
  /-- The application that asks. -/
  userAgent : Option String := none
  /-- How long a request may take, in seconds. -/
  timeoutSeconds : Nat := 30
  pacing : Option Pacing := some {}
  secrets : Secrets := {}
  /-- How many items a page has unless a command says so. -/
  pageSize : Option Nat := none
  /-- The name of the compression of written files. -/
  compression : Option String := none
  deriving DecidableEq, Repr

/-- A pacing; both numbers have to be there. -/
def Pacing.ofNode? (n : Node) : Option Pacing := do
  let [perSecond, burst] ← n.fields? ["requests_per_second", "burst_size"] | none
  return ⟨← required (Node.below? bound32) perSecond, ← required (Node.below? bound32) burst⟩

def Pacing.toValue (p : Pacing) : Value :=
  recordOf [present "requests_per_second" (ofNat p.perSecond), present "burst_size" (ofNat p.burst)]

namespace Secrets

def ofNode? (n : Node) : Option Secrets := do
  let [bearerToken, apiKey, scope] ← n.fields? ["bearer_token", "api_key", "scope"] | none
  return {
    bearerToken := ← optional Node.text? bearerToken
    apiKey := ← optional Node.text? apiKey
    scope := ← orElse .readonly Scope.ofNode? scope }

def toValue (s : Secrets) : Value :=
  recordOf [present "bearer_token" (orNull .text s.bearerToken),
    present "api_key" (orNull .text s.apiKey), present "scope" (.text s.scope.word)]

/-- Secrets as a diagnostic shows them: whether they are there. -/
def describe (s : Secrets) : String :=
  let hidden (secret : Option String) : String := describeOption (secret.map fun _ => quoted "***")
  describeRecord "AuthSettings"
    [("bearer_token", hidden s.bearerToken), ("api_key", hidden s.apiKey),
      ("scope", s.scope.describe)]

/-- The credential of a client: a token before a key. -/
def credential (s : Secrets) : Credential :=
  match s.bearerToken, s.apiKey with
  | some token, _ => .bearer token
  | none, some key => .apiKey key
  | none, none => .none

/-- Of two secrets only the token is used. -/
def isAmbiguous (s : Secrets) : Bool := s.bearerToken.isSome && s.apiKey.isSome

def ambiguityWarning : String :=
  "Both a bearer token and an API key are configured; using the token"

end Secrets

/-- The variable for the base URL. -/
def baseUrlVariable : String := "ADX_SELLER_BASE_URL"

/-- The variable for the bearer token. -/
def accessTokenVariable : String := "ADX_SELLER_ACCESS_TOKEN"

/-- The variable for the key. -/
def apiKeyVariable : String := "ADX_SELLER_API_KEY"

/-- The variable for the seconds that a request may take. -/
def timeoutVariable : String := "ADX_SELLER_TIMEOUT_SECS"

/-- What a user without secrets is told. -/
def Secrets.hint (s : Secrets) : Option String :=
  if s.bearerToken.isSome || s.apiKey.isSome then none
  else
    some ("No credential configured; requests will be anonymous. Set " ++ accessTokenVariable ++
      " to a token issued for " ++ s.scope.url)

/-- The variables that are set. -/
abbrev Environment := List (String × String)

/-- The value of a variable; of blanks only, it counts as none. -/
def Environment.get? (e : Environment) (name : String) : Option String :=
  ((e.find? (·.1 = name)).map (·.2)).filter fun value => !isAllBlank value

namespace Settings

def ofNode? (n : Node) : Option Settings := do
  let [baseUrl, userAgent, timeout, pacing, secrets, pageSize, compression] ←
    n.fields? ["base_url", "user_agent", "timeout_secs", "rate_limit", "auth", "page_size",
      "parquet_compression"] | none
  return {
    baseUrl := ← orElse defaultBaseUrl Node.text? baseUrl
    userAgent := ← optional Node.text? userAgent
    timeoutSeconds := ← orElse 30 (Node.below? bound64) timeout
    pacing := ← if pacing.isNone then some (some {}) else optional Pacing.ofNode? pacing
    secrets := ← orElse {} Secrets.ofNode? secrets
    pageSize := ← optional (Node.below? bound32) pageSize
    compression := ← optional Node.text? compression }

def toValue (s : Settings) : Value :=
  recordOf [present "base_url" (.text s.baseUrl), present "user_agent" (orNull .text s.userAgent),
    present "timeout_secs" (ofNat s.timeoutSeconds),
    present "rate_limit" (orNull Pacing.toValue s.pacing), present "auth" s.secrets.toValue,
    present "page_size" (orNull ofNat s.pageSize),
    present "parquet_compression" (orNull .text s.compression)]

/-- The settings with what the environment says. -/
def withEnvironment (s : Settings) (e : Environment) : Except Failure Settings := do
  let s := { s with
    baseUrl := (e.get? baseUrlVariable).getD s.baseUrl
    secrets := { s.secrets with
      bearerToken := (e.get? accessTokenVariable).or s.secrets.bearerToken
      apiKey := (e.get? apiKeyVariable).or s.secrets.apiKey } }
  match e.get? timeoutVariable with
  | none => return s
  | some text =>
    match readBelow? bound64 (trimChars text.toList) with
    | some seconds => return { s with timeoutSeconds := seconds }
    | none =>
      throw (.settings (timeoutVariable ++ " must be a whole number, got '" ++ text ++ "'"))

/-- The settings with secrets that were given directly: a key takes the place of a token, but a
token does not remove a key. -/
def withSecrets (s : Settings) (token key : Option String) : Settings :=
  let s := match key with
    | some key => { s with secrets := { s.secrets with apiKey := some key, bearerToken := none } }
    | none => s
  match token with
  | some token => { s with secrets := { s.secrets with bearerToken := some token } }
  | none => s

/-- How long a request may take in milliseconds: a second at least. -/
def timeout (s : Settings) : Nat := 1000 * max s.timeoutSeconds 1

/-- The settings of a client. -/
def transport (s : Settings) : Transport :=
  let t : Transport := { baseUrl := s.baseUrl, timeout := s.timeout, pacing := s.pacing }
  match s.userAgent with
  | some application => t.withApplication application
  | none => t

def credential (s : Settings) : Credential := s.secrets.credential

/-- How reports are written to files. -/
def parquet (s : Settings) : Except Failure Parquet.Settings :=
  match s.compression with
  | some name => Parquet.Settings.usual.withCompressionName name
  | none => .ok .usual

end Settings
end SellerApi
