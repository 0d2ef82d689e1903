import SellerApi.Client.Pacing
import SellerApi.Text.Quoted

/-! # Transport settings

Where a client sends its requests and what all of them have in common. -/

namespace SellerApi

open SellerApi.Text

/-- The production endpoint of the service. -/
def defaultBaseUrl : String := "https://www.googleapis.com/adexchangeseller/v1/"

/-- The name under which the client shows itself. -/
def clientName : String := "adexchange-seller"

def clientVersion : String := "0.1.0"

def defaultUserAgent : String := clientName ++ "/" ++ clientVersion

/-- The settings of a client. -/
structure Transport where
  baseUrl : String := defaultBaseUrl
  /-- How long a request may take unless it says so itself, in milliseconds. -/
  timeout : Nat := 30000
  pacing : Option Pacing := some {}
  /-- Header fields of every request, one of a name. -/
  headers : List (String × String) := []
  userAgent : String := defaultUserAgent
  deriving DecidableEq, Repr

namespace Transport

/-- The settings with a header field; it takes the place of one of its name. -/
def withHeader (t : Transport) (name value : String) : Transport :=
  { t with headers := t.headers.filter (·.1 ≠ name) ++ [(name, value)] }

/-- The settings with an application named behind the client's own name. -/
def withApplication (t : Transport) (application : String) : Transport :=
  if application = "" then t
  else { t with userAgent := defaultUserAgent ++ " " ++ application }

/-- Settings as a diagnostic shows them. -/
def describe (t : Transport) : String :=
  describeRecord "HttpClientConfig"
    [("base_url", quoted t.baseUrl), ("timeout", describeSpan t.timeout),
      ("rate_limit", describeOption (t.pacing.map Pacing.describe)),
      ("default_headers", describeEntries (t.headers.map fun h => (quoted h.1, quoted h.2))),
      ("user_agent", quoted t.userAgent)]

end Transport
end SellerApi
