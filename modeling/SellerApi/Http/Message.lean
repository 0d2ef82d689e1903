import SellerApi.Failure
import SellerApi.Text.Base64
import SellerApi.Text.Utf8
import SellerApi.Url.Basic

/-! # Messages

A `Message` is a request as it goes over the wire. It is made from a `Draft`, whose fields may be
anything: `Draft.message` says whether it can be sent. A user named in the URL goes into a header
field of its own, in front. -/

namespace SellerApi.Http

open SellerApi.Text

/-- A request on the wire. -/
structure Message where
  url : Url
  headers : Headers
  deriving DecidableEq, Repr

/-- A request to be checked; `none` stands for a URL that is none. -/
structure Draft where
  url : Option Url
  fields : List (String × String) := []
  deriving DecidableEq, Repr

/-- Encoded text as the text that it stands for. -/
def unescaped? (s : String) : Option String :=
  (Utf8.text? (Url.unescapeText s.toList)).map String.ofList

/-- The user name and the password in a URL. -/
def userOf? (u : Url) : Option (String × Option String) := do
  let a ← u.authority
  let name ← unescaped? a.username
  let password := a.password.bind unescaped?
  if name = "" ∧ password = none then none else some (name, password)

/-- How a user and a password are sent. -/
def basicField (name : String) (password : Option String) : String × String :=
  let octets := Utf8.encode (name ++ ":" ++ password.getD "").toList
  ("authorization", "Basic " ++ String.ofList (Base64.encode octets))

/-- A draft for a URL. -/
def Draft.to (u : Url) : Draft :=
  match userOf? u with
  | some (name, password) => ⟨some u.withoutUser, [basicField name password]⟩
  | none => ⟨some u, []⟩

def Draft.add (d : Draft) (name value : String) : Draft :=
  { d with fields := d.fields ++ [(name, value)] }

def Draft.addAll (d : Draft) (fields : List (String × String)) : Draft :=
  { d with fields := d.fields ++ fields }

/-- Adds pairs to the query of the URL. -/
def Draft.addPairs (d : Draft) (pairs : List (String × String)) : Draft :=
  { d with url := d.url.map (·.appendPairs pairs) }

/-- The message of a draft for a URL that takes requests, with nothing but sendable fields. -/
def Draft.message (d : Draft) : Except Failure Message :=
  match d.url with
  | none => .error (.transport (.unsendable "URL"))
  | some url =>
    if !url.takesRequests then .error (.transport (.unsendable "URL scheme is not allowed"))
    else if d.fields.all fun f => isHeaderName f.1 && isHeaderValue f.2 then
      .ok ⟨url, d.fields.map fun f => Header.of f.1 f.2⟩
    else .error (.transport (.unsendable "header field"))

end SellerApi.Http
