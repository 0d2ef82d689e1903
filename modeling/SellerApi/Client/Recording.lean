import SellerApi.Client.Link
import SellerApi.Json.Record
import SellerApi.Text.Blank
import SellerApi.Text.Pieces

/-! # Recorded replies

What a server is going to do, as a text of one JSON value a line. A record is a response with
`status`, `headers` and `body`; a `length` above the length of the body says that the body breaks
off. The other ways to reply are words: `silence`, `hang up`, `interruption`. -/

namespace SellerApi

open SellerApi.Http SellerApi.Json SellerApi.Text

/-- A header field: a list of its name and its value. -/
def Http.Header.ofNode? : Node → Option Header
  | .list [name, value] => return Header.of (← name.text?) (← value.text?)
  | _ => none

/-- A response. One that says that nothing changed, or that there is nothing, has no body. -/
def Http.Response.ofNode? (n : Node) : Option Response := do
  let [status, headers, body, length] ← n.fields? ["status", "headers", "body", "length"] | none
  let status ← required (Node.below? 1000) status
  let headers ← orElse [] (Node.list? Header.ofNode?) headers
  let octets := Utf8.encode (← orElse "" Node.text? body).toList
  let length ← orElse octets.length (Node.below? bound64) length
  if status = 304 ∨ status = 204 then return { status, headers }
  else
    let ending : Ending := if octets.length < length then .cutOff else .complete
    return { status, headers, length := some length, body := ⟨[octets], ending⟩ }

/-- What a server does with one request. -/
def Reply.ofNode? : Node → Option Reply
  | .text (some "silence") => some .silence
  | .text (some "hang up") => some .hangUp
  | .text (some "interruption") => some .interruption
  | n => (Response.ofNode? n).map .answer

/-- The replies in a text; lines of blanks are passed over. -/
def Reply.ofLines? (octets : List UInt8) : Option (List Reply) := do
  let lines := splitAt '\n' (← Utf8.text? octets)
  (lines.filter (!·.all isBlank)).mapM fun line =>
    (readNode? (Utf8.encode line)).bind Reply.ofNode?

end SellerApi
