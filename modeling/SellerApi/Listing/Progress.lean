import SellerApi.Failure

/-! # Progress of a listing

A listing goes from page to page by the tokens that the server returns. `Progress.record` takes
one page into account and says whether there is another one; an empty token counts as none, and a
token that was just sent ends the listing with a failure, since it would repeat the page for
ever. -/

namespace SellerApi

open SellerApi.Text

/-- What follows a page. -/
inductive Continuation where
  | more (token : String)
  | done
  deriving DecidableEq, Repr

/-- An empty token counts as none. -/
def Continuation.ofToken : Option String → Continuation
  | none => .done
  | some t => if t = "" then .done else .more t

def Continuation.isDone : Continuation → Bool
  | .done => true
  | .more _ => false

/-- How far a listing has come. -/
structure Progress where
  pages : Nat := 0
  items : Nat := 0
  /-- The token to send with the next request. -/
  token : Option String := none
  done : Bool := false
  deriving DecidableEq, Repr

namespace Progress

/-- A listing about to start at a token. -/
def startingAt (token : Option String) : Progress := { token := token.filter (· ≠ "") }

/-- A listing with no further page. -/
def finish (p : Progress) : Progress := { p with done := true }

/-- The server returned the token that it was sent. -/
def repeatedToken (page : Nat) : Failure :=
  .listing ("server repeated continuation token after page " ++ natText page)

/-- Takes a page of so many items into account. -/
def record (p : Progress) (items : Nat) (next : Option String) :
    Except Failure Continuation × Progress :=
  let p := { p with pages := p.pages + 1, items := p.items + items }
  match Continuation.ofToken next with
  | .more token =>
    if p.token = some token then (.error (repeatedToken p.pages), p.finish)
    else (.ok (.more token), { p with token := some token })
  | .done => (.ok .done, { p with token := none, done := true })

end Progress
end SellerApi
