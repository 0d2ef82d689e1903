import SellerApi.Url.Basic
import SellerApi.Url.Domain

/-! # Reading URLs

`Url.read` takes a text apart as browsers do: blanks at its ends, tabs and line breaks do not
count; a web scheme needs a host and takes backslashes for slashes; dots in the path are followed;
what a part cannot hold is encoded. The text has to be absolute. -/

namespace SellerApi.Url

open SellerApi.Text

/-- The scheme in lowercase and what follows its colon. -/
def readScheme? (cs : List Char) : Option (String × List Char) :=
  let isSchemeChar (c : Char) : Bool := c.isAlphanum || c = '+' || c = '-' || c = '.'
  match cs with
  | [] => none
  | c :: _ =>
    if isAsciiLetter c then
      match cs.dropWhile isSchemeChar with
      | ':' :: rest => some (String.ofList ((cs.takeWhile isSchemeChar).map Char.toLower), rest)
      | _ => none
    else none

/-- Whether a character ends the authority. -/
def endsAuthority (special : Bool) (c : Char) : Bool :=
  c = '/' || c = '?' || c = '#' || (special && c = '\\')

/-- The user name and password of an authority that has an `@`, and what follows the last one. -/
def readUser (special : Bool) (cs : List Char) :
    Except Fault (String × Option String × List Char) :=
  let front := cs.takeWhile (!endsAuthority special ·)
  let rest := cs.dropWhile (!endsAuthority special ·)
  if front.contains '@' then
    let host := (front.reverse.takeWhile (· ≠ '@')).reverse
    let user := front.take (front.length - host.length - 1)
    if user = [] ∧ host = [] ∧ rest ≠ [] then .error .emptyHost
    else
      let name := user.takeWhile (· ≠ ':')
      let pass := (user.dropWhile (· ≠ ':')).drop 1
      .ok (String.ofList (escape userSet name),
        if pass = [] then none else some (String.ofList (escape userSet pass)), host ++ rest)
  else .ok ("", none, cs)

/-- The host in front, ended by a colon outside brackets or by the end of the authority. -/
def splitHost (special : Bool) : (bracket : Bool) → List Char → List Char × List Char
  | _, [] => ([], [])
  | bracket, c :: cs =>
    if (c = ':' ∧ ¬bracket) ∨ endsAuthority special c then ([], c :: cs)
    else
      let inside := if c = '[' then true else if c = ']' then false else bracket
      let (host, rest) := splitHost special inside cs
      (c :: host, rest)

/-- A long address between brackets. -/
def readBracketed (cs : List Char) : Except Fault Host :=
  match cs.getLast?, readAddress6? cs.dropLast with
  | some ']', some groups => .ok (.address6 groups)
  | _, _ => .error .badAddress6

/-- The host of a special scheme. -/
def readHost (cs : List Char) : Except Fault Host :=
  match cs with
  | '[' :: inner => readBracketed inner
  | _ =>
    match asciiDomain? (Utf8.lossy (unescapeText cs)) with
    | none => .error .badDomain
    | some name =>
      if name = [] then .error .emptyHost
      else if endsInNumber name then
        match readAddress4? name with
        | some n => .ok (.address4 n)
        | none => .error .badAddress4
      else .ok (.name (String.ofList name))

/-- The host of another scheme. -/
def readOtherHost (cs : List Char) : Except Fault Host :=
  match cs with
  | '[' :: inner => readBracketed inner
  | _ =>
    if cs.any fun c => c ≠ '%' && (c = '\x00' || (isForbidden c && !isControl c)) then
      .error .badHostChar
    else .ok (.name (String.ofList (escape controls cs)))

/-- The port behind a colon; one that need not be written is none. -/
def readPort (scheme : String) (cs : List Char) : Except Fault (Option Nat × List Char) :=
  let digits := cs.takeWhile isAsciiDigit
  let rest := cs.dropWhile isAsciiDigit
  let port := digitsValue digits
  if 65535 < port then .error .badPort
  else if rest.head?.any (!endsAuthority true ·) then .error .badPort
  else
    .ok (if digits = [] ∨ defaultPort? scheme = some port then none else some port, rest)

/-- The authority behind two slashes and what follows it. -/
def readAuthority (scheme : String) (cs : List Char) : Except Fault (Authority × List Char) := do
  let special := isSpecial scheme
  let (username, password, cs) ← readUser special cs
  let (text, rest) := splitHost special false cs
  if special && text.isEmpty then throw .emptyHost
  let host ← if special then readHost text else readOtherHost text
  match rest with
  | ':' :: rest =>
    if text.isEmpty then throw .emptyHost
    let (port, rest) ← readPort scheme rest
    return (⟨username, password, host, port⟩, rest)
  | rest =>
    if text.isEmpty && (username != "" || password.isSome) then throw .emptyHost
    return (⟨username, password, host, none⟩, rest)

/-- The pieces of a path between slashes. -/
def pathPieces (special : Bool) (cs : List Char) : List (List Char) :=
  splitAt '/' (if special then cs.map fun c => if c = '\\' then '/' else c else cs)

/-- Follows the pieces of a path behind the segments read so far. Dots count only where they are
followed by another piece; the last piece is kept even when it is empty. -/
def followPieces (scheme : String) (before : List String) : List (List Char) → List String
  | [] => before
  | [last] => pushSegment scheme before (escape pathSet last)
  | piece :: pieces =>
    let segment := escape pathSet piece
    let before :=
      if isDoubleDot segment then parentOf before
      else if isDot segment then before
      else before ++ [String.ofList (driveForm scheme before segment)]
    followPieces scheme before pieces

/-- The path behind its first slash. -/
def readSegments (scheme : String) (cs : List Char) : Path :=
  .segments (fileForm scheme (followPieces scheme [] (pathPieces (isSpecial scheme) cs)))

/-- A text up to the query or fragment, the query and the fragment. -/
def splitTail (scheme : String) (cs : List Char) : List Char × Option String × Option String :=
  let front := cs.takeWhile fun c => c ≠ '?' && c ≠ '#'
  let set := if isSpecial scheme then webQuerySet else querySet
  let fragmentOf (cs : List Char) : Option String :=
    match cs with
    | '#' :: f => some (String.ofList (escape fragmentSet f))
    | _ => none
  match cs.dropWhile fun c => c ≠ '?' && c ≠ '#' with
  | '?' :: tail =>
    (front, some (String.ofList (escape set (tail.takeWhile (· ≠ '#')))),
      fragmentOf (tail.dropWhile (· ≠ '#')))
  | tail => (front, none, fragmentOf tail)

/-- The path of an authority: of a special scheme it is never empty. -/
def readPath (scheme : String) (cs : List Char) : Path :=
  match cs with
  | [] => if isSpecial scheme then .segments [""] else .segments []
  | c :: rest =>
    if c = '/' ∨ (isSpecial scheme ∧ c = '\\') then readSegments scheme rest
    else readSegments scheme cs

/-- Whether a character is a slash to a special scheme. -/
def isAnySlash (c : Char) : Bool := c = '/' || c = '\\'

/-- A file's host and what follows it. The name of a disk is no host, and `localhost` is none. -/
def readFileHost (cs : List Char) : Except Fault (Host × List Char) :=
  let text := cs.takeWhile (!endsAuthority true ·)
  let rest := cs.dropWhile (!endsAuthority true ·)
  if text = [] ∨ isDrive text then .ok (.name "", if text = [] then rest else cs)
  else do
    let host ← readHost text
    return (if host = .name "localhost" then .name "" else host, rest)

/-- The URL that a text stands for. -/
def read (text : String) : Except Fault Url := do
  let isMargin (c : Char) : Bool := c.toNat ≤ 0x20
  let cs := ((text.toList.dropWhile isMargin).reverse.dropWhile isMargin).reverse
  let some (scheme, cs) := readScheme? (cs.filter (!isDropped ·)) | throw .noScheme
  let (body, query, fragment) := splitTail scheme cs
  if isWebScheme scheme then
    let (authority, rest) ← readAuthority scheme (body.dropWhile isAnySlash)
    return ⟨scheme, some authority, readPath scheme rest, query, fragment⟩
  else if scheme = "file" then
    match body with
    | a :: b :: rest =>
      if isAnySlash a && isAnySlash b then
        let (host, rest) ← readFileHost rest
        return ⟨scheme, some { host }, readPath scheme rest, query, fragment⟩
      else return ⟨scheme, some { host := .name "" }, readPath scheme body, query, fragment⟩
    | body => return ⟨scheme, some { host := .name "" }, readPath scheme body, query, fragment⟩
  else
    match body with
    | '/' :: '/' :: rest =>
      let (authority, rest) ← readAuthority scheme rest
      return ⟨scheme, some authority, readPath scheme rest, query, fragment⟩
    | '/' :: rest => return ⟨scheme, none, readSegments scheme rest, query, fragment⟩
    | body =>
      return ⟨scheme, none, .whole (String.ofList (escape controls body)), query, fragment⟩

end SellerApi.Url
