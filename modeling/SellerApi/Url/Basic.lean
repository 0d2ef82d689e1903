import SellerApi.Url.Address
import SellerApi.Url.Fault
import SellerApi.Url.Form

/-! # URLs

A `Url` by its parts: scheme, authority, path, query and fragment. Its path is a list of segments,
already encoded, or one text without segments. `Url.extendPath` adds raw segments behind the path
and `Url.appendPairs` adds pairs to the query; all else stays. -/

namespace SellerApi

open SellerApi.Text SellerApi.Url

/-- The host of a URL. -/
inductive Url.Host where
  | name (text : String)
  | address4 (n : Nat)
  | address6 (groups : List Nat)
  deriving DecidableEq, Repr

/-- Who answers for a URL. The user's name and password are encoded. -/
structure Url.Authority where
  username : String := ""
  password : Option String := none
  host : Url.Host
  port : Option Nat := none
  deriving DecidableEq, Repr

/-- The path of a URL. -/
inductive Url.Path where
  /-- The segments behind slashes. -/
  | segments (segments : List String)
  /-- A text that is not divided. -/
  | whole (text : String)
  deriving DecidableEq, Repr

/-- A URL by its parts, as they are written. -/
structure Url where
  scheme : String
  authority : Option Url.Authority
  path : Url.Path
  query : Option String := none
  fragment : Option String := none
  deriving DecidableEq, Repr

namespace Url

/-- The schemes whose URLs are all written alike. -/
def isWebScheme (scheme : String) : Bool :=
  scheme = "http" || scheme = "https" || scheme = "ws" || scheme = "wss" || scheme = "ftp"

/-- A web scheme, or the scheme of files. -/
def isSpecial (scheme : String) : Bool := isWebScheme scheme || scheme = "file"

/-- The port that need not be written. -/
def defaultPort? (scheme : String) : Option Nat :=
  if scheme = "http" ∨ scheme = "ws" then some 80
  else if scheme = "https" ∨ scheme = "wss" then some 443
  else if scheme = "ftp" then some 21
  else none

def Host.toText : Host → String
  | .name text => text
  | .address4 n => String.ofList (writeAddress4 n)
  | .address6 groups => "[" ++ String.ofList (writeAddress6 groups) ++ "]"

/-- The user, the host and the port. -/
def Authority.toText (a : Authority) : String :=
  let user := a.username ++ (match a.password with | some p => ":" ++ p | none => "")
  (if a.username = "" ∧ a.password = none then "" else user ++ "@") ++ a.host.toText ++
    match a.port with
    | some p => ":" ++ natText p
    | none => ""

/-- A slash before each segment. -/
def Path.toText : Path → String
  | .segments segs => String.join (segs.map ("/" ++ ·))
  | .whole text => text

/-- A URL as one text. A path that starts with an empty segment is set apart from an authority
that is not there. -/
def toText (u : Url) : String :=
  u.scheme ++ ":" ++
    (match u.authority, u.path with
      | some a, _ => "//" ++ a.toText
      | none, .segments ("" :: _ :: _) => "/."
      | none, _ => "") ++
    u.path.toText ++
    (match u.query with | some q => "?" ++ q | none => "") ++
    match u.fragment with
    | some f => "#" ++ f
    | none => ""

/-- Whether the path cannot take segments. -/
def isRootless (u : Url) : Bool :=
  match u.path with
  | .whole _ => true
  | .segments _ => false

/-- Whether the URL names a host. -/
def hasHost (u : Url) : Bool :=
  match u.authority with
  | some a => a.host != .name ""
  | none => false

/-- Whether a request can be sent to the URL. -/
def takesRequests (u : Url) : Bool := (u.scheme = "http" || u.scheme = "https") && u.hasHost

/-- The characters that are dropped wherever they stand. -/
def isDropped (c : Char) : Bool := c = '\t' || c = '\n' || c = '\r'

/-- A segment that stands for the segment it is in. -/
def isDot (segment : List Char) : Bool :=
  let s := segment.map Char.toLower
  s = ['.'] || s = ['%', '2', 'e']

/-- A segment that stands for the one before it. -/
def isDoubleDot (segment : List Char) : Bool :=
  let s := segment.map Char.toLower
  s = ['.', '.'] || s = ['.', '%', '2', 'e'] || s = ['%', '2', 'e', '.'] ||
    s = ['%', '2', 'e', '%', '2', 'e']

/-- A letter and a colon or a bar, as a disk is named. -/
def isDrive (segment : List Char) : Bool :=
  match segment with
  | [c, d] => isAsciiLetter c && (d = ':' || d = '|')
  | _ => false

/-- Segments without the last one; a disk is not left. -/
def parentOf (segs : List String) : List String :=
  match segs.getLast? with
  | some last => if isDrive last.toList then segs else segs.dropLast
  | none => []

/-- One segment of a file's path; the name of a disk, in front, has a colon. -/
def driveForm (scheme : String) (before : List String) (segment : List Char) : List Char :=
  if scheme = "file" ∧ before = [] ∧ isDrive segment then segment.take 1 ++ [':'] else segment

/-- Segments with one more behind them, which is already encoded: a dot adds an empty segment, two
dots put an empty segment in place of the last one. -/
def pushSegment (scheme : String) (before : List String) (segment : List Char) : List String :=
  if isDoubleDot segment then parentOf before ++ [""]
  else if isDot segment then before ++ [""]
  else before ++ [String.ofList (driveForm scheme before segment)]

/-- A raw segment as a path of the scheme holds it. -/
def encodeSegment (scheme : String) (raw : String) : List Char :=
  escape (if isSpecial scheme then webSegmentSet else segmentSet)
    (raw.toList.filter (!isDropped ·))

/-- Segments that begin with no empty one, as far as a file's path goes. -/
def fileForm (scheme : String) (segs : List String) : List String :=
  if scheme = "file" then
    match segs.dropWhile (· = "") with
    | [] => [""]
    | kept => kept
  else segs

/-- Adds one raw segment; a path of one empty segment is replaced. -/
def addSegment (scheme : String) (segs : List String) (raw : String) : List String :=
  if raw = "." ∨ raw = ".." then segs
  else
    let before := if segs = [""] then [] else segs
    fileForm scheme (pushSegment scheme before (encodeSegment scheme raw))

/-- Segments without an empty one at the end, if others are before it. -/
def dropEmptyEnd (segs : List String) : List String :=
  if 1 < segs.length ∧ segs.getLast? = some "" then segs.dropLast else segs

/-- The URL with raw segments behind its path; `none` if its path takes no segments. -/
def extendPath? (u : Url) (raws : List String) : Option Url :=
  match u.path with
  | .segments segs =>
    some { u with path := .segments (raws.foldl (addSegment u.scheme) (dropEmptyEnd segs)) }
  | .whole _ => none

/-- A query with a pair behind it. -/
def appendPair (query : Option String) (pair : String × String) : Option String :=
  let text := String.ofList (Form.writePair pair.1 pair.2)
  match query with
  | none => some text
  | some q => some (if q = "" then text else q ++ "&" ++ text)

/-- The URL with pairs behind its query. -/
def appendPairs (u : Url) (pairs : List (String × String)) : Url :=
  { u with query := pairs.foldl appendPair u.query }

/-- The pairs of the query. -/
def queryPairs (u : Url) : List (String × String) :=
  match u.query with
  | some q => Form.readPairs q.toList
  | none => []

/-- The URL without user name and password. -/
def withoutUser (u : Url) : Url :=
  { u with authority := u.authority.map fun a => { a with username := "", password := none } }

end Url
end SellerApi
