import SellerApi.Text.Pieces
import SellerApi.Url.Percent

/-! # Form encoding

Pairs of texts in a query: `key=value` with `&` between pairs. A space is written `+`, and all but
letters, digits and `*-._` as percent triples. `readPairs` undoes it; it also takes pairs that are
written otherwise. -/

namespace SellerApi.Url.Form

open SellerApi.Text

/-- The characters written as they are. -/
def isPlain (c : Char) : Bool := c.isAlphanum || c = '*' || c = '-' || c = '.' || c = '_'

def writeChar (c : Char) : List Char :=
  if c = ' ' then ['+'] else escapeChar (fun c => !isPlain c) c

def write (cs : List Char) : List Char := cs.flatMap writeChar

/-- One pair. -/
def writePair (key value : String) : List Char := write key.toList ++ '=' :: write value.toList

/-- The text that part of a pair stands for. -/
def read (cs : List Char) : String :=
  String.ofList (Utf8.lossy (unescapeText (cs.map fun c => if c = '+' then ' ' else c)))

/-- A pair, divided at its first `=`. -/
def readPair (cs : List Char) : String × String :=
  (read (cs.takeWhile (· ≠ '=')), read ((cs.dropWhile (· ≠ '=')).drop 1))

/-- The pairs of a query. -/
def readPairs (cs : List Char) : List (String × String) :=
  ((splitAt '&' cs).filter (· ≠ [])).map readPair

end SellerApi.Url.Form
