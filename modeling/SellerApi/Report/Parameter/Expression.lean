import SellerApi.Failure
import SellerApi.Text.Pieces

/-! # Names, filters and sort keys

A name is made of ASCII letters and underscores. A filter compares a name with a value,
`NAME==VALUE` or `NAME=@VALUE`; `splitFilter?` finds the three parts. A sort key is a name with an
optional sign. -/

namespace SellerApi.Parameter

open SellerApi.Text

def isNameChar (c : Char) : Bool := isAsciiLetter c || c = '_'

/-- One or more characters of a name. -/
def isName (cs : List Char) : Bool := !cs.isEmpty && cs.all isNameChar

/-- How a filter compares a dimension with its value. -/
inductive Comparison where
  | equals
  | contains
  deriving DecidableEq, Repr

/-- The sign between the dimension and the value. -/
def Comparison.sign : Comparison → List Char
  | .equals => ['=', '=']
  | .contains => ['=', '@']

/-- The comparison in front of a text, and the text behind it. -/
def splitComparison? : List Char → Option (Comparison × List Char)
  | '=' :: '=' :: cs => some (.equals, cs)
  | '=' :: '@' :: cs => some (.contains, cs)
  | _ => none

/-- The dimension, comparison and value of a filter. The value is not empty and on one line. -/
def splitFilter? (cs : List Char) : Option (List Char × Comparison × List Char) :=
  let name := cs.takeWhile isNameChar
  match splitComparison? (cs.dropWhile isNameChar) with
  | some (comparison, value) =>
    if name.isEmpty || value.isEmpty || value.contains '\n' then none
    else some (name, comparison, value)
  | none => none

/-- A sort key without its sign. -/
def dropDirection : List Char → List Char
  | '+' :: cs => cs
  | '-' :: cs => cs
  | cs => cs

/-- A sort key: an optional sign and a name. -/
def isSortKey (cs : List Char) : Bool := isName (dropDirection cs)

/-- The text of a filter. -/
def filterText (comparison : Comparison) (dimension value : String) : String :=
  dimension ++ String.ofList comparison.sign ++ value

/-- The direction in which a column is sorted. -/
inductive Direction where
  | ascending
  | descending
  deriving DecidableEq, Repr

/-- The text of a sort key. -/
def sortText (direction : Direction) (column : String) : String :=
  match direction with
  | .ascending => "+" ++ column
  | .descending => "-" ++ column

/-- A value that does not match what is expected of it. -/
def mismatch (name value expected : String) : Failure :=
  .badParameter name ("'" ++ value ++ "' does not match " ++ expected)

/-- Checks a dimension, metric or locale given under a parameter name. -/
def checkName (name value : String) : Except Failure Unit :=
  if isName value.toList then .ok () else .error (mismatch name value "[a-zA-Z_]+")

def checkFilter (value : String) : Except Failure Unit :=
  if (splitFilter? value.toList).isSome then .ok ()
  else .error (mismatch "filter" value "NAME==VALUE or NAME=@VALUE")

def checkSort (value : String) : Except Failure Unit :=
  if isSortKey value.toList then .ok () else .error (mismatch "sort" value "[+|-]NAME")

end SellerApi.Parameter
