import SellerApi.Text.Integer

/-! # Descriptions

How a diagnostic shows a value: a record by its name and fields, a choice by its case and what it
holds, a span of time in its largest unit. -/

namespace SellerApi.Text

/-- Fields with their names, commas between them. -/
def describeFields (fields : List (String × String)) : String :=
  ", ".intercalate (fields.map fun f => f.1 ++ ": " ++ f.2)

/-- A record that shows all of its fields. -/
def describeRecord (name : String) (fields : List (String × String)) : String :=
  if fields = [] then name else name ++ " \x7b " ++ describeFields fields ++ " \x7d"

/-- A record that shows some of its fields. -/
def describePartly (name : String) (fields : List (String × String)) : String :=
  if fields = [] then name ++ " \x7b .. \x7d"
  else name ++ " \x7b " ++ describeFields fields ++ ", .. \x7d"

/-- A value that may be missing. -/
def describeOption : Option String → String
  | none => "None"
  | some s => "Some(" ++ s ++ ")"

def describeList (items : List String) : String := "[" ++ ", ".intercalate items ++ "]"

def describeBool (b : Bool) : String := if b then "true" else "false"

/-- Entries of a map, keys and values already described. -/
def describeEntries (entries : List (String × String)) : String :=
  if entries = [] then "\x7b\x7d" else "\x7b" ++ describeFields entries ++ "\x7d"

/-- The thousandths behind a point, without the zeros at the end. -/
def thousandths (n : Nat) : String :=
  if n % 1000 = 0 then ""
  else
    let digits := [n % 1000 / 100, n % 100 / 10, n % 10].map fun d => Char.ofNat (48 + d)
    "." ++ String.ofList (digits.reverse.dropWhile (· = '0')).reverse

/-- A span of so many milliseconds. -/
def describeSpan (ms : Nat) : String :=
  if ms = 0 then "0ns"
  else if ms < 1000 then natText ms ++ "ms"
  else natText (ms / 1000) ++ thousandths ms ++ "s"

end SellerApi.Text
