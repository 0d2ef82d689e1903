import SellerApi.Failure
import SellerApi.Text.Pieces

/-! # Report dates

A report date is relative, such as `today-7d` or `startOfMonth+1m-1d`, or a calendar day
`YYYY-MM-DD`. Relative dates take digits of any script; a calendar day takes ASCII digits and must
exist. -/

namespace SellerApi.Parameter

open SellerApi.Text

/-- The words that a relative date starts with. -/
def dateAnchors : List (List Char) :=
  ["today".toList, "startOfMonth".toList, "startOfYear".toList]

/-- The unit of an offset: days, weeks, months or years. -/
def isOffsetUnit (c : Char) : Bool := c = 'd' || c = 'w' || c = 'm' || c = 'y'

/-- What follows an offset: a sign, digits and a unit. -/
def dropOffset? : List Char → Option (List Char)
  | [] => none
  | sign :: cs =>
    if sign = '+' ∨ sign = '-' then
      if (cs.takeWhile isDecimalDigit).isEmpty then none
      else
        match cs.dropWhile isDecimalDigit with
        | unit :: rest => if isOffsetUnit unit then some rest else none
        | [] => none
    else none

/-- At most so many offsets and nothing else. -/
def isOffsets : Nat → List Char → Bool
  | _, [] => true
  | 0, _ :: _ => false
  | n + 1, cs =>
    match dropOffset? cs with
    | some rest => isOffsets n rest
    | none => false

/-- A relative date: an anchor and at most three offsets. -/
def isRelativeDate (cs : List Char) : Bool :=
  dateAnchors.any fun anchor =>
    match dropStart? anchor cs with
    | some rest => isOffsets 3 rest
    | none => false

/-- Four digits, two and two, with dashes between them. -/
def isDayShape : List Char → Bool
  | [a, b, c, d, '-', e, f, '-', g, h] => [a, b, c, d, e, f, g, h].all isDecimalDigit
  | _ => false

/-- Why a text of the shape of a day is none. -/
inductive DayFault where
  | outOfRange
  | badCharacter
  | trailing
  deriving DecidableEq, Repr

def DayFault.message : DayFault → String
  | .outOfRange => "input is out of range"
  | .badCharacter => "input contains invalid characters"
  | .trailing => "trailing input"

def isLeapYear (year : Nat) : Bool := year % 4 = 0 && (year % 100 != 0 || year % 400 = 0)

/-- The days of a month of the Gregorian calendar. -/
def daysInMonth (year month : Nat) : Nat :=
  if month = 2 then (if isLeapYear year then 29 else 28)
  else if month = 4 ∨ month = 6 ∨ month = 9 ∨ month = 11 then 30
  else 31

/-- A number of at most so many ASCII digits and what follows it. -/
def scanNumber (width : Nat) (cs : List Char) : Except DayFault (Nat × List Char) :=
  let digits := (cs.take width).takeWhile isAsciiDigit
  if digits.isEmpty then .error .badCharacter
  else .ok (digitsValue digits, cs.drop digits.length)

/-- What follows a dash. -/
def scanDash : List Char → Except DayFault (List Char)
  | '-' :: cs => .ok cs
  | _ => .error .badCharacter

/-- A number between two bounds. -/
def scanWithin (low high : Nat) (cs : List Char) : Except DayFault (Nat × List Char) := do
  let (n, rest) ← scanNumber 2 cs
  if low ≤ n ∧ n ≤ high then .ok (n, rest) else .error .outOfRange

/-- The year, month and day that a text denotes. It is read from left to right, and each part is
judged when it has been read. -/
def scanDay (cs : List Char) : Except DayFault (Nat × Nat × Nat) := do
  let (year, cs) ← scanNumber 4 cs
  let cs ← scanDash cs
  let (month, cs) ← scanWithin 1 12 cs
  let cs ← scanDash cs
  let (day, cs) ← scanWithin 1 31 cs
  if cs ≠ [] then .error .trailing
  else if day ≤ daysInMonth year month then .ok (year, month, day)
  else .error .outOfRange

/-- Checks a report date given under a parameter name. -/
def checkDate (name value : String) : Except Failure Unit :=
  if isRelativeDate value.toList then .ok ()
  else if isDayShape value.toList then
    match scanDay value.toList with
    | .ok _ => .ok ()
    | .error fault => .error (.badParameter name
        ("'" ++ value ++ "' is not a calendar date: " ++ fault.message))
  else .error (.badParameter name ("'" ++ value ++
    "' is neither YYYY-MM-DD nor today|startOfMonth|startOfYear with offsets"))

end SellerApi.Parameter
