import SellerApi.Json.Reader
import SellerApi.Json.Value

/-! # Records with known fields

`Node.fields?` finds the nodes of the fields that a record type knows: by name in a JSON record,
where other members are passed over, or by position in a JSON list. `optional`, `orElse` and
`required` say what a missing field means; `present` and `nonempty` are their counterparts in
writing. -/

namespace SellerApi.Json

/-- The values that the members of one name have. -/
def valuesNamed (name : String) (members : List (Option String × Node)) : List Node :=
  members.filterMap fun m => if m.1 = some name then some m.2 else none

/-- The node of one field: at most one member may have its name. -/
def fieldNamed? (members : List (Option String × Node)) (name : String) : Option (Option Node) :=
  match valuesNamed name members with
  | [] => some none
  | [n] => some (some n)
  | _ => none

/-- One entry per field name: its node, or `none` where the document has none. Fails on a node
that is neither record nor list, on a name that is no text, on a repeated field, and on a list
that is too long. -/
def Node.fields? (names : List String) : Node → Option (List (Option Node))
  | .record members =>
    if members.all (·.1.isSome) then names.mapM (fieldNamed? members) else none
  | .list items =>
    if items.length ≤ names.length then
      some (items.map some ++ List.replicate (names.length - items.length) none)
    else none
  | _ => none

/-- A field that may be missing or null. -/
def optional {α : Type} (read : Node → Option α) : Option Node → Option (Option α)
  | none => some none
  | some .null => some none
  | some n => (read n).map some

/-- A field that has a default when it is missing. -/
def orElse {α : Type} (fallback : α) (read : Node → Option α) : Option Node → Option α
  | none => some fallback
  | some n => read n

/-- A field that may not be missing. -/
def required {α : Type} (read : Node → Option α) : Option Node → Option α
  | none => none
  | some n => read n

/-- A text. -/
def Node.text? : Node → Option String
  | .text s => s
  | _ => none

/-- A truth value. -/
def Node.bool? : Node → Option Bool
  | .bool b => some b
  | _ => none

/-- A natural number below a bound, written as an integer. -/
def Node.below? (bound : Nat) : Node → Option Nat
  | .number n =>
    match n.number? with
    | some (.int i) => if 0 ≤ i ∧ i < bound then some i.toNat else none
    | _ => none
  | _ => none

/-- A list of what one reader accepts. -/
def Node.list? {α : Type} (read : Node → Option α) : Node → Option (List α)
  | .list items => items.mapM read
  | _ => none

/-- Members that are written, in order. -/
def recordOf (members : List (Option (String × Value))) : Value := .record (members.filterMap id)

/-- A member that is always written. -/
def present (name : String) (v : Value) : Option (String × Value) := some (name, v)

/-- A member that is written only when it has a value. -/
def whenSome {α : Type} (name : String) (write : α → Value) (x : Option α) :
    Option (String × Value) :=
  x.map fun x => (name, write x)

/-- A member that is written only when its list has items. -/
def whenAny {α : Type} (name : String) (write : α → Value) (xs : List α) :
    Option (String × Value) :=
  if xs.isEmpty then none else some (name, .list (xs.map write))

/-- A value that is null when there is none. -/
def orNull {α : Type} (write : α → Value) : Option α → Value
  | none => .null
  | some x => write x

def ofNat (n : Nat) : Value := .number (.int n)

end SellerApi.Json
