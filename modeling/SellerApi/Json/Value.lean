import SellerApi.Json.Node

/-! # JSON values

A `Value` is what a document means when nothing more is known of it: texts are Unicode texts,
numbers have values, a record has one member of each name. `Node.value?` reads a node as a value;
it keeps the last of the members with one name, puts them in the order of their names, and allows
127 levels of lists and records. -/

namespace SellerApi.Json

/-- A JSON value. -/
inductive Value where
  | null
  | bool (b : Bool)
  | number (n : Number)
  | text (s : String)
  | list (items : List Value)
  | record (members : List (String × Value))

/-- A member put into members that are sorted by name; it replaces one of its name. -/
def putMember (name : String) (value : Value) : List (String × Value) → List (String × Value)
  | [] => [(name, value)]
  | (n, v) :: ms =>
    if name < n then (name, value) :: (n, v) :: ms
    else if name = n then (name, value) :: ms
    else (n, v) :: putMember name value ms

/-- How deep lists and records may nest. -/
def depthLimit : Nat := 127

mutual
/-- A node as a value with room for so many levels. -/
def Node.value? (room : Nat) : Node → Option Value
  | .null => some .null
  | .bool b => some (.bool b)
  | .number n => n.number?.map .number
  | .text s => s.map .text
  | .list items => if room = 0 then none else (values? (room - 1) items).map .list
  | .record members => if room = 0 then none else (members? (room - 1) members).map .record

def values? (room : Nat) : List Node → Option (List Value)
  | [] => some []
  | n :: ns => do
    let v ← n.value? room
    let vs ← values? room ns
    return v :: vs

/-- Members by name; those further on win. -/
def members? (room : Nat) : List (Option String × Node) → Option (List (String × Value))
  | [] => some []
  | (name, n) :: ns => do
    let name ← name
    let v ← n.value? room
    let ms ← members? room ns
    return if ms.any (·.1 = name) then ms else putMember name v ms
end

end SellerApi.Json
