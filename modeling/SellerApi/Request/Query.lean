/-! # Query parameters

Query parameters are an ordered list of pairs in which a key may occur several times. -/

namespace SellerApi

/-- Ordered query parameters. -/
structure Query where
  pairs : List (String × String) := []
  deriving DecidableEq, Repr

namespace Query

def empty : Query := {}

/-- Adds a pair at the end. -/
def push (q : Query) (key value : String) : Query := ⟨q.pairs ++ [(key, value)]⟩

/-- Adds a pair if there is a value. -/
def pushOption (q : Query) (key : String) : Option String → Query
  | some value => q.push key value
  | none => q

/-- Adds a pair of one key for each value, in order. -/
def pushAll (q : Query) (key : String) (values : List String) : Query :=
  ⟨q.pairs ++ values.map fun v => (key, v)⟩

/-- The first value of a key. -/
def get? (q : Query) (key : String) : Option String :=
  (q.pairs.find? fun p => p.1 = key).map (·.2)

/-- The values of a key, in order. -/
def getAll (q : Query) (key : String) : List String :=
  q.pairs.filterMap fun p => if p.1 = key then some p.2 else none

def contains (q : Query) (key : String) : Bool := q.pairs.any fun p => p.1 = key

def size (q : Query) : Nat := q.pairs.length

def isEmpty (q : Query) : Bool := q.pairs.isEmpty

@[simp] theorem pairs_push (q : Query) (key value : String) :
    (q.push key value).pairs = q.pairs ++ [(key, value)] := rfl

@[simp] theorem pairs_pushAll (q : Query) (key : String) (values : List String) :
    (q.pushAll key values).pairs = q.pairs ++ values.map (key, ·) := rfl

theorem getAll_push (q : Query) (key value k : String) :
    (q.push key value).getAll k = q.getAll k ++ if key = k then [value] else [] := by
  by_cases h : key = k <;> simp [getAll, h]

end Query
end SellerApi
