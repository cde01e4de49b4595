/-! # Named fields

    A list of named fields in the order in which the names were first
    inserted.  Inserting a name that is present replaces its value where it
    stands, so names never repeat in a list that insertion has built. -/

namespace RuleTree

/-- Named fields in their order. -/
abbrev Fields (α : Type) := List (String × α)

namespace Fields

variable {α β : Type}

/-- The value of a name. -/
def get? (key : String) : Fields α → Option α
  | [] => none
  | (k, v) :: rest => if k = key then some v else get? key rest

/-- Whether there is a field of this name. -/
def contains (key : String) (fields : Fields α) : Bool := (get? key fields).isSome

/-- Replaces the value of a name in place, or appends the field. -/
def insert (key : String) (value : α) : Fields α → Fields α
  | [] => [(key, value)]
  | (k, v) :: rest => if k = key then (k, value) :: rest else (k, v) :: insert key value rest

/-- Inserts a value and gives back the one that it replaces. -/
def exchange (key : String) (value : α) : Fields α → Option α × Fields α
  | [] => (none, [(key, value)])
  | (k, v) :: rest =>
      if k = key then (some v, (k, value) :: rest)
      else
        let (previous, rest) := exchange key value rest
        (previous, (k, v) :: rest)

/-- The names in their order. -/
def keys (fields : Fields α) : List String := fields.map Prod.fst

/-- Inserts the fields of a list, one after the other. -/
def insertAll (fields : Fields α) (more : Fields α) : Fields α :=
  more.foldl (fun acc (k, v) => insert k v acc) fields

/-- The fields of a list in which names may repeat. -/
def ofList (pairs : List (String × α)) : Fields α := insertAll [] pairs

/-- The same names with other values. -/
def mapValues (f : α → β) (fields : Fields α) : Fields β :=
  fields.map fun (k, v) => (k, f v)

end Fields

end RuleTree
