/-!
# Dictionaries in insertion order

A dictionary is a list of pairs with different keys. `put` replaces the value of a key where it
stands and appends a new key, so the order is that of the first insertions.
-/

namespace ApiGraph.Dictionary

variable {κ α : Type} [DecidableEq κ]

def put (key : κ) (value : α) : List (κ × α) → List (κ × α)
  | [] => [(key, value)]
  | (k, v) :: rest => if key = k then (key, value) :: rest else (k, v) :: put key value rest

/-- The dictionary of the pairs; the last value of a key counts. -/
def ofPairs (pairs : List (κ × α)) : List (κ × α) := pairs.foldl (fun d p => put p.1 p.2 d) []

end ApiGraph.Dictionary
