/-!
# First uses

Repetitions in a list: `firsts` keeps the first of equal elements, `firstsBy` the first element of
each key, and `groupBy` gathers the elements of each key. The order is that of the first use.
-/

namespace ApiGraph

variable {α κ : Type} [DecidableEq κ]

/-- The first element of each key that is not among the keys seen before. -/
def firstsFrom (key : α → κ) (seen : List κ) : List α → List α
  | [] => []
  | a :: as =>
    if key a ∈ seen then firstsFrom key seen as
    else a :: firstsFrom key (key a :: seen) as

def firstsBy (key : α → κ) (l : List α) : List α := firstsFrom key [] l

def firsts (l : List κ) : List κ := firstsBy id l

/-- The elements of each key, the keys in the order of their first use. -/
def groupBy (key : α → κ) (l : List α) : List (κ × List α) :=
  (firsts (l.map key)).map fun k => (k, l.filter fun a => key a = k)

/-- The elements that repeat an element before them for the first time. -/
def secondsFrom (seen : List κ) : List κ → List κ
  | [] => []
  | a :: as =>
    if seen.count a = 1 then a :: secondsFrom (a :: seen) as else secondsFrom (a :: seen) as

def repeated (l : List κ) : List κ := secondsFrom [] l

end ApiGraph
