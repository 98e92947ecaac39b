/-!
# Fresh names

A name that is taken gets a number: `base`, `base2`, `base3` and so on. Among one more candidate
than there are taken names, one is free, so the search is bounded.
-/

namespace ApiGraph.Naming

/-- The candidate of an index: the base itself, then the base with a number from two on. -/
def numbered (base joint : String) (n : Nat) : String :=
  if n = 0 then base else base ++ joint ++ toString (n + 1)

/-- The first index up to the bound that is free, or the bound. -/
def firstFree (bound : Nat) (free : Nat → Bool) : Nat :=
  ((List.range (bound + 1)).find? free).getD bound

def fresh (taken : List String) (base : String) : String :=
  numbered base "" (firstFree taken.length fun n => numbered base "" n ∉ taken)

end ApiGraph.Naming
