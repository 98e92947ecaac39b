import ApiGraph.Number.Binary64

/-!
# Shortest decimals

The decimal with the fewest digits that rounds to a binary value, and of those the nearest. The
search is exact: for one, two, ... digits it tests the two neighbours of the value on that decimal
grid against the interval of reals that round to the value.
-/

namespace ApiGraph

/-- The number `digits * 10 ^ exponent`. -/
structure Decimal where
  digits : Nat
  exponent : Int
deriving DecidableEq, Repr

/-- Which of two equally near decimals is taken. -/
inductive Tie where
  | toEven
  | up
deriving DecidableEq, Repr

namespace Binary64

/-- How `a * 10 ^ i` compares with `n * 2 ^ j`. -/
def compareScaled (a : Nat) (i : Int) (n : Nat) (j : Int) : Ordering :=
  compare (a * Nat.pow 10 i.toNat * Nat.pow 2 (-j).toNat)
    (n * Nat.pow 2 j.toNat * Nat.pow 10 (-i).toNat)

/-- The gap below a power of two is half the gap above, except at the least exponent. -/
def narrowBelow (x : Binary64) : Bool := x.significand == Nat.pow 2 52 && -1074 < x.exponent

/-- Whether the decimal lies among the reals that round to `x`, whose ends belong to an even
significand. -/
def readsBack (x : Binary64) (d : Decimal) : Bool :=
  let lo := if x.narrowBelow then 4 * x.significand - 1 else 4 * x.significand - 2
  let hi := 4 * x.significand + 2
  let even := x.significand % 2 == 0
  let below := compareScaled d.digits d.exponent lo (x.exponent - 2)
  let above := compareScaled d.digits d.exponent hi (x.exponent - 2)
  (below == .gt || (even && below == .eq)) && (above == .lt || (even && above == .eq))

/-- The least `k` at or above the guess with `x < 10 ^ k`; the guess is short by at most two. -/
def leadingExponent (x : Binary64) : Int :=
  let bits : Int := x.significand.log2 + x.exponent
  let guess := Int.fdiv (bits * 30103) 100000
  ([guess, guess + 1, guess + 2].find? fun k =>
    compareScaled 1 k x.significand x.exponent == .gt).getD guess

/-- The digit count of the value on the grid `10 ^ grid`, rounded down. -/
def floorOn (x : Binary64) (grid : Int) : Nat :=
  x.significand * Nat.pow 2 x.exponent.toNat * Nat.pow 10 (-grid).toNat /
    (Nat.pow 2 (-x.exponent).toNat * Nat.pow 10 grid.toNat)

/-- Which of the neighbours `f` and `f + 1` on the grid stands for the value, if one reads back. -/
def pick (tie : Tie) (x : Binary64) (grid : Int) : Option Decimal :=
  let f := x.floorOn grid
  let low : Decimal := ⟨f, grid⟩
  let high : Decimal := ⟨f + 1, grid⟩
  match x.readsBack low, x.readsBack high with
  | false, false => none
  | true, false => some low
  | false, true => some high
  | true, true =>
    match compareScaled (2 * f + 1) grid (2 * x.significand) x.exponent, tie with
    | .gt, _ => some low
    | .lt, _ => some high
    | .eq, .up => some high
    | .eq, .toEven => if f % 2 = 0 then some low else some high

/-- Trailing zeros of the digits move into the exponent. -/
def stripZeros (digits : Nat) (exponent : Int) : Decimal :=
  if h : 0 < digits ∧ digits % 10 = 0 then stripZeros (digits / 10) (exponent + 1)
  else ⟨digits, exponent⟩
termination_by digits
decreasing_by omega

/-- The shortest decimal of the magnitude of a value. Seventeen digits always suffice. -/
def shortest (tie : Tie) (x : Binary64) : Decimal :=
  if x.significand = 0 then ⟨0, 0⟩
  else
    let k := x.leadingExponent
    let found := (List.range 17).findSome? fun n : Nat => x.pick tie (k - (n + 1 : Nat))
    let whole := x.significand * Nat.pow 5 (-x.exponent).toNat * Nat.pow 2 x.exponent.toNat
    let d := found.getD ⟨whole, min x.exponent 0⟩
    stripZeros d.digits d.exponent

end Binary64

end ApiGraph
