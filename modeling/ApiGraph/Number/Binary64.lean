/-!
# Binary floating point numbers

The finite values of the 64-bit binary format, each as sign, significand and exponent in one
canonical form, so that equality is equality of representations. `round` picks the nearest value of
a quotient, of two the one with an even significand.
-/

namespace ApiGraph

/-- The one form of `m * 2 ^ q`: full precision, or the least exponent. -/
def Binary64.Canonical (m : Nat) (q : Int) : Prop :=
  m < Nat.pow 2 53 ∧ -1074 ≤ q ∧ q ≤ 971 ∧ (Nat.pow 2 52 ≤ m ∨ q = -1074)

instance (m : Nat) (q : Int) : Decidable (Binary64.Canonical m q) := by
  unfold Binary64.Canonical; infer_instance

/-- The finite value `(-1) ^ negative * significand * 2 ^ exponent`. -/
structure Binary64 where
  negative : Bool
  significand : Nat
  exponent : Int
  canonical : Binary64.Canonical significand exponent := by decide
deriving DecidableEq, Repr

namespace Binary64

def zero : Binary64 := { negative := false, significand := 0, exponent := -1074 }

instance : Inhabited Binary64 := ⟨zero⟩

def withSign (negative : Bool) (x : Binary64) : Binary64 := { x with negative }

/-- The quotient `num / den` rounded to a natural number, a half to the even neighbour. -/
def roundDiv (num den : Nat) : Nat :=
  let q := num / den
  let r := num % den
  if 2 * r < den then q else if den < 2 * r then q + 1 else if q % 2 = 0 then q else q + 1

/-- The exponent at which a positive quotient has 53 significant bits, or the least exponent. -/
def scale (num den : Nat) : Int :=
  let q : Int := (num.log2 : Int) - den.log2 - 53
  let full := num * Nat.pow 2 (-q).toNat / (den * Nat.pow 2 q.toNat) < Nat.pow 2 53
  max (-1074) (if full then q else q + 1)

/-- The value nearest to `num / den`, or nothing when that is beyond the format. -/
def round (num den : Nat) : Option Binary64 :=
  if num = 0 then some zero
  else
    let q := scale num den
    let m := roundDiv (num * Nat.pow 2 (-q).toNat) (den * Nat.pow 2 q.toNat)
    let (m, q) := if m = Nat.pow 2 53 then (Nat.pow 2 52, q + 1) else (m, q)
    if h : Canonical m q then
      some { negative := false, significand := m, exponent := q, canonical := h }
    else none

/-- The value nearest to `digits * 10 ^ exponent`, where `digits` has at most `width` digits.
Exponents beyond every value are decided without the power. -/
def ofDecimal (digits width : Nat) (exponent : Int) : Option Binary64 :=
  if digits = 0 then some zero
  else if exponent + width < -400 then some zero
  else if 400 < exponent then none
  else round (digits * Nat.pow 10 exponent.toNat) (Nat.pow 10 (-exponent).toNat)

/-- The value nearest to an integer that is no larger than the format. -/
def ofInt (n : Int) : Binary64 :=
  ((round n.natAbs 1).getD zero).withSign (n < 0)

/-- The natural number that the value is, negative zero among them. -/
def toNat? (x : Binary64) : Option Nat :=
  if x.significand = 0 then some 0
  else if x.negative then none
  else if x.significand % Nat.pow 2 (-x.exponent).toNat = 0 then
    some (x.significand * Nat.pow 2 x.exponent.toNat / Nat.pow 2 (-x.exponent).toNat)
  else none

end Binary64

end ApiGraph
