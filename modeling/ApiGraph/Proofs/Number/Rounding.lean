import Mathlib.Algebra.Order.Field.Power
import Mathlib.Data.Nat.Log
import Mathlib.Data.Rat.Cast.Order
import Mathlib.Tactic.FieldSimp
import Mathlib.Tactic.Linarith
import Mathlib.Tactic.Positivity
import Mathlib.Tactic.Ring
import ApiGraph.Number.Shortest

/-!
# Rounding

The reals that round to a value are an interval around it (`Binary64.Rounds`). `round_eq` says that
`round` picks the value from any quotient in the interval.
-/

namespace ApiGraph.Binary64

theorem pow_toNat_div (b : ℚ) (i : Int) :
    b ^ i.toNat / b ^ (-i).toNat = b ^ i := by
  rcases Int.le_total 0 i with up | down
  · have none : (-i).toNat = 0 := by omega
    rw [none, pow_zero, div_one, ← zpow_natCast, Int.toNat_of_nonneg up]
  · have none : i.toNat = 0 := by omega
    rw [none, pow_zero, one_div, ← zpow_natCast, Int.toNat_of_nonneg (by omega), zpow_neg, inv_inv]

/-- A quotient scaled by a power of two, in natural numbers. -/
theorem scaled_eq (num den : Nat) (q : Int) :
    ((num * Nat.pow 2 (-q).toNat : Nat) : ℚ) / ((den * Nat.pow 2 q.toNat : Nat) : ℚ) =
      num / den / 2 ^ q := by
  rw [← pow_toNat_div 2 q]
  push_cast [Nat.pow_eq]
  field_simp

/-- The exponent has the precision of a significand, or is the least one. -/
structure Scale (v : ℚ) (q : Int) : Prop where
  least : -1074 ≤ q
  below : v < 2 ^ 53 * 2 ^ q
  full : q = -1074 ∨ 2 ^ 52 * 2 ^ q ≤ v

theorem Scale.le {v : ℚ} {p q : Int} (left : Scale v p) (right : Scale v q) : p ≤ q := by
  by_contra greater
  have step : q + 1 ≤ p := by omega
  have least := right.least
  rcases left.full with low | full
  · omega
  · have power : (2 : ℚ) ^ (q + 1) ≤ 2 ^ p := zpow_le_zpow_right₀ (by norm_num) step
    have below := right.below
    rw [zpow_add_one₀ (by norm_num)] at power
    linarith

theorem Scale.unique {v : ℚ} {p q : Int} (left : Scale v p) (right : Scale v q) : p = q :=
  le_antisymm (left.le right) (right.le left)

theorem Scale.max {v : ℚ} {q : Int} (full : 2 ^ 52 * 2 ^ q ≤ v) (below : v < 2 ^ 53 * 2 ^ q) :
    Scale v (max (-1074) q) := by
  refine ⟨le_max_left _ _, below.trans_le ?_, ?_⟩
  · have power : (2 : ℚ) ^ q ≤ 2 ^ Max.max (-1074) q :=
      zpow_le_zpow_right₀ (by norm_num) (le_max_right _ _)
    linarith
  · rcases max_choice (-1074) q with low | high
    · exact Or.inl low
    · rw [high]
      exact Or.inr full

theorem two_pow_log2 {n : Nat} (positive : 0 < n) :
    (2 : ℚ) ^ (n.log2 : Int) ≤ n ∧ (n : ℚ) < 2 ^ ((n.log2 : Int) + 1) := by
  constructor
  · rw [zpow_natCast]
    exact_mod_cast Nat.log2_self_le positive.ne'
  · rw [show (n.log2 : Int) + 1 = ((n.log2 + 1 : Nat) : Int) from rfl, zpow_natCast]
    exact_mod_cast Nat.lt_log2_self

/-- A quotient is less than the floor of its logarithm away from a power of two. -/
theorem quotient_bounds {num den : Nat} (above : 0 < num) (below : 0 < den) :
    (2 : ℚ) ^ ((num.log2 : Int) - den.log2 - 1) < num / den ∧
      (num : ℚ) / den < 2 ^ ((num.log2 : Int) - den.log2 + 1) := by
  obtain ⟨numLow, numHigh⟩ := two_pow_log2 above
  obtain ⟨denLow, denHigh⟩ := two_pow_log2 below
  have positive : (0 : ℚ) < den := by exact_mod_cast below
  constructor
  · rw [lt_div_iff₀ positive]
    calc (2 : ℚ) ^ ((num.log2 : Int) - den.log2 - 1) * den
        < 2 ^ ((num.log2 : Int) - den.log2 - 1) * 2 ^ ((den.log2 : Int) + 1) := by gcongr
      _ = 2 ^ (num.log2 : Int) := by
          rw [← zpow_add₀ (by norm_num)]
          congr 1
          omega
      _ ≤ num := numLow
  · rw [div_lt_iff₀ positive]
    calc (num : ℚ) < 2 ^ ((num.log2 : Int) + 1) := numHigh
      _ = 2 ^ ((num.log2 : Int) - den.log2 + 1) * 2 ^ (den.log2 : Int) := by
          rw [← zpow_add₀ (by norm_num)]
          congr 1
          omega
      _ ≤ 2 ^ ((num.log2 : Int) - den.log2 + 1) * den := by gcongr

theorem scale_spec {num den : Nat} (above : 0 < num) (below : 0 < den) :
    Scale (num / den) (scale num den) := by
  obtain ⟨low, high⟩ := quotient_bounds above below
  unfold scale
  simp only
  generalize start : (num.log2 : Int) - den.log2 - 53 = q
  rw [show (num.log2 : Int) - den.log2 - 1 = q + 52 by omega] at low
  rw [show (num.log2 : Int) - den.log2 + 1 = q + 54 by omega] at high
  have positive : 0 < den * Nat.pow 2 q.toNat := Nat.mul_pos below (Nat.pow_pos (by decide))
  have test : num * Nat.pow 2 (-q).toNat / (den * Nat.pow 2 q.toNat) < Nat.pow 2 53 ↔
      (num : ℚ) / den < 2 ^ 53 * 2 ^ q := by
    rw [Nat.div_lt_iff_lt_mul positive, mul_comm ((2 : ℚ) ^ 53), ← div_lt_iff₀' (by positivity),
      ← scaled_eq, div_lt_iff₀ (by exact_mod_cast positive)]
    exact_mod_cast Iff.rfl
  split
  · rename_i full
    refine Scale.max ?_ (test.mp full)
    calc (2 : ℚ) ^ 52 * 2 ^ q = 2 ^ (q + 52) := by
          rw [zpow_add₀ (by norm_num), mul_comm]
          rfl
      _ ≤ num / den := low.le
  · rename_i short
    refine Scale.max ?_ ?_
    · calc (2 : ℚ) ^ 52 * 2 ^ (q + 1) = 2 ^ 53 * 2 ^ q := by
            rw [zpow_add_one₀ (by norm_num)]
            ring
        _ ≤ (num : ℚ) / den := not_lt.mp fun less => short (test.mpr less)
    · calc (num : ℚ) / den < 2 ^ (q + 54) := high
        _ = 2 ^ 53 * 2 ^ (q + 1) := by
            rw [zpow_add₀ (by norm_num), zpow_add_one₀ (by norm_num)]
            norm_num
            ring

/-- A number at most a half away is the rounded quotient, a half away only when it is even. -/
theorem roundDiv_eq_of_nat {a b m : Nat} (positive : 0 < b)
    (low : 2 * m * b < 2 * a + b ∨ m % 2 = 0 ∧ 2 * m * b = 2 * a + b)
    (high : 2 * a < 2 * m * b + b ∨ m % 2 = 0 ∧ 2 * a = 2 * m * b + b) : roundDiv a b = m := by
  have split : a = b * (a / b) + a % b := (Nat.div_add_mod a b).symm
  have small := Nat.mod_lt a positive
  generalize whole : a / b = q at split
  generalize rest : a % b = r at split small
  subst split
  have lowWeak : 2 * m * b ≤ 2 * (b * q + r) + b := by
    rcases low with less | ⟨-, equal⟩ <;> omega
  have highWeak : 2 * (b * q + r) ≤ 2 * m * b + b := by
    rcases high with less | ⟨-, equal⟩ <;> omega
  have left : q ≤ m := by
    by_contra less
    have : (m + 1) * b ≤ q * b := Nat.mul_le_mul_right b (by omega)
    linarith
  have right : m ≤ q + 1 := by
    by_contra more
    have : (q + 2) * b ≤ m * b := Nat.mul_le_mul_right b (by omega)
    linarith
  unfold roundDiv
  simp only [whole, rest]
  have product : 2 * q * b = 2 * (b * q) := by ring
  have next : 2 * (q + 1) * b = 2 * (b * q) + 2 * b := by ring
  obtain rfl | rfl : m = q ∨ m = q + 1 := by omega
  · rw [product] at high
    split_ifs <;> omega
  · rw [next] at low
    split_ifs <;> omega

theorem roundDiv_eq {a b m : Nat} (positive : 0 < b)
    (low : (m : ℚ) - 1 / 2 < a / b ∨ m % 2 = 0 ∧ (m : ℚ) - 1 / 2 = a / b)
    (high : (a : ℚ) / b < m + 1 / 2 ∨ m % 2 = 0 ∧ (a : ℚ) / b = m + 1 / 2) :
    roundDiv a b = m := by
  have above : (0 : ℚ) < b := by exact_mod_cast positive
  refine roundDiv_eq_of_nat positive (low.imp (fun less => ?_) (And.imp_right fun equal => ?_))
    (high.imp (fun less => ?_) (And.imp_right fun equal => ?_))
  · rw [lt_div_iff₀ above] at less
    have : (2 * m * b : ℚ) < 2 * a + b := by linarith
    exact_mod_cast this
  · rw [eq_div_iff above.ne'] at equal
    have : (2 * m * b : ℚ) = 2 * a + b := by linarith
    exact_mod_cast this
  · rw [div_lt_iff₀ above] at less
    have : (2 * a : ℚ) < 2 * m * b + b := by linarith
    exact_mod_cast this
  · rw [div_eq_iff above.ne'] at equal
    have : (2 * a : ℚ) = 2 * m * b + b := by linarith
    exact_mod_cast this

/-- The least real that may round to the magnitude of a value. -/
def lower (x : Binary64) : ℚ :=
  (if x.narrowBelow then (x.significand : ℚ) - 1 / 4 else (x.significand : ℚ) - 1 / 2) *
    2 ^ x.exponent

/-- The greatest real that may round to the magnitude of a value. -/
def upper (x : Binary64) : ℚ := (x.significand + 1 / 2) * 2 ^ x.exponent

/-- The real rounds to the magnitude of the value; the ends do when the significand is even. -/
structure Rounds (x : Binary64) (v : ℚ) : Prop where
  low : x.lower < v ∨ x.significand % 2 = 0 ∧ x.lower = v
  high : v < x.upper ∨ x.significand % 2 = 0 ∧ v = x.upper

theorem round_of_parts {x : Binary64} {num den m : Nat} {q : Int} (nonzero : num ≠ 0)
    (scaled : scale num den = q)
    (rounded : roundDiv (num * Nat.pow 2 (-q).toNat) (den * Nat.pow 2 q.toNat) = m)
    (parts : (if m = Nat.pow 2 53 then (Nat.pow 2 52, q + 1) else (m, q)) =
      (x.significand, x.exponent)) : round num den = some (x.withSign false) := by
  unfold round
  rw [if_neg nonzero]
  simp only [scaled, rounded, parts]
  rw [dif_pos x.canonical]
  rfl

theorem narrowBelow_iff {x : Binary64} :
    x.narrowBelow = true ↔ x.significand = 2 ^ 52 ∧ -1074 < x.exponent := by
  simp [narrowBelow]

theorem Rounds.low_le {x : Binary64} {v : ℚ} (rounds : x.Rounds v) :
    ((x.significand : ℚ) - 1 / 2) * 2 ^ x.exponent ≤ v := by
  have power : (0 : ℚ) < 2 ^ x.exponent := by positivity
  have least : ((x.significand : ℚ) - 1 / 2) * 2 ^ x.exponent ≤ x.lower := by
    unfold lower
    split <;> nlinarith
  rcases rounds.low with less | ⟨-, equal⟩ <;> linarith

theorem Rounds.le_high {x : Binary64} {v : ℚ} (rounds : x.Rounds v) :
    v ≤ ((x.significand : ℚ) + 1 / 2) * 2 ^ x.exponent :=
  rounds.high.elim le_of_lt fun equal => equal.2.le

/-- Just below a power of two the quotient has the scale of the smaller neighbours, and is rounded
up to the power. -/
theorem round_eq_narrow {x : Binary64} {num den : Nat} (above : 0 < num) (below : 0 < den)
    (rounds : x.Rounds (num / den)) (narrow : x.narrowBelow = true)
    (less : (num : ℚ) / den < 2 ^ 52 * 2 ^ x.exponent) :
    round num den = some (x.withSign false) := by
  obtain ⟨significand, least⟩ := narrowBelow_iff.mp narrow
  have low := rounds.low
  rw [lower, if_pos narrow, significand] at low
  generalize value : (num : ℚ) / den = v at *
  have power : (0 : ℚ) < 2 ^ (x.exponent - 1) := by positivity
  have double : (2 : ℚ) ^ x.exponent = 2 ^ (x.exponent - 1) * 2 := by
    rw [← zpow_add_one₀ (by norm_num), sub_add_cancel]
  rw [double] at low less
  have inside : Scale v (x.exponent - 1) := by
    refine ⟨by omega, by linarith, Or.inr ?_⟩
    push_cast at low
    rcases low with less | ⟨-, equal⟩ <;> nlinarith
  have near : roundDiv (num * Nat.pow 2 (-(x.exponent - 1)).toNat)
      (den * Nat.pow 2 (x.exponent - 1).toNat) = 2 ^ 53 := by
    refine roundDiv_eq (Nat.mul_pos below (Nat.pow_pos (by decide))) ?_ (Or.inl ?_)
    · rw [scaled_eq, value]
      push_cast at low ⊢
      refine low.imp (fun less => ?_) (fun equal => ⟨by norm_num, ?_⟩)
      · rw [lt_div_iff₀ power]
        linarith
      · rw [eq_div_iff power.ne']
        linarith [equal.2]
    · rw [scaled_eq, value, div_lt_iff₀ power]
      push_cast
      linarith
  have scaled := scale_spec above below
  rw [value] at scaled
  refine round_of_parts above.ne' (scaled.unique inside) near ?_
  rw [if_pos (show 2 ^ 53 = Nat.pow 2 53 from rfl), significand, sub_add_cancel]
  rfl

/-- Elsewhere the real has the scale of the value. -/
theorem Rounds.scale {x : Binary64} {v : ℚ} (rounds : x.Rounds v)
    (wide : ¬ (x.narrowBelow = true ∧ v < 2 ^ 52 * 2 ^ x.exponent)) : Scale v x.exponent := by
  obtain ⟨bound, least, greatest, full⟩ := x.canonical
  have lowLe := rounds.low_le
  have leHigh := rounds.le_high
  have power : (0 : ℚ) < 2 ^ x.exponent := by positivity
  have most : (x.significand : ℚ) + 1 ≤ 2 ^ 53 := by exact_mod_cast bound
  refine ⟨least, by nlinarith, ?_⟩
  by_cases lowest : x.exponent = -1074
  · exact Or.inl lowest
  refine Or.inr ?_
  have normal : 2 ^ 52 ≤ x.significand := full.resolve_right lowest
  by_cases power : x.significand = 2 ^ 52
  · have narrowed := narrowBelow_iff.mpr ⟨power, by omega⟩
    exact not_lt.mp fun less => wide ⟨narrowed, less⟩
  · have next : (2 : ℚ) ^ 52 + 1 ≤ x.significand := by exact_mod_cast (by omega)
    nlinarith

theorem Rounds.roundDiv_eq {x : Binary64} {num den : Nat} (below : 0 < den)
    (rounds : x.Rounds (num / den))
    (wide : ¬ (x.narrowBelow = true ∧ (num : ℚ) / den < 2 ^ 52 * 2 ^ x.exponent)) :
    roundDiv (num * Nat.pow 2 (-x.exponent).toNat) (den * Nat.pow 2 x.exponent.toNat) =
      x.significand := by
  have power : (0 : ℚ) < 2 ^ x.exponent := by positivity
  obtain ⟨low, high⟩ := rounds
  generalize value : (num : ℚ) / den = v at *
  refine Binary64.roundDiv_eq (Nat.mul_pos below (Nat.pow_pos (by decide))) ?_ ?_
  · rw [scaled_eq, value]
    by_cases narrowed : x.narrowBelow = true
    · have same := (narrowBelow_iff.mp narrowed).1
      refine Or.inl ?_
      have enough : 2 ^ 52 * 2 ^ x.exponent ≤ v := not_lt.mp fun less => wide ⟨narrowed, less⟩
      rw [lt_div_iff₀ power, same]
      push_cast
      linarith
    · rw [lower, if_neg narrowed] at low
      refine low.imp (fun less => ?_) (And.imp_right fun equal => ?_)
      · rwa [lt_div_iff₀ power]
      · rwa [eq_div_iff power.ne']
  · rw [scaled_eq, value]
    refine high.imp (fun less => ?_) (And.imp_right fun equal => ?_)
    · rwa [div_lt_iff₀ power]
    · rwa [div_eq_iff power.ne']

theorem round_eq {x : Binary64} {num den : Nat} (above : 0 < num) (below : 0 < den)
    (rounds : x.Rounds (num / den)) : round num den = some (x.withSign false) := by
  by_cases narrow : x.narrowBelow = true ∧ (num : ℚ) / den < 2 ^ 52 * 2 ^ x.exponent
  · exact round_eq_narrow above below rounds narrow.1 narrow.2
  · have scaled := (scale_spec above below).unique (rounds.scale narrow)
    refine round_of_parts above.ne' scaled (rounds.roundDiv_eq below narrow) ?_
    rw [if_neg (Nat.ne_of_lt x.canonical.1)]

end ApiGraph.Binary64
