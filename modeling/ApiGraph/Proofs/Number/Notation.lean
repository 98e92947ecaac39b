import ApiGraph.Number.Notation
import ApiGraph.Proofs.Number.Digits
import ApiGraph.Proofs.Number.Shortest

/-!
# Positional notation

The digits of a decimal around its point: `exists_layPositional_pointed` says how the two parts spell
the decimal, and `shortest_grid` that a selected zero needs no power of ten.
-/

namespace ApiGraph

open Digits

namespace Binary64

variable {x : Binary64} {tie : Tie}

theorem eq_zero_of_significand (none : x.significand = 0) : x.withSign false = .zero := by
  obtain ⟨negative, significand, exponent, bound, least, greatest, full⟩ := x
  change significand = 0 at none
  subst none
  obtain rfl : exponent = -1074 := full.resolve_left (by decide)
  rfl

theorem shortest_of_zero (none : x.significand = 0) : x.shortest tie = ⟨0, 0⟩ := by
  rw [shortest, if_pos none]

/-- No value but zero is that of a decimal without digits. -/
theorem Rounds.digits_pos {d : Decimal} (rounds : x.Rounds d.value) (some : 0 < x.significand) :
    0 < d.digits := by
  by_contra none
  have bound := (rounds.bounds some).1
  rw [Decimal.value, Nat.eq_zero_of_not_pos none, Nat.cast_zero, zero_mul] at bound
  exact absurd bound (not_lt_of_gt (by positivity))

theorem shortest_digits_pos (some : 0 < x.significand) : 0 < (x.shortest tie).digits :=
  (rounds_shortest tie some).digits_pos some

theorem shortest_grid (none : (x.shortest tie).digits = 0) : (x.shortest tie).exponent = 0 := by
  rcases Nat.eq_zero_or_pos x.significand with empty | some
  · rw [shortest_of_zero empty]
  · exact absurd none (shortest_digits_pos some).ne'

end Binary64

/-- Digits with a leading one that is no zero stand before a point. -/
theorem Digits.whole_of_head {d : Char} {tail : List Char} (digits : AllDigits (d :: tail))
    (lead : d ≠ '0') : Whole (d :: tail) :=
  ⟨List.cons_ne_nil _ _, digits, fun zero => absurd (Option.some.inj zero) lead⟩

theorem Digits.whole_shifted (n : Nat) {k : Nat} (zero : n = 0 → k = 0) :
    Whole (ofNat n ++ List.replicate k '0') := by
  rcases Nat.eq_zero_or_pos n with none | positive
  · rw [zero none, List.replicate_zero, List.append_nil]
    exact whole_ofNat n
  · have digits := (allDigits_ofNat n).append (allDigits_zeros k)
    have lead := head_ofNat_ne_zero positive
    cases first : ofNat n with
    | nil => exact absurd first (ofNat_ne_nil n)
    | cons d tail =>
      rw [first] at digits lead
      exact whole_of_head digits fun same => lead (congrArg some same)

theorem Digits.whole_take {n k : Nat} (positive : 0 < n) (some : 0 < k) :
    Whole ((ofNat n).take k) := by
  have digits : AllDigits ((ofNat n).take k) :=
    fun d member => allDigits_ofNat n d (List.mem_of_mem_take member)
  have lead := head_ofNat_ne_zero positive
  obtain ⟨j, rfl⟩ : ∃ j, k = j + 1 := ⟨k - 1, by omega⟩
  cases first : ofNat n with
  | nil => exact absurd first (ofNat_ne_nil n)
  | cons d tail =>
    rw [first] at digits lead
    exact whole_of_head digits fun same => lead (congrArg Option.some same)

theorem Digits.value_shifted (n k : Nat) : value (ofNat n ++ List.replicate k '0') = n * 10 ^ k := by
  rw [value_append, value_ofNat, value_zeros, List.length_replicate, Nat.add_zero]

namespace NumberStyle

variable (style : NumberStyle) {n : Nat} {exponent : Int}

theorem layPositional_whole (up : 0 ≤ exponent) (pointless : style.pointZero = false) :
    style.layPositional (ofNat n) exponent =
      ofNat n ++ List.replicate exponent.toNat '0' := by
  rw [layPositional, if_pos up, if_neg (by simp [pointless]), List.append_nil]

/-- Behind a point the last of `k` more digits than the decimal has is that of the least power. -/
theorem exists_layPositional_pointed (zero : n = 0 → exponent = 0)
    (point : style.pointZero = true ∨ exponent < 0) :
    ∃ whole fraction, ∃ k : Nat, style.layPositional (ofNat n) exponent = whole ++ '.' :: fraction ∧
      Whole whole ∧ fraction ≠ [] ∧ AllDigits fraction ∧
      value (whole ++ fraction) = n * 10 ^ k ∧ -(fraction.length : Int) = exponent - k := by
  have length := length_ofNat_pos n
  have zeroDigit : AllDigits ['0'] := allDigits_zeros 1
  unfold layPositional
  split
  · rename_i up
    rw [if_pos (point.resolve_right (by omega))]
    refine ⟨_, ['0'], exponent.toNat + 1, rfl, whole_shifted n fun none => by rw [zero none]; rfl,
      List.cons_ne_nil _ _, zeroDigit, ?_, ?_⟩
    · rw [List.append_assoc, ← List.replicate_succ', value_shifted]
    · rw [List.length_singleton]
      omega
  · rename_i down
    have positive : 0 < n := Nat.pos_of_ne_zero fun none => down (zero none).ge
    simp only
    split
    · refine ⟨_, _, 0, rfl, whole_take positive (by omega), ?_, ?_, ?_, ?_⟩
      · intro none
        have := congrArg List.length none
        rw [List.length_drop, List.length_nil] at this
        omega
      · exact fun d member => allDigits_ofNat n d (List.mem_of_mem_drop member)
      · rw [List.take_append_drop, value_ofNat, pow_zero, Nat.mul_one]
      · rw [List.length_drop]
        omega
    · refine ⟨['0'], _, 0, rfl, ⟨List.cons_ne_nil _ _, zeroDigit, fun _ => rfl⟩, ?_,
        (allDigits_zeros _).append (allDigits_ofNat n), ?_, ?_⟩
      · intro none
        exact ofNat_ne_nil n (List.append_eq_nil_iff.mp none).2
      · rw [value_append, value_append, value_zeros, value_ofNat]
        simp [value]
      · rw [List.length_append, List.length_replicate]
        omega

end NumberStyle

end ApiGraph
