import Mathlib.Tactic.IntervalCases
import ApiGraph.Number.Digits

namespace ApiGraph.Digits

theorem value_eq (ds : List Char) : value ds = Nat.ofDigitChars 10 ds 0 := rfl

theorem value_ofNat (n : Nat) : value (ofNat n) = n := Nat.ofDigitChars_ten_toDigits

theorem value_append (as bs : List Char) :
    value (as ++ bs) = value as * 10 ^ bs.length + value bs := by
  simp only [value_eq]
  rw [Nat.ofDigitChars_append, Nat.ofDigitChars_eq_ofDigitChars_zero, Nat.mul_comm]

theorem value_zeros (k : Nat) : value (List.replicate k '0') = 0 := by
  rw [value_eq, Nat.ofDigitChars_replicate_zero, Nat.mul_zero]

/-- Digits and nothing else. -/
def AllDigits (ds : List Char) : Prop := ∀ d ∈ ds, d.isDigit = true

theorem allDigits_ofNat (n : Nat) : AllDigits (ofNat n) :=
  fun _ member => Nat.isDigit_of_mem_toDigits (by decide) (by decide) member

theorem allDigits_zeros (k : Nat) : AllDigits (List.replicate k '0') := fun d member => by
  rw [List.eq_of_mem_replicate member]
  decide

theorem AllDigits.append {as bs : List Char} (left : AllDigits as) (right : AllDigits bs) :
    AllDigits (as ++ bs) :=
  fun d member => (List.mem_append.mp member).elim (left d) (right d)

theorem AllDigits.value_lt {ds : List Char} (digits : AllDigits ds) : value ds < 10 ^ ds.length := by
  induction ds with
  | nil => decide
  | cons d ds ih =>
    have rest := ih fun e member => digits e (List.mem_cons_of_mem _ member)
    have digit : d.toNat ≤ 57 := by
      have first := digits d List.mem_cons_self
      simp only [Char.isDigit, Bool.and_eq_true, decide_eq_true_eq] at first
      exact first.2
    have single : value [d] = d.toNat - 48 := by
      show 10 * 0 + (d.toNat - 48) = _
      omega
    rw [← List.singleton_append, value_append, single, List.singleton_append, List.length_cons,
      Nat.pow_succ]
    have scaled : (d.toNat - 48) * 10 ^ ds.length ≤ 9 * 10 ^ ds.length :=
      Nat.mul_le_mul_right _ (by omega)
    omega

theorem ofNat_ne_nil (n : Nat) : ofNat n ≠ [] := Nat.toDigits_ne_nil

theorem length_ofNat_pos (n : Nat) : 0 < (ofNat n).length := Nat.length_toDigits_pos

theorem lt_pow_length (n : Nat) : n < 10 ^ (ofNat n).length :=
  (Nat.length_toDigits_le_iff (by decide) (length_ofNat_pos n)).mp (Nat.le_refl _)

theorem pow_length_le {n : Nat} (positive : 0 < n) : 10 ^ ((ofNat n).length - 1) ≤ n := by
  by_contra less
  have short : n < 10 ^ ((ofNat n).length - 1) := Nat.not_le.mp less
  rcases Nat.eq_zero_or_pos ((ofNat n).length - 1) with none | more
  · rw [none] at short
    omega
  · have fewer : (ofNat n).length ≤ (ofNat n).length - 1 :=
      (Nat.length_toDigits_le_iff (by decide) more).mpr short
    have := length_ofNat_pos n
    omega

theorem head_ofNat_ne_zero {n : Nat} (positive : 0 < n) : (ofNat n).head? ≠ some '0' := by
  induction n using Nat.strong_induction_on with
  | _ n ih =>
    by_cases small : n < 10
    · rw [ofNat, Nat.toDigits_of_lt_base small]
      interval_cases n <;> decide
    · have more : ofNat n = ofNat (n / 10) ++ [Nat.digitChar (n % 10)] :=
        Nat.toDigits_of_base_le (by decide) (by omega)
      have first := ih (n / 10) (by omega) (by omega)
      rw [more, List.head?_append]
      cases head : (ofNat (n / 10)).head? with
      | none => exact absurd (List.head?_eq_none_iff.mp head) (ofNat_ne_nil _)
      | some d =>
        rw [head] at first
        exact first

/-- Digits as they stand before a point: a leading zero stands alone. -/
structure Whole (ds : List Char) : Prop where
  nonempty : ds ≠ []
  digits : AllDigits ds
  lead : ds.head? = some '0' → ds = ['0']

theorem whole_ofNat (n : Nat) : Whole (ofNat n) := by
  refine ⟨ofNat_ne_nil n, allDigits_ofNat n, fun zero => ?_⟩
  rcases Nat.eq_zero_or_pos n with rfl | positive
  · rfl
  · exact absurd zero (head_ofNat_ne_zero positive)

end ApiGraph.Digits
