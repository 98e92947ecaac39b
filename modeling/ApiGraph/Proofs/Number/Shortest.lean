import ApiGraph.Proofs.Number.Rounding

/-!
# Decimals read back

The decimal that is selected for a value lies in the interval of the reals that round to it
(`rounds_shortest`), and any decimal in that interval is read as the value (`ofDecimal_eq`).
-/

namespace ApiGraph

def Decimal.value (d : Decimal) : ℚ := d.digits * 10 ^ d.exponent

namespace Binary64

/-- Both sides of a comparison, scaled to natural numbers by the same factor. -/
theorem exists_scaled (a : Nat) (i : Int) (n : Nat) (j : Int) :
    ∃ c : ℚ, 0 < c ∧
      (a : ℚ) * 10 ^ i * c = ((a * Nat.pow 10 i.toNat * Nat.pow 2 (-j).toNat : Nat) : ℚ) ∧
      (n : ℚ) * 2 ^ j * c = ((n * Nat.pow 2 j.toNat * Nat.pow 10 (-i).toNat : Nat) : ℚ) := by
  refine ⟨10 ^ (-i).toNat * 2 ^ (-j).toNat, by positivity, ?_, ?_⟩
  · rw [← pow_toNat_div 10 i]
    push_cast [Nat.pow_eq]
    field_simp
  · rw [← pow_toNat_div 2 j]
    push_cast [Nat.pow_eq]
    field_simp

theorem compareScaled_eq (a : Nat) (i : Int) (n : Nat) (j : Int) :
    compareScaled a i n j = compare ((a : ℚ) * 10 ^ i) (n * 2 ^ j) := by
  obtain ⟨c, positive, left, right⟩ := exists_scaled a i n j
  unfold compareScaled
  generalize a * Nat.pow 10 i.toNat * Nat.pow 2 (-j).toNat = p at left ⊢
  generalize n * Nat.pow 2 j.toNat * Nat.pow 10 (-i).toNat = r at right ⊢
  rcases lt_trichotomy ((a : ℚ) * 10 ^ i) (n * 2 ^ j) with less | equal | greater
  · have cast : (p : ℚ) < r := by
      rw [← left, ← right]
      exact mul_lt_mul_of_pos_right less positive
    rw [compare_lt_iff_lt.mpr less, compare_lt_iff_lt.mpr (by exact_mod_cast cast)]
  · have cast : (p : ℚ) = r := by rw [← left, ← right, equal]
    rw [compare_eq_iff_eq.mpr equal, compare_eq_iff_eq.mpr (by exact_mod_cast cast)]
  · have cast : (r : ℚ) < p := by
      rw [← left, ← right]
      exact mul_lt_mul_of_pos_right greater positive
    rw [compare_gt_iff_gt.mpr greater, compare_gt_iff_gt.mpr (by exact_mod_cast cast)]

theorem lower_eq {x : Binary64} (positive : 0 < x.significand) :
    (((if x.narrowBelow then 4 * x.significand - 1 else 4 * x.significand - 2 : Nat)) : ℚ) *
      2 ^ (x.exponent - 2) = x.lower := by
  have quarter : (2 : ℚ) ^ x.exponent = 2 ^ (x.exponent - 2) * 4 := by
    rw [zpow_sub₀ (by norm_num)]
    norm_num
  rw [lower, quarter]
  split
  · rw [Nat.cast_sub (by omega)]
    push_cast
    ring
  · rw [Nat.cast_sub (by omega)]
    push_cast
    ring

theorem upper_eq (x : Binary64) :
    ((4 * x.significand + 2 : Nat) : ℚ) * 2 ^ (x.exponent - 2) = x.upper := by
  have quarter : (2 : ℚ) ^ x.exponent = 2 ^ (x.exponent - 2) * 4 := by
    rw [zpow_sub₀ (by norm_num)]
    norm_num
  rw [upper, quarter]
  push_cast
  ring

/-- The test for a decimal is the one for its value. -/
theorem rounds_of_readsBack {x : Binary64} {d : Decimal} (positive : 0 < x.significand)
    (reads : x.readsBack d = true) : x.Rounds d.value := by
  unfold readsBack at reads
  simp only [compareScaled_eq, lower_eq positive, upper_eq, Bool.and_eq_true, Bool.or_eq_true,
    beq_iff_eq, compare_gt_iff_gt, compare_lt_iff_lt, compare_eq_iff_eq] at reads
  obtain ⟨low, high⟩ := reads
  exact ⟨low.imp id (And.imp_right Eq.symm), high⟩

theorem rounds_self (x : Binary64) : x.Rounds (x.significand * 2 ^ x.exponent) := by
  have power : (0 : ℚ) < 2 ^ x.exponent := by positivity
  refine ⟨Or.inl ?_, Or.inl ?_⟩
  · unfold lower
    split <;> nlinarith
  · unfold upper
    nlinarith

theorem value_stripZeros (digits : Nat) (exponent : Int) :
    (stripZeros digits exponent).value = digits * 10 ^ exponent := by
  fun_induction stripZeros digits exponent with
  | case1 digits exponent zeros ih =>
    have whole : digits = 10 * (digits / 10) := by omega
    have cast : (digits : ℚ) = 10 * ((digits / 10 : Nat) : ℚ) := by exact_mod_cast whole
    rw [ih, cast, zpow_add_one₀ (by norm_num)]
    ring
  | case2 => rfl

theorem readsBack_of_pick {tie : Tie} {x : Binary64} {grid : Int} {d : Decimal}
    (picked : x.pick tie grid = some d) : x.readsBack d = true := by
  unfold pick at picked
  simp only at picked
  split at picked
  · cases picked
  · rename_i low _
    injection picked with same
    exact same ▸ low
  · rename_i high
    injection picked with same
    exact same ▸ high
  · rename_i low high
    split at picked
    · injection picked with same
      exact same ▸ low
    · injection picked with same
      exact same ▸ high
    · injection picked with same
      exact same ▸ high
    · split at picked
      · injection picked with same
        exact same ▸ low
      · injection picked with same
        exact same ▸ high

/-- Every value is a decimal. -/
theorem value_whole (m : Nat) (e : Int) :
    ((m * Nat.pow 5 (-e).toNat * Nat.pow 2 e.toNat : Nat) : ℚ) * 10 ^ min e 0 = m * 2 ^ e := by
  rcases Int.le_total 0 e with up | down
  · obtain ⟨k, rfl⟩ := Int.eq_ofNat_of_zero_le up
    have none : (-(k : Int)).toNat = 0 := by omega
    rw [min_eq_right up, none, Int.toNat_natCast, zpow_natCast]
    push_cast [Nat.pow_eq]
    simp
  · obtain ⟨k, rfl⟩ : ∃ k : Nat, e = -k := ⟨(-e).toNat, by omega⟩
    have none : (-(k : Int)).toNat = 0 := by omega
    have ten : (10 : ℚ) ^ k = 5 ^ k * 2 ^ k := by
      rw [← mul_pow]
      norm_num
    rw [min_eq_left down, none, neg_neg, Int.toNat_natCast, zpow_neg, zpow_neg, zpow_natCast,
      zpow_natCast, ten]
    push_cast [Nat.pow_eq]
    field_simp

theorem rounds_shortest {x : Binary64} (tie : Tie) (positive : 0 < x.significand) :
    x.Rounds (x.shortest tie).value := by
  unfold shortest
  rw [if_neg positive.ne']
  simp only [value_stripZeros]
  generalize found : ((List.range 17).findSome? fun n : Nat =>
    x.pick tie (x.leadingExponent - (n + 1 : Nat))) = first
  cases first with
  | some d =>
    obtain ⟨n, -, picked⟩ := List.exists_of_findSome?_eq_some found
    exact rounds_of_readsBack positive (readsBack_of_pick picked)
  | none =>
    have self := x.rounds_self
    rw [← value_whole] at self
    exact self

theorem two_pow_lt_ten_pow : (2 : ℚ) ^ 1075 < 10 ^ 400 :=
  calc (2 : ℚ) ^ 1075 = (2 ^ 215) ^ 5 := by rw [← pow_mul]
    _ < (10 ^ 80) ^ 5 := by
        gcongr
        norm_num
    _ = 10 ^ 400 := by rw [← pow_mul]

/-- What rounds to a value is far from the ends of the decimal range. -/
theorem Rounds.bounds {x : Binary64} {v : ℚ} (rounds : x.Rounds v) (positive : 0 < x.significand) :
    (10 : ℚ) ^ (-400 : Int) < v ∧ v < 10 ^ (400 : Int) := by
  obtain ⟨bound, least, greatest, -⟩ := x.canonical
  have low := rounds.low_le
  have high := rounds.le_high
  have some : (1 : ℚ) ≤ x.significand := by exact_mod_cast positive
  have most : (x.significand : ℚ) + 1 ≤ 2 ^ 53 := by exact_mod_cast bound
  constructor
  · have power : (2 : ℚ) ^ (-1074 : Int) ≤ 2 ^ x.exponent :=
      zpow_le_zpow_right₀ (by norm_num) least
    have tiny : (10 : ℚ) ^ (-400 : Int) < 1 / 2 * 2 ^ (-1074 : Int) :=
      calc (10 : ℚ) ^ (-400 : Int) = (10 ^ 400)⁻¹ := zpow_neg _ _
        _ < (2 ^ 1075)⁻¹ := inv_strictAnti₀ (by positivity) two_pow_lt_ten_pow
        _ = 1 / 2 * (2 ^ 1074)⁻¹ := by rw [pow_succ, mul_inv, mul_comm, one_div]
        _ = 1 / 2 * 2 ^ (-1074 : Int) := by
            rw [zpow_neg]
            rfl
    nlinarith
  · have power : (2 : ℚ) ^ x.exponent ≤ 2 ^ (971 : Int) :=
      zpow_le_zpow_right₀ (by norm_num) greatest
    have huge : (2 : ℚ) ^ 53 * 2 ^ (971 : Int) < 10 ^ (400 : Int) :=
      calc (2 : ℚ) ^ 53 * 2 ^ (971 : Int) = 2 ^ 1024 := by
            rw [show (971 : Int) = (971 : Nat) from rfl, zpow_natCast, ← pow_add]
        _ ≤ 2 ^ 1075 := pow_le_pow_right₀ (by norm_num) (by norm_num)
        _ < 10 ^ 400 := two_pow_lt_ten_pow
    calc v ≤ ((x.significand : ℚ) + 1 / 2) * 2 ^ x.exponent := high
      _ ≤ 2 ^ 53 * 2 ^ (971 : Int) := by
          gcongr
          linarith
      _ < 10 ^ (400 : Int) := huge

theorem ofDecimal_eq {x : Binary64} {digits width : Nat} {exponent : Int}
    (positive : 0 < x.significand) (wide : digits < 10 ^ width)
    (rounds : x.Rounds (digits * 10 ^ exponent)) :
    ofDecimal digits width exponent = some (x.withSign false) := by
  obtain ⟨low, high⟩ := rounds.bounds positive
  have power : (0 : ℚ) < 10 ^ exponent := by positivity
  have digit : 0 < digits := by
    by_contra none
    obtain rfl : digits = 0 := by omega
    rw [Nat.cast_zero, zero_mul] at low
    exact absurd low (not_lt_of_gt (by positivity))
  have enough : (1 : ℚ) ≤ digits := by exact_mod_cast digit
  have notTiny : ¬ exponent + width < -400 := by
    intro tiny
    have step : (10 : ℚ) ^ (exponent + width) ≤ 10 ^ (-400 : Int) :=
      zpow_le_zpow_right₀ (by norm_num) tiny.le
    have cast : (digits : ℚ) < 10 ^ width := by exact_mod_cast wide
    rw [zpow_add₀ (by norm_num), zpow_natCast] at step
    nlinarith
  have notHuge : ¬ 400 < exponent := by
    intro huge
    have step : (10 : ℚ) ^ (400 : Int) ≤ 10 ^ exponent := zpow_le_zpow_right₀ (by norm_num) huge.le
    have more : (10 : ℚ) ^ exponent ≤ digits * 10 ^ exponent := le_mul_of_one_le_left power.le enough
    exact absurd high (not_lt_of_ge (step.trans more))
  unfold ofDecimal
  rw [if_neg digit.ne', if_neg notTiny, if_neg notHuge]
  refine round_eq (Nat.mul_pos digit (Nat.pow_pos (by decide))) (Nat.pow_pos (by decide)) ?_
  have same : ((digits * Nat.pow 10 exponent.toNat : Nat) : ℚ) /
      ((Nat.pow 10 (-exponent).toNat : Nat) : ℚ) = digits * 10 ^ exponent := by
    rw [← pow_toNat_div 10 exponent]
    push_cast [Nat.pow_eq]
    rw [mul_div_assoc]
  rw [same]
  exact rounds

end Binary64

end ApiGraph
