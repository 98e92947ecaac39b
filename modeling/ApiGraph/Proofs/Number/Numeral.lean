import ApiGraph.Proofs.Number.Notation

/-!
# Numerals

A number stands in code as a numeral behind an optional sign. `Numeral` has its productions in
strict code, where a zero that leads other digits is no numeral. `Decimal.nearest` is the number
that it stands for.
-/

namespace ApiGraph

open Digits

/-- What a floating point number is. -/
inductive FloatValue where
  | nan
  | infinity (negative : Bool)
  | finite (x : Binary64)
deriving DecidableEq

def Binary64.signedValue (x : Binary64) : ℚ :=
  (if x.negative then -1 else 1) * (x.significand * 2 ^ x.exponent)

namespace Decimal

variable {x : Binary64} {d : Decimal}

/-- The value nearest to a decimal behind its sign. -/
def nearest (negative : Bool) (d : Decimal) : FloatValue :=
  match Binary64.round (d.digits * 10 ^ d.exponent.toNat) (10 ^ (-d.exponent).toNat) with
  | some x => .finite (x.withSign negative)
  | none => .infinity negative

theorem nearest_of_zero (negative : Bool) (none : d.digits = 0) :
    d.nearest negative = .finite (Binary64.zero.withSign negative) := by
  rw [nearest, none, Nat.zero_mul]
  rfl

theorem nearest_of_rounds (negative : Bool) (some : 0 < d.digits) (rounds : x.Rounds d.value) :
    d.nearest negative = .finite (x.withSign negative) := by
  have quotient : ((d.digits * 10 ^ d.exponent.toNat : Nat) : ℚ) / (10 ^ (-d.exponent).toNat : Nat) =
      d.value := by
    push_cast
    rw [value, ← Binary64.pow_toNat_div 10 d.exponent, mul_div_assoc]
  have rounded := Binary64.round_eq (Nat.mul_pos some (Nat.pow_pos (by decide)))
    (Nat.pow_pos (by decide)) (quotient ▸ rounds)
  rw [nearest, rounded]
  rfl

theorem exists_nearest_exact (negative : Bool)
    (same : (x.significand : ℚ) * 2 ^ x.exponent = d.value) :
    ∃ y, d.nearest negative = .finite y ∧
      y.signedValue = (if negative then -1 else 1) * d.value := by
  rcases Nat.eq_zero_or_pos d.digits with none | some
  · refine ⟨_, nearest_of_zero negative none, ?_⟩
    simp [Binary64.signedValue, Binary64.withSign, Binary64.zero, value, none]
  · refine ⟨_, nearest_of_rounds negative some (same ▸ x.rounds_self), ?_⟩
    rw [← same]
    rfl

end Decimal

namespace Numeral

/-- The number of digits behind an optional sign. -/
def signed (cs : List Char) : Int :=
  if (splitSign cs).1 then -value (splitSign cs).2 else value (splitSign cs).2

def isMark (c : Char) : Bool := c == 'e' || c == 'E'

/-- What may follow the digits, and the power of ten that it stands for. -/
inductive Exponent : List Char → Int → Prop where
  | absent : Exponent [] 0
  | present {mark : Char} {cs : List Char} (marks : isMark mark = true)
      (digits : isNumeral (splitSign cs).2 = true) : Exponent (mark :: cs) (signed cs)

end Numeral

/-- The numerals of strict code and the decimals that they are. -/
inductive Numeral : List Char → Decimal → Prop where
  | whole {ds tail : List Char} {k : Int} (before : Whole ds) (after : Numeral.Exponent tail k) :
      Numeral (ds ++ tail) ⟨value ds, k⟩
  | pointed {ds places tail : List Char} {k : Int} (before : Whole ds) (digits : AllDigits places)
      (after : Numeral.Exponent tail k) :
      Numeral (ds ++ '.' :: places ++ tail) ⟨value (ds ++ places), k - places.length⟩
  | fraction {places tail : List Char} {k : Int} (some : places ≠ []) (digits : AllDigits places)
      (after : Numeral.Exponent tail k) :
      Numeral ('.' :: places ++ tail) ⟨value places, k - places.length⟩

namespace Numeral

/-- A zero before another digit. -/
def LeadingZero (cs : List Char) : Prop := ∃ c rest, cs = '0' :: c :: rest ∧ c.isDigit = true

theorem isNumeral_iff {ds : List Char} : isNumeral ds = true ↔ ds ≠ [] ∧ AllDigits ds := by
  simp [isNumeral, AllDigits]

theorem whole_of_not_leadingZero {ds : List Char} (rest : List Char) (numeral : isNumeral ds = true)
    (single : ¬ LeadingZero (ds ++ rest)) : Whole ds := by
  obtain ⟨some, digits⟩ := isNumeral_iff.mp numeral
  refine ⟨some, digits, fun zero => ?_⟩
  obtain ⟨more, rfl⟩ := List.head?_eq_some_iff.mp zero
  cases more with
  | nil => rfl
  | cons c more => exact absurd ⟨c, more ++ rest, rfl, digits c (by simp)⟩ single

theorem not_isMark_of_digit {c : Char} (digit : c.isDigit = true) : isMark c = false := by
  refine Bool.eq_false_iff.mpr fun marks => ?_
  rcases Bool.or_eq_true_iff.mp marks with small | capital
  · rw [beq_iff_eq.mp small] at digit
    exact absurd digit (by decide)
  · rw [beq_iff_eq.mp capital] at digit
    exact absurd digit (by decide)

theorem not_leadingZero_of_whole {ds rest : List Char} (before : Whole ds)
    (ends : ∀ c ∈ rest.head?, c.isDigit = false) : ¬ LeadingZero (ds ++ rest) := by
  rintro ⟨c, more, text, digit⟩
  have zero : ds.head? = some '0' := by
    cases ds with
    | nil => exact absurd rfl before.nonempty
    | cons d ds => rw [List.head?_cons, (List.cons.inj text).1]
  rw [before.lead zero, List.singleton_append] at text
  have next : rest.head? = some c := by rw [(List.cons.inj text).2, List.head?_cons]
  exact absurd digit (by simp [ends c next])

theorem not_leadingZero {cs : List Char} {d : Decimal} (numeral : Numeral cs d) :
    ¬ LeadingZero cs := by
  have ends {tail : List Char} {k : Int} (after : Exponent tail k) :
      ∀ c ∈ tail.head?, c.isDigit = false := by
    cases after with
    | absent => simp
    | present marks _ =>
      rintro c ⟨⟩
      exact Bool.eq_false_iff.mpr fun digit => by simp [not_isMark_of_digit digit] at marks
  -- behind the digits of a whole number stands its end, a mark or a point, but no digit
  cases numeral with
  | whole before after => exact not_leadingZero_of_whole before (ends after)
  | pointed before digits after =>
    rw [List.append_assoc]
    refine not_leadingZero_of_whole before ?_
    rintro c ⟨⟩
    rfl
  | fraction some digits after =>
    rintro ⟨c, rest, text, -⟩
    exact absurd (List.cons.inj text).1 (by decide)

theorem of_nat (n : Nat) : Numeral (ofNat n) ⟨n, 0⟩ := by
  have numeral := Numeral.whole (whole_ofNat n) .absent
  rwa [List.append_nil, value_ofNat] at numeral

theorem exists_layPositional {style : NumberStyle} {n : Nat} {exponent : Int}
    (pointless : style.pointZero = false) (zero : n = 0 → exponent = 0) :
    ∃ d, Numeral (style.layPositional (ofNat n) exponent) d ∧ d.value = n * 10 ^ exponent := by
  by_cases up : 0 ≤ exponent
  · obtain ⟨k, rfl⟩ := Int.eq_ofNat_of_zero_le up
    have before := whole_shifted n (k := k) fun none => by simpa using zero none
    rw [NumberStyle.layPositional_whole style up pointless, Int.toNat_natCast]
    refine ⟨⟨n * 10 ^ k, 0⟩, ?_, ?_⟩
    · have numeral := Numeral.whole before .absent
      rwa [List.append_nil, value_shifted] at numeral
    · simp [Decimal.value]
  · obtain ⟨ds, places, k, text, before, -, digits, same, shift⟩ :=
      NumberStyle.exists_layPositional_pointed style zero (.inr (by omega))
    have numeral := Numeral.pointed before digits .absent
    rw [List.append_nil, same] at numeral
    refine ⟨_, text ▸ numeral, ?_⟩
    rw [Decimal.value, zero_sub, shift, zpow_sub₀ (by norm_num), zpow_natCast]
    push_cast
    field_simp

/-- A text stands for a number: a numeral behind an optional sign to which the number is nearest. -/
def Denotes (cs : List Char) (x : Binary64) : Prop :=
  ∃ d, Numeral (splitSign cs).2 d ∧ d.nearest (splitSign cs).1 = .finite x

theorem exists_head {cs : List Char} {d : Decimal} (numeral : Numeral cs d) :
    ∃ c rest, cs = c :: rest ∧ (c.isDigit = true ∨ c = '.') := by
  have digit {ds tail : List Char} (before : Whole ds) :
      ∃ c rest, ds ++ tail = c :: rest ∧ (c.isDigit = true ∨ c = '.') := by
    cases ds with
    | nil => exact absurd rfl before.nonempty
    | cons c ds => exact ⟨c, ds ++ tail, rfl, .inl (before.digits c List.mem_cons_self)⟩
  cases numeral with
  | whole before after => exact digit before
  | pointed before digits after =>
    rw [List.append_assoc]
    exact digit before
  | fraction some digits after => exact ⟨'.', _, rfl, .inr rfl⟩

theorem splitSign_of_numeral {cs : List Char} {d : Decimal} (numeral : Numeral cs d) :
    splitSign cs = (false, cs) := by
  obtain ⟨c, rest, rfl, first⟩ := numeral.exists_head
  unfold splitSign
  split
  · rename_i same
    rw [(List.cons.inj same).1] at first
    exact absurd first (by decide)
  · rename_i same
    rw [(List.cons.inj same).1] at first
    exact absurd first (by decide)
  · rfl

theorem nearest_of_shortest {x : Binary64} {tie : Tie} {d : Decimal}
    (same : d.value = (x.shortest tie).value) : d.nearest x.negative = .finite x := by
  rcases Nat.eq_zero_or_pos x.significand with none | some
  · rw [Binary64.shortest_of_zero none] at same
    have zero : d.digits = 0 := by
      have power : (10 : ℚ) ^ d.exponent ≠ 0 := by positivity
      simpa [Decimal.value, power] using same
    rw [Decimal.nearest_of_zero _ zero, ← Binary64.eq_zero_of_significand none]
    rfl
  · have rounds := Binary64.rounds_shortest tie some
    rw [← same] at rounds
    exact Decimal.nearest_of_rounds x.negative (rounds.digits_pos some) rounds

/-- A value that is written positionally and without a needless point. -/
theorem denotes_write {style : NumberStyle} (positional : ∀ e, style.positional e = true)
    (pointless : style.pointZero = false) (x : Binary64) : Denotes (style.write x).toList x := by
  have zero : (x.shortest style.tie).digits = 0 → (x.shortest style.tie).exponent = 0 :=
    Binary64.shortest_grid
  obtain ⟨d, numeral, same⟩ := exists_layPositional pointless zero
  have nearest : d.nearest x.negative = .finite x := nearest_of_shortest same
  rw [NumberStyle.write, String.toList_ofList]
  simp only [positional, if_true]
  cases sign : x.negative with
  | true =>
    rw [sign] at nearest
    exact ⟨d, numeral, nearest⟩
  | false =>
    rw [sign] at nearest
    rw [if_neg (by decide)]
    refine ⟨d, ?_⟩
    rw [splitSign_of_numeral numeral]
    exact ⟨numeral, nearest⟩

end Numeral

end ApiGraph
