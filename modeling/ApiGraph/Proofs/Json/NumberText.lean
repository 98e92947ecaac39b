import ApiGraph.Json.Printer
import ApiGraph.Json.Token
import ApiGraph.Proofs.Json.Normal
import ApiGraph.Proofs.Number.Notation
import ApiGraph.Proofs.Text.Pieces

namespace ApiGraph.Json

open Digits

def NoDigit (rest : List Char) : Prop := ∀ c ∈ rest.head?, c.isDigit = false

/-- What comes next cannot belong to a number. -/
def Ends (rest : List Char) : Prop :=
  ∀ c ∈ rest.head?, c.isDigit = false ∧ c ≠ '.' ∧ c ≠ 'e' ∧ c ≠ 'E'

theorem Ends.noDigit {rest : List Char} (ends : Ends rest) : NoDigit rest :=
  fun c member => (ends c member).1

theorem takeWhile_digits {ds rest : List Char} (digits : AllDigits ds) (stop : NoDigit rest) :
    (ds ++ rest).takeWhile Char.isDigit = ds :=
  (Text.span_append digits stop).1

theorem dropWhile_digits {ds rest : List Char} (digits : AllDigits ds) (stop : NoDigit rest) :
    (ds ++ rest).dropWhile Char.isDigit = rest :=
  (Text.span_append digits stop).2

/-- What a scan does behind the digits before the point. -/
def afterWhole (negative : Bool) (ds : List Char) (used : Nat) : List Char → Scan Number
  | '.' :: rest => scanFraction negative ds (used + 1) rest
  | 'e' :: rest | 'E' :: rest => scanExponent negative ds 0 (used + 1) rest
  | _ => integerScan negative ds used

/-- What a scan does behind the digits after the point. -/
def afterFraction (negative : Bool) (ds : List Char) (places used : Nat) : List Char → Scan Number
  | 'e' :: rest | 'E' :: rest => scanExponent negative ds places (used + 1) rest
  | _ => floatScan negative ds places 0 used

theorem scanUnsigned_digits (negative : Bool) (used : Nat) {ds rest : List Char} (whole : Whole ds)
    (stop : NoDigit rest) :
    scanUnsigned negative used (ds ++ rest) = afterWhole negative ds (used + ds.length) rest := by
  have taken := takeWhile_digits whole.digits stop
  have left := dropWhile_digits whole.digits stop
  obtain ⟨nonempty, digits, lead⟩ := whole
  cases ds with
  | nil => contradiction
  | cons d ds =>
    have digit : d.isDigit = true := digits d List.mem_cons_self
    have alone : (d == '0' && (ds ++ rest).head?.any Char.isDigit) = false := by
      by_cases zero : d = '0'
      · subst zero
        have none : ds = [] := by simpa using lead rfl
        subst none
        cases rest with
        | nil => rfl
        | cons c rest => simpa using stop c rfl
      · simp [zero]
    rw [List.cons_append] at taken left ⊢
    simp only [scanUnsigned, digit, alone, taken, left]
    rfl

theorem scanFraction_digits (negative : Bool) (whole : List Char) (used : Nat) {ds rest : List Char}
    (nonempty : ds ≠ []) (digits : AllDigits ds) (stop : NoDigit rest) :
    scanFraction negative whole used (ds ++ rest) =
      afterFraction negative (whole ++ ds) ds.length (used + ds.length) rest := by
  have some : ds.isEmpty = false := by simpa using nonempty
  simp only [scanFraction, takeWhile_digits digits stop, dropWhile_digits digits stop, some]
  rfl

/-- Exponents of 32 bits are within the limit. -/
theorem exponentLimit_eq_none {ds : List Char} (small : value ds < 2 ^ 31) :
    exponentLimit ds = none := by
  rw [exponentLimit, Option.map_eq_none_iff, List.find?_eq_none]
  intro n _ great
  have parts := value_append (ds.take (n + 1)) (ds.drop (n + 1))
  rw [List.take_append_drop] at parts
  have more : value (ds.take (n + 1)) ≤ value (ds.take (n + 1)) * 10 ^ (ds.drop (n + 1)).length :=
    Nat.le_mul_of_pos_right _ (Nat.pow_pos (by decide))
  have beyond : 2 ^ 31 ≤ value (ds.take (n + 1)) := of_decide_eq_true great
  omega

theorem scanExponentDigits_digits (negative : Bool) (digits : List Char) (places : Nat) (down : Bool)
    (used : Nat) {ds rest : List Char} (nonempty : ds ≠ []) (all : AllDigits ds)
    (small : value ds < 2 ^ 31) (stop : NoDigit rest) :
    scanExponentDigits negative digits places down used (ds ++ rest) =
      floatScan negative digits places (if down then -(value ds : Int) else value ds)
        (used + ds.length) := by
  have taken := takeWhile_digits all stop
  cases ds with
  | nil => contradiction
  | cons d ds =>
    have digit : d.isDigit = true := all d List.mem_cons_self
    rw [List.cons_append] at taken ⊢
    simp only [scanExponentDigits, digit, taken, exponentLimit_eq_none small, if_true]

/-! ### Integers -/

theorem write_int (n : Int) : (Number.write (.int n)).toList =
    if n < 0 then '-' :: ofNat n.natAbs else ofNat n.natAbs := by
  have digits : (toString n.natAbs).toList = ofNat n.natAbs := Nat.toList_repr
  show (if n < 0 then "-" ++ toString n.natAbs else toString n.natAbs).toList = _
  split
  · rw [String.toList_append, digits]
    rfl
  · exact digits

theorem afterWhole_ends {negative : Bool} {ds rest : List Char} {used : Nat} (ends : Ends rest) :
    afterWhole negative ds used rest = integerScan negative ds used := by
  unfold afterWhole
  split
  · exact absurd rfl (ends '.' rfl).2.1
  · exact absurd rfl (ends 'e' rfl).2.2.1
  · exact absurd rfl (ends 'E' rfl).2.2.2
  · rfl

/-- Only what begins with a digit is a number without its sign. -/
theorem exists_digit_of_scanUnsigned {negative : Bool} {used last : Nat} {cs : List Char}
    {n : Number} (scanned : scanUnsigned negative used cs = .done n last) :
    ∃ c tail, cs = c :: tail ∧ c.isDigit = true := by
  cases cs with
  | nil => cases scanned
  | cons c tail =>
    refine ⟨c, tail, rfl, ?_⟩
    by_contra other
    have wrong : c.isDigit = false := by simpa using other
    simp [scanUnsigned, wrong] at scanned

/-- The sign or its absence decides how the rest of a number is scanned. -/
theorem scanNumber_signed {negative : Bool} {body rest : List Char} {n : Number} {last : Nat}
    (scanned : scanUnsigned negative (if negative then 1 else 0) (body ++ rest) = .done n last) :
    scanNumber ((if negative then '-' :: body else body) ++ rest) = .done n last := by
  cases negative with
  | true => exact scanned
  | false =>
    obtain ⟨c, tail, form, digit⟩ := exists_digit_of_scanUnsigned scanned
    rw [if_neg (by decide), form] at scanned ⊢
    unfold scanNumber
    split
    · rename_i same
      injection same with same
      subst same
      cases digit
    · exact scanned

theorem integerScan_natural {ds : List Char} (small : value ds < 2 ^ 64) (used : Nat) :
    integerScan false ds used = .done (.int (value ds)) used :=
  if_pos (by simpa using small)

theorem integerScan_negative {ds : List Char} (some : 0 < value ds) (small : value ds ≤ 2 ^ 63)
    (used : Nat) : integerScan true ds used = .done (.int (-value ds)) used := by
  have fits : (true && decide (0 < value ds) && decide (value ds ≤ Nat.pow 2 63)) = true := by
    simpa using ⟨some, small⟩
  unfold integerScan
  simp only [fits]
  rfl

theorem scanNumber_write_int {n : Int} {rest : List Char} (inRange : (Number.int n).InRange)
    (ends : Ends rest) : scanNumber ((Number.write (.int n)).toList ++ rest) =
      .done (.int n) (Number.write (.int n)).toList.length := by
  obtain ⟨least, greatest⟩ := inRange
  have whole := whole_ofNat n.natAbs
  rw [write_int]
  by_cases negative : n < 0
  · have same : -(n.natAbs : Int) = n := by omega
    rw [if_pos negative]
    refine @scanNumber_signed true (ofNat n.natAbs) rest _ _ ?_
    rw [scanUnsigned_digits _ _ whole ends.noDigit, afterWhole_ends ends,
      integerScan_negative (by rw [value_ofNat]; omega) (by rw [value_ofNat]; omega), value_ofNat,
      same, List.length_cons, Nat.add_comm]
    rfl
  · have same : (n.natAbs : Int) = n := by omega
    rw [if_neg negative]
    refine @scanNumber_signed false (ofNat n.natAbs) rest _ _ ?_
    rw [scanUnsigned_digits _ _ whole ends.noDigit, afterWhole_ends ends,
      integerScan_natural (by rw [value_ofNat]; omega), value_ofNat, same, if_neg (by decide),
      Nat.zero_add]

/-! ### Floating point numbers -/

section Float

variable {x : Binary64} {ds rest : List Char}

/-- Digits that spell the selected decimal are read as the value. -/
theorem ofDecimal_shortest (digits : AllDigits ds) {k : Nat}
    (same : value ds = (x.shortest .toEven).digits * 10 ^ k) :
    Binary64.ofDecimal (value ds) ds.length ((x.shortest .toEven).exponent - k) =
      some (x.withSign false) := by
  rcases Nat.eq_zero_or_pos x.significand with none | positive
  · rw [same, Binary64.shortest_of_zero none, Binary64.eq_zero_of_significand none, Nat.zero_mul]
    rfl
  · refine Binary64.ofDecimal_eq positive digits.value_lt ?_
    have rounds := Binary64.rounds_shortest .toEven positive
    have power : ((value ds : Nat) : ℚ) * 10 ^ ((x.shortest .toEven).exponent - k) =
        (x.shortest .toEven).value := by
      rw [same, Decimal.value, zpow_sub₀ (by norm_num), zpow_natCast]
      push_cast
      field_simp
    rw [power]
    exact rounds

theorem floatScan_shortest (digits : AllDigits ds) {k places : Nat} {exponent : Int}
    (same : value ds = (x.shortest .toEven).digits * 10 ^ k)
    (shift : exponent - places = (x.shortest .toEven).exponent - k) (used : Nat) :
    floatScan x.negative ds places exponent used = .done (.float x) used := by
  rw [floatScan, shift, ofDecimal_shortest digits same]
  rfl

/-- Behind the digits of the fraction nothing or an exponent follows. -/
theorem afterFraction_ends {negative : Bool} {places used : Nat} (ends : Ends rest) :
    afterFraction negative ds places used rest = floatScan negative ds places 0 used := by
  unfold afterFraction
  split
  · exact absurd rfl (ends 'e' rfl).2.2.1
  · exact absurd rfl (ends 'E' rfl).2.2.2
  · rfl

theorem noDigit_of_head {c : Char} (other : c.isDigit = false) : NoDigit (c :: rest) := by
  intro d member
  cases member
  exact other

/-- Digits around a point that spell the selected decimal are read as the value. -/
theorem scan_pointed {whole fraction : List Char} (before : Whole whole) (nonempty : fraction ≠ [])
    (after : AllDigits fraction) (k : Nat)
    (same : value (whole ++ fraction) = (x.shortest .toEven).digits * 10 ^ k)
    (places : -(fraction.length : Int) = (x.shortest .toEven).exponent - k) (ends : Ends rest)
    (used : Nat) :
    scanUnsigned x.negative used ((whole ++ '.' :: fraction) ++ rest) =
      .done (.float x) (used + (whole ++ '.' :: fraction).length) := by
  rw [List.append_assoc, List.cons_append,
    scanUnsigned_digits _ _ before (noDigit_of_head (by decide))]
  show scanFraction x.negative whole (used + whole.length + 1) (fraction ++ rest) = _
  rw [scanFraction_digits _ _ _ nonempty after ends.noDigit, afterFraction_ends ends,
    floatScan_shortest (before.digits.append after) same (by omega)]
  simp only [List.length_append, List.length_cons]
  congr 1
  omega

theorem scan_positional {n : Nat} {exponent : Int} (used : Nat) (ends : Ends rest)
    (digits : n = (x.shortest .toEven).digits) (grid : exponent = (x.shortest .toEven).exponent) :
    scanUnsigned x.negative used (numberStyle.layPositional (ofNat n) exponent ++ rest) =
      .done (.float x) (used + (numberStyle.layPositional (ofNat n) exponent).length) := by
  have zero : n = 0 → exponent = 0 := fun none =>
    grid.trans (Binary64.shortest_grid (digits.symm.trans none))
  obtain ⟨whole, fraction, k, text, before, some, after, same, places⟩ :=
    NumberStyle.exists_layPositional_pointed numberStyle zero (.inl rfl)
  rw [text]
  exact scan_pointed before some after k (digits ▸ same) (grid ▸ places) ends used

/-- The exponent behind the mark, whose sign is always written. -/
theorem scanExponent_signed (digits : AllDigits ds) {k places : Nat} {lead : Int}
    (same : value ds = (x.shortest .toEven).digits * 10 ^ k) (used : Nat)
    (shift : lead - places = (x.shortest .toEven).exponent - k) (small : lead.natAbs < 2 ^ 31)
    (ends : Ends rest) :
    scanExponent x.negative ds places used
        ((if lead < 0 then '-' else '+') :: (ofNat lead.natAbs ++ rest)) =
      .done (.float x) (used + (ofNat lead.natAbs).length + 1) := by
  have short : value (ofNat lead.natAbs) < 2 ^ 31 := by rwa [value_ofNat]
  by_cases down : lead < 0
  · rw [if_pos down]
    show scanExponentDigits x.negative ds places true (used + 1) _ = _
    rw [scanExponentDigits_digits _ _ _ _ _ (ofNat_ne_nil _) (allDigits_ofNat _) short ends.noDigit,
      value_ofNat, floatScan_shortest digits same (by rw [if_pos rfl]; omega)]
    congr 1
    omega
  · rw [if_neg down]
    show scanExponentDigits x.negative ds places false (used + 1) _ = _
    rw [scanExponentDigits_digits _ _ _ _ _ (ofNat_ne_nil _) (allDigits_ofNat _) short ends.noDigit,
      value_ofNat, floatScan_shortest digits same (by rw [if_neg (by decide)]; omega)]
    congr 1
    omega

theorem whole_single {d : Char} (digit : d.isDigit = true) : Whole [d] :=
  ⟨List.cons_ne_nil _ _, fun _ member => List.mem_singleton.mp member ▸ digit,
    fun zero => congrArg ([·]) (Option.some.inj zero)⟩

/-- One digit before the mark of the exponent. -/
theorem scan_single {d : Char} {lead : Int} (digit : d.isDigit = true)
    (same : value [d] = (x.shortest .toEven).digits * 10 ^ 0)
    (grid : lead = (x.shortest .toEven).exponent) (small : lead.natAbs < 2 ^ 31)
    (ends : Ends rest) (used : Nat) :
    scanUnsigned x.negative used
        ([d] ++ 'e' :: (if lead < 0 then '-' else '+') :: (ofNat lead.natAbs ++ rest)) =
      .done (.float x) (used + (ofNat lead.natAbs).length + 3) := by
  rw [scanUnsigned_digits _ _ (whole_single digit) (noDigit_of_head (by decide))]
  show scanExponent x.negative [d] 0 (used + 1 + 1) _ = _
  rw [scanExponent_signed (List.forall_mem_singleton.mpr digit) same _ (by omega) small ends]
  congr 1
  omega

/-- One digit before the point, and others between the point and the mark of the exponent. -/
theorem scan_mantissa {d : Char} {fraction : List Char} {lead : Int} (nonempty : fraction ≠ [])
    (digits : AllDigits (d :: fraction))
    (same : value (d :: fraction) = (x.shortest .toEven).digits * 10 ^ 0)
    (grid : lead = (x.shortest .toEven).exponent + fraction.length) (small : lead.natAbs < 2 ^ 31)
    (ends : Ends rest) (used : Nat) :
    scanUnsigned x.negative used ([d] ++ '.' :: (fraction ++ 'e' ::
        (if lead < 0 then '-' else '+') :: (ofNat lead.natAbs ++ rest))) =
      .done (.float x) (used + fraction.length + (ofNat lead.natAbs).length + 4) := by
  obtain ⟨digit, after⟩ := List.forall_mem_cons.mp digits
  rw [scanUnsigned_digits _ _ (whole_single digit) (noDigit_of_head (by decide))]
  show scanFraction x.negative [d] (used + 1 + 1) _ = _
  rw [scanFraction_digits _ _ _ nonempty after (noDigit_of_head (by decide))]
  show scanExponent x.negative (d :: fraction) fraction.length _ _ = _
  rw [scanExponent_signed digits same _ (by omega) small ends]
  congr 1
  omega

theorem scan_scientific {n : Nat} {lead : Int} (used : Nat) (ends : Ends rest)
    (digits : n = (x.shortest .toEven).digits)
    (grid : lead = (x.shortest .toEven).exponent + (ofNat n).length - 1)
    (small : lead.natAbs < 2 ^ 31) :
    scanUnsigned x.negative used (NumberStyle.layScientific (ofNat n) lead ++ rest) =
      .done (.float x) (used + (NumberStyle.layScientific (ofNat n) lead).length) := by
  have spelt : value (ofNat n) = (x.shortest .toEven).digits * 10 ^ 0 := by
    rw [value_ofNat, digits, pow_zero, Nat.mul_one]
  have all := allDigits_ofNat n
  unfold NumberStyle.layScientific
  cases form : ofNat n with
  | nil => exact absurd form (ofNat_ne_nil n)
  | cons d fraction =>
    rw [form] at spelt all grid
    cases fraction with
    | nil =>
      have single := scan_single (all d List.mem_cons_self) spelt (by simpa using grid) small ends
        used
      simp only [List.cons_append, List.nil_append, List.length_cons] at single ⊢
      exact single
    | cons r tail =>
      have mantissa := scan_mantissa (List.cons_ne_nil r tail) all spelt
        (by simp only [List.length_cons] at grid ⊢; omega) small ends used
      simp only [List.cons_append, List.nil_append, List.append_assoc, List.length_append,
        List.length_cons] at mantissa ⊢
      rw [mantissa]
      congr 1
      omega

theorem natAbs_lead_lt {n : Nat} (digits : n = (x.shortest .toEven).digits) :
    ((x.shortest .toEven).exponent + (ofNat n).length - 1).natAbs < 2 ^ 31 := by
  rcases Nat.eq_zero_or_pos x.significand with none | positive
  · rw [digits, Binary64.shortest_of_zero none]
    decide
  · obtain ⟨low, high⟩ := (Binary64.rounds_shortest .toEven positive).bounds positive
    rw [Decimal.value, ← digits] at low high
    have some : 0 < n := digits ▸ Binary64.shortest_digits_pos positive
    generalize (x.shortest .toEven).exponent = e at low high ⊢
    have power : (0 : ℚ) < 10 ^ e := by positivity
    have length := length_ofNat_pos n
    have above : (n : ℚ) < 10 ^ ((ofNat n).length : Int) := by
      rw [zpow_natCast]
      exact_mod_cast lt_pow_length n
    have below : (10 : ℚ) ^ ((ofNat n).length - 1 : Int) ≤ n := by
      rw [show ((ofNat n).length - 1 : Int) = ((ofNat n).length - 1 : Nat) by omega, zpow_natCast]
      exact_mod_cast pow_length_le some
    have least : -400 < (ofNat n).length + e := by
      refine (zpow_lt_zpow_iff_right₀ (show (1 : ℚ) < 10 by norm_num)).mp (low.trans ?_)
      rw [zpow_add₀ (by norm_num)]
      gcongr
    have greatest : (ofNat n).length - 1 + e < 400 := by
      refine (zpow_lt_zpow_iff_right₀ (show (1 : ℚ) < 10 by norm_num)).mp (lt_of_le_of_lt ?_ high)
      rw [zpow_add₀ (by norm_num)]
      gcongr
    omega

def unsignedText (x : Binary64) : List Char :=
  let d := x.shortest .toEven
  let lead : Int := d.exponent + (ofNat d.digits).length - 1
  if numberStyle.positional lead then numberStyle.layPositional (ofNat d.digits) d.exponent
  else NumberStyle.layScientific (ofNat d.digits) lead

theorem write_float (x : Binary64) : (Number.write (.float x)).toList =
    if x.negative then '-' :: unsignedText x else unsignedText x :=
  String.toList_ofList

theorem scan_unsignedText (used : Nat) (ends : Ends rest) :
    scanUnsigned x.negative used (unsignedText x ++ rest) =
      .done (.float x) (used + (unsignedText x).length) := by
  unfold unsignedText
  simp only
  split
  · exact scan_positional used ends rfl rfl
  · exact scan_scientific used ends rfl rfl (natAbs_lead_lt rfl)

theorem scanNumber_write_float (ends : Ends rest) :
    scanNumber ((Number.write (.float x)).toList ++ rest) =
      .done (.float x) (Number.write (.float x)).toList.length := by
  rw [write_float]
  refine (scanNumber_signed (scan_unsignedText _ ends)).trans ?_
  cases x.negative
  · rw [if_neg (by decide), if_neg (by decide), Nat.zero_add]
  · rw [if_pos rfl, if_pos rfl, List.length_cons, Nat.add_comm]

end Float

theorem scanNumber_write {n : Number} {rest : List Char} (inRange : n.InRange) (ends : Ends rest) :
    scanNumber (n.write.toList ++ rest) = .done n n.write.toList.length := by
  cases n with
  | int n => exact scanNumber_write_int inRange ends
  | float x => exact scanNumber_write_float ends

end ApiGraph.Json
