import Mathlib.Data.List.DropRight
import ApiGraph.Proofs.Backend.FieldDefault
import ApiGraph.Proofs.Backend.Resolution
import ApiGraph.Proofs.Fresh
import ApiGraph.Proofs.Number.Numeral

/-!
# Defaults in code

A default that reads as a number stands in code as it was written, but the numbers that are read are
not the numerals of code: `default_meaning` says that a numeral means the number that was read, and
that exactly the texts with a leading zero and the names of special values are no numerals.
-/

namespace ApiGraph

open Text Digits Backend.Source

/-- The first piece of a text is all of it, or stands before a separator. -/
theorem Text.exists_of_splitOn {p : Char → Bool} {cs w : List Char} {ws : List (List Char)}
    (pieces : splitOn p cs = w :: ws) :
    (ws = [] ∧ cs = w) ∨ ∃ c rest, p c = true ∧ cs = w ++ c :: rest ∧ splitOn p rest = ws := by
  induction cs generalizing w ws with
  | nil =>
    cases pieces
    exact .inl ⟨rfl, rfl⟩
  | cons c cs ih =>
    unfold splitOn at pieces
    split at pieces
    · rename_i separates
      cases pieces
      exact .inr ⟨c, cs, separates, rfl, rfl⟩
    · split at pieces
      · rename_i none
        exact absurd none (splitOn_ne_nil p cs)
      · rename_i first others later
        cases pieces
        obtain ⟨rfl, rfl⟩ | ⟨d, rest, separates, rfl, same⟩ := ih later
        · exact .inl ⟨rfl, rfl⟩
        · exact .inr ⟨d, rest, separates, rfl, same⟩

theorem Text.eq_of_splitOn_single {p : Char → Bool} {cs w : List Char}
    (pieces : splitOn p cs = [w]) : cs = w := by
  obtain ⟨-, same⟩ | ⟨_, rest, -, -, none⟩ := exists_of_splitOn pieces
  · exact same
  · exact absurd none (splitOn_ne_nil p rest)

namespace Backend.FieldDefault

def parsedInteger? (cs : List Char) : Option Int :=
  if isInteger cs then some (Numeral.signed cs) else none

def mantissa? (cs : List Char) : Option Decimal :=
  match splitOn (· == '.') cs with
  | [whole] => if isNumeral whole then some ⟨value whole, 0⟩ else none
  | [whole, places] =>
    if isNumeral (whole ++ places) then some ⟨value (whole ++ places), -places.length⟩ else none
  | _ => none

def decimal? (cs : List Char) : Option Decimal :=
  match splitOn Numeral.isMark cs with
  | [mantissa] => mantissa? mantissa
  | [mantissa, exponent] =>
    if isNumeral (splitSign exponent).2 then
      (mantissa? mantissa).map fun d => ⟨d.digits, d.exponent + Numeral.signed exponent⟩
    else none
  | _ => none

/-- The value that a name stands for. -/
def special? (negative : Bool) (cs : List Char) : Option FloatValue :=
  match String.ofList (cs.map Char.toLower) with
  | "nan" => some .nan
  | "inf" | "infinity" => some (.infinity negative)
  | _ => none

def parsedFloat? (cs : List Char) : Option FloatValue :=
  (special? (splitSign cs).1 (splitSign cs).2).or
    ((decimal? (splitSign cs).2).map (·.nearest (splitSign cs).1))

theorem isSome_guard {α : Type} (b : Bool) (a : α) : (if b then some a else none).isSome = b := by
  cases b <;> rfl

theorem isSome_parsedInteger? (cs : List Char) : (parsedInteger? cs).isSome = isInteger cs :=
  isSome_guard _ _

theorem isSome_mantissa? (cs : List Char) : (mantissa? cs).isSome = isMantissa cs := by
  unfold mantissa? isMantissa
  rcases splitOn (· == '.') cs with _ | ⟨whole, _ | ⟨places, _ | ⟨_, _⟩⟩⟩
  · rfl
  · exact isSome_guard _ _
  · exact isSome_guard _ _
  · rfl

theorem isSome_special? (negative : Bool) (cs : List Char) : (special? negative cs).isSome =
    specialNumbers.contains (String.ofList (cs.map Char.toLower)) := by
  unfold special? specialNumbers
  split <;> simp_all

theorem isSome_parsedFloat? (cs : List Char) : (parsedFloat? cs).isSome = isFloat cs := by
  have decimal (body : List Char) : (decimal? body).isSome =
      match splitOn (fun c => c == 'e' || c == 'E') body with
      | [mantissa] => isMantissa mantissa
      | [mantissa, exponent] => isMantissa mantissa && isNumeral (splitSign exponent).2
      | _ => false := by
    unfold decimal? Numeral.isMark
    split
    · exact isSome_mantissa? _
    · split <;> simp_all [isSome_mantissa?]
    · rfl
  unfold parsedFloat? isFloat
  rw [Option.isSome_or, isSome_special?, Option.isSome_map]
  exact congrArg (specialNumbers.contains _ || ·) (decimal _)

variable {cs tail : List Char} {d : Decimal} {k : Int}

theorem point_of_digit {c : Char} (digit : c.isDigit = true) : (c == '.') = false := by
  refine beq_eq_false_iff_ne.mpr fun same => ?_
  rw [same] at digit
  exact absurd digit (by decide)

theorem solid_of_signed (digits : isNumeral (splitSign cs).2 = true) :
    ∀ c ∈ cs, Numeral.isMark c = false := by
  intro c member
  have rest := (Numeral.isNumeral_iff.mp digits).2
  unfold splitSign at rest
  split at rest
  · obtain rfl | later := List.mem_cons.mp member
    · decide
    · exact Numeral.not_isMark_of_digit (rest c later)
  · obtain rfl | later := List.mem_cons.mp member
    · decide
    · exact Numeral.not_isMark_of_digit (rest c later)
  · exact Numeral.not_isMark_of_digit (rest c member)

theorem decimal?_append (solid : ∀ c ∈ cs, Numeral.isMark c = false)
    (after : Numeral.Exponent tail k) :
    decimal? (cs ++ tail) = (mantissa? cs).map fun d => ⟨d.digits, d.exponent + k⟩ := by
  cases after with
  | absent =>
    rw [List.append_nil, decimal?, splitOn_solid solid]
    simp
  | present marks digits =>
    rw [decimal?, splitOn_solid_cons solid marks, splitOn_solid (solid_of_signed digits)]
    simp [digits]

theorem decimal?_of_numeral (numeral : Numeral cs d) : decimal? cs = some d := by
  have markless {ds : List Char} (digits : AllDigits ds) : ∀ c ∈ ds, Numeral.isMark c = false :=
    fun c member => Numeral.not_isMark_of_digit (digits c member)
  have pointless {ds : List Char} (digits : AllDigits ds) : ∀ c ∈ ds, (c == '.') = false :=
    fun c member => point_of_digit (digits c member)
  cases numeral with
  | whole before after =>
    have numeral := Numeral.isNumeral_iff.mpr ⟨before.nonempty, before.digits⟩
    rw [decimal?_append (markless before.digits) after, mantissa?,
      splitOn_solid (pointless before.digits)]
    simp [numeral]
  | @pointed ds places tail k before digits after =>
    have numeral : isNumeral (ds ++ places) = true :=
      Numeral.isNumeral_iff.mpr ⟨by simp [before.nonempty], before.digits.append digits⟩
    have solid : ∀ c ∈ ds ++ '.' :: places, Numeral.isMark c = false := by
      refine List.forall_mem_append.mpr ⟨markless before.digits, List.forall_mem_cons.mpr ⟨rfl, ?_⟩⟩
      exact markless digits
    rw [decimal?_append solid after, mantissa?, splitOn_solid_cons (pointless before.digits) rfl,
      splitOn_solid (pointless digits)]
    simp [numeral, Int.add_comm, Int.sub_eq_add_neg]
  | @fraction places tail k some digits after =>
    have numeral := Numeral.isNumeral_iff.mpr ⟨some, digits⟩
    have solid : ∀ c ∈ '.' :: places, Numeral.isMark c = false :=
      List.forall_mem_cons.mpr ⟨rfl, markless digits⟩
    have pieces := splitOn_solid_cons (p := (· == '.')) (a := []) (by simp) (c := '.') rfl places
    rw [splitOn_solid (pointless digits), List.nil_append] at pieces
    rw [decimal?_append solid after, mantissa?, pieces]
    simp [numeral, Int.add_comm, Int.sub_eq_add_neg]

/-! ### What is read is a numeral -/

theorem exists_of_mantissa? (read : mantissa? cs = some d) :
    (isNumeral cs = true ∧ d = ⟨value cs, 0⟩) ∨
      ∃ whole places, cs = whole ++ '.' :: places ∧ isNumeral (whole ++ places) = true ∧
        d = ⟨value (whole ++ places), -places.length⟩ := by
  unfold mantissa? at read
  split at read
  · rename_i whole pieces
    obtain rfl := eq_of_splitOn_single pieces
    obtain ⟨numeral, same⟩ := Option.ite_none_right_eq_some.mp read
    exact .inl ⟨numeral, (Option.some.inj same).symm⟩
  · rename_i whole places pieces
    obtain ⟨none, -⟩ | ⟨c, rest, point, rfl, later⟩ := exists_of_splitOn pieces
    · cases none
    · obtain rfl := eq_of_splitOn_single later
      obtain ⟨numeral, same⟩ := Option.ite_none_right_eq_some.mp read
      rw [beq_iff_eq.mp point]
      exact .inr ⟨whole, rest, rfl, numeral, (Option.some.inj same).symm⟩
  · cases read

theorem exists_of_decimal? (read : decimal? cs = some d) :
    ∃ front tail e k, cs = front ++ tail ∧ mantissa? front = some e ∧ Numeral.Exponent tail k ∧
      d = ⟨e.digits, e.exponent + k⟩ := by
  unfold decimal? at read
  split at read
  · rename_i mantissa pieces
    obtain rfl := eq_of_splitOn_single pieces
    exact ⟨cs, [], d, 0, by simp, read, .absent, by simp⟩
  · rename_i mantissa exponent pieces
    obtain ⟨none, -⟩ | ⟨c, rest, marks, rfl, later⟩ := exists_of_splitOn pieces
    · cases none
    · obtain rfl := eq_of_splitOn_single later
      obtain ⟨digits, same⟩ := Option.ite_none_right_eq_some.mp read
      obtain ⟨e, front, rfl⟩ := Option.map_eq_some_iff.mp same
      exact ⟨mantissa, c :: rest, e, _, rfl, front, .present marks digits, rfl⟩
  · cases read

/-- A decimal that is read is a numeral, unless it has a leading zero. -/
theorem numeral_of_decimal? (read : decimal? cs = some d) (single : ¬ Numeral.LeadingZero cs) :
    Numeral cs d := by
  obtain ⟨front, tail, e, k, rfl, mantissa, after, rfl⟩ := exists_of_decimal? read
  obtain ⟨numeral, rfl⟩ | ⟨whole, places, rfl, numeral, rfl⟩ := exists_of_mantissa? mantissa
  · have shown := Numeral.whole (Numeral.whole_of_not_leadingZero _ numeral single) after
    simpa using shown
  · obtain ⟨some, digits⟩ := Numeral.isNumeral_iff.mp numeral
    have behind : AllDigits places := fun c member => digits c (List.mem_append_right _ member)
    have shift : -(places.length : Int) + k = k - places.length := by omega
    rw [shift]
    cases whole with
    | nil => exact .fraction some behind after
    | cons c whole =>
      have before : isNumeral (c :: whole) = true :=
        Numeral.isNumeral_iff.mpr ⟨by simp, fun e member => digits e (List.mem_append_left _ member)⟩
      rw [List.append_assoc] at single
      exact .pointed (Numeral.whole_of_not_leadingZero _ before single) behind after

/-- The numeral of a text behind its sign, if the text is one. -/
def body (cs : List Char) : List Char := (splitSign cs).2

/-- A name of a value that is no numeral. -/
def IsSpecial (cs : List Char) : Prop := String.ofList (cs.map Char.toLower) ∈ specialNumbers

/-- What the text of an integer means in code. -/
structure MeansInteger (cs : List Char) (n : Int) : Prop where
  numeral_iff : (∃ d, Numeral (body cs) d) ↔ ¬ Numeral.LeadingZero (body cs)
  value : ∀ d, Numeral (body cs) d → (if (splitSign cs).1 then -1 else 1) * d.value = n
  exact_iff : (∃ x, Numeral.Denotes cs x ∧ x.signedValue = n) ↔
    ¬ Numeral.LeadingZero (body cs) ∧ ∃ x : Binary64, x.signedValue = n

/-- What the text of a floating point number means in code. -/
structure MeansFloat (cs : List Char) (v : FloatValue) : Prop where
  numeral_iff : (∃ d, Numeral (body cs) d) ↔ ¬ Numeral.LeadingZero (body cs) ∧ ¬ IsSpecial (body cs)
  value : ∀ d, Numeral (body cs) d → d.nearest (splitSign cs).1 = v

/-- A numeral begins with a digit or a point, a name with a letter. -/
theorem not_isSpecial_of_numeral (numeral : Numeral cs d) : ¬ IsSpecial cs := by
  intro special
  obtain ⟨c, rest, rfl, first⟩ := numeral.exists_head
  have letter : c.toLower = 'i' ∨ c.toLower = 'n' := by
    have names : ∀ s ∈ specialNumbers, s.toList.head?.all (fun e => e == 'i' || e == 'n') = true := by
      decide
    simpa using names _ special
  have other : c.toLower = c := by
    rcases first with digit | rfl
    · exact Naming.toLower_digit digit
    · rfl
  rw [other] at letter
  rcases letter with rfl | rfl <;> exact absurd first (by decide)

theorem isSome_special?_iff {negative : Bool} : (special? negative cs).isSome ↔ IsSpecial cs := by
  rw [isSome_special?, List.contains_iff_mem]
  rfl

theorem meansFloat {v : FloatValue} (parsed : parsedFloat? cs = some v) : MeansFloat cs v := by
  refine ⟨⟨?_, ?_⟩, ?_⟩
  · rintro ⟨d, numeral⟩
    exact ⟨numeral.not_leadingZero, not_isSpecial_of_numeral numeral⟩
  · rintro ⟨single, common⟩
    have none : special? (splitSign cs).1 (body cs) = none := by
      rw [← Option.not_isSome_iff_eq_none, isSome_special?_iff]
      exact common
    rw [parsedFloat?, ← body, none, Option.none_or] at parsed
    obtain ⟨d, read, -⟩ := Option.map_eq_some_iff.mp parsed
    exact ⟨d, numeral_of_decimal? read single⟩
  · intro d numeral
    have none : special? (splitSign cs).1 (body cs) = none := by
      rw [← Option.not_isSome_iff_eq_none, isSome_special?_iff]
      exact not_isSpecial_of_numeral numeral
    rw [parsedFloat?, ← body, none, Option.none_or, decimal?_of_numeral numeral] at parsed
    exact Option.some.inj parsed

theorem magnitude_eq {x : Binary64} {n : Int} (same : x.signedValue = n) :
    (x.significand : ℚ) * 2 ^ x.exponent = (n.natAbs : ℚ) := by
  have power : (0 : ℚ) ≤ x.significand * 2 ^ x.exponent := by positivity
  rw [Nat.cast_natAbs, Int.cast_abs, ← same, Binary64.signedValue, abs_mul, abs_of_nonneg power]
  split <;> simp

theorem meansInteger {n : Int} (parsed : parsedInteger? cs = some n) : MeansInteger cs n := by
  obtain ⟨integer, same⟩ := Option.ite_none_right_eq_some.mp parsed
  have digits : isNumeral (body cs) = true := (Bool.and_eq_true_iff.mp integer).1
  have shown (single : ¬ Numeral.LeadingZero (body cs)) :
      Numeral (body cs) ⟨Digits.value (body cs), 0⟩ := by
    have before := Numeral.whole_of_not_leadingZero [] digits (by simpa using single)
    simpa using Numeral.whole before .absent
  have signed : n = if (splitSign cs).1 then -(Digits.value (body cs) : Int)
      else Digits.value (body cs) := (Option.some.inj same).symm
  have magnitude : n.natAbs = Digits.value (body cs) := by
    rw [signed]
    split <;> simp
  -- a numeral is read as one decimal, so it is the one of the digits
  have unique {d : Decimal} (numeral : Numeral (body cs) d) : d = ⟨Digits.value (body cs), 0⟩ := by
    have read := decimal?_of_numeral numeral
    rw [decimal?_of_numeral (shown numeral.not_leadingZero)] at read
    exact (Option.some.inj read).symm
  have value : (if (splitSign cs).1 then -1 else 1) * (Decimal.mk (Digits.value (body cs)) 0).value =
      n := by
    rw [signed, Decimal.value]
    split <;> simp
  refine ⟨⟨?_, fun single => ⟨_, shown single⟩⟩, fun d numeral => unique numeral ▸ value, ?_, ?_⟩
  · rintro ⟨d, numeral⟩
    exact numeral.not_leadingZero
  · rintro ⟨x, ⟨d, numeral, -⟩, same⟩
    exact ⟨numeral.not_leadingZero, x, same⟩
  · rintro ⟨single, x, same⟩
    have exact : (x.significand : ℚ) * 2 ^ x.exponent =
        (Decimal.mk (Digits.value (body cs)) 0).value := by
      rw [magnitude_eq same, magnitude]
      simp [Decimal.value]
    obtain ⟨y, nearest, equal⟩ := Decimal.exists_nearest_exact (splitSign cs).1 exact
    exact ⟨y, ⟨_, shown single, nearest⟩, equal.trans value⟩

/-! ### Defaults -/

theorem trim_eq_empty_iff (s : String) : trim s = "" ↔ isBlank s = true := by
  have ends : trimChars s.toList = (s.toList.dropWhile isBlankChar).rdropWhile isBlankChar := rfl
  rw [trim, ← String.toList_inj, String.toList_ofList, String.toList_empty, ends,
    List.rdropWhile_eq_nil_iff, ← List.dropWhile_eq_nil_iff, List.dropWhile_idempotent,
    List.dropWhile_eq_nil_iff, isBlank, List.all_eq_true]

theorem ofField_eq {f : ModelField} {t : String} (given : f.default? = some t) :
    ofField f = if trim t = "" then none else some (ofText f.type (trim t)) := by
  rw [ofField, given, Option.map_some]
  by_cases blank : trim t = ""
  · rw [if_pos blank, Option.filter_some_neg (by simpa using blank)]
  · rw [if_neg blank, Option.filter_some_pos (by simpa using blank)]

def Parses (type : FieldType) (s : String) : Prop :=
  type = .int ∧ (∃ n, parsedInteger? s.toList = some n) ∨
    type = .float ∧ ∃ v, parsedFloat? s.toList = some v

/-- What the text of a default means in a field of a type. -/
inductive Means (type : FieldType) (s : String) : FieldDefault → Prop where
  | now (dated : type = .dateTime) (asked : s ∈ ["now", "now()", "NOW()"]) : Means type s .now
  | boolean (b : Bool) (either : type = .boolean) (named : s = if b then "true" else "false") :
      Means type s (.boolean b)
  | integer {n : Int} (whole : type = .int) (parsed : parsedInteger? s.toList = some n)
      (means : MeansInteger s.toList n) : Means type s (.number s)
  | float {v : FloatValue} (real : type = .float) (parsed : parsedFloat? s.toList = some v)
      (means : MeansFloat s.toList v) : Means type s (.number s)
  | text {literal : String} (other : ¬ Parses type s) (written : (text s).literal? = some literal)
      (reads : unquote? literal.toList = some (s.toList, [])) : Means type s (.text s)

theorem means_text {type : FieldType} {s : String} (other : ¬ Parses type s) :
    Means type s (.text s) := by
  refine .text other rfl ?_
  have reads := unquote_quote s []
  rwa [List.append_nil] at reads

theorem means_ofText (type : FieldType) (s : String) : Means type s (ofText type s) := by
  unfold ofText
  split
  · split
    · rename_i asked
      exact .now rfl (List.contains_iff_mem.mp asked)
    · exact means_text (by simp [Parses])
  · split
    · rename_i integer
      obtain ⟨n, parsed⟩ := Option.isSome_iff_exists.mp ((isSome_parsedInteger? _).trans integer)
      exact .integer rfl parsed (meansInteger parsed)
    · rename_i other
      refine means_text ?_
      rintro (⟨-, n, parsed⟩ | ⟨wrong, -⟩)
      · exact other (by rw [← isSome_parsedInteger?, parsed]; rfl)
      · cases wrong
  · split
    · rename_i float
      obtain ⟨v, parsed⟩ := Option.isSome_iff_exists.mp ((isSome_parsedFloat? _).trans float)
      exact .float rfl parsed (meansFloat parsed)
    · rename_i other
      refine means_text ?_
      rintro (⟨wrong, -⟩ | ⟨-, v, parsed⟩)
      · cases wrong
      · exact other (by rw [← isSome_parsedFloat?, parsed]; rfl)
  · split
    · rename_i same
      exact .boolean true rfl same
    · split
      · rename_i same
        exact .boolean false rfl same
      · exact means_text (by simp [Parses])
  · rename_i notInt notFloat _
    exact means_text fun parses => parses.elim (fun h => notInt h.1) fun h => notFloat h.1

/-- A default is nothing exactly if it is blank. Any other one is what its text means: a number of its
type is written as it stands, and that is a numeral of the number unless it has a leading zero or is
the name of a special value. -/
theorem default_meaning (f : ModelField) (t : String) (given : f.default? = some t) :
    (ofField f = none ↔ isBlank t = true) ∧
    ∀ d, ofField f = some d → stored f = some d ∧ Means f.type (trim t) d := by
  rw [ofField_eq given, ← trim_eq_empty_iff]
  refine ⟨by simp, fun d found => ?_⟩
  have own : ofField f = some d := (ofField_eq given).trans found
  obtain ⟨-, same⟩ := Option.ite_none_left_eq_some.mp found
  exact ⟨by rw [stored, own], Option.some.inj same ▸ means_ofText _ _⟩

def paddedStock : ModelField := { name := "stock", type := .int, default? := some "007" }

def endlessLoad : ModelField := { name := "load", type := .float, default? := some "-inf" }

/-- Both are written as they stand, and neither is a numeral. -/
theorem written_without_numeral :
    ofField paddedStock = some (.number "007") ∧ parsedInteger? "007".toList = some 7 ∧
      (¬ ∃ d, Numeral (body "007".toList) d) ∧
    ofField endlessLoad = some (.number "-inf") ∧
      parsedFloat? "-inf".toList = some (.infinity true) ∧
      ¬ ∃ d, Numeral (body "-inf".toList) d := by
  have stock : ofField paddedStock = some (.number "007") := by decide +kernel
  have load : ofField endlessLoad = some (.number "-inf") := by decide +kernel
  refine ⟨stock, by decide, ?_, load, by decide +kernel, ?_⟩
  · have means := ((default_meaning paddedStock "007" rfl).2 _ stock).2
    rw [show trim "007" = "007" by decide +kernel] at means
    cases means with
    | integer _ _ means =>
      rw [means.numeral_iff, not_not]
      exact ⟨'0', ['7'], rfl, rfl⟩
    | float wrong => cases wrong
  · have means := ((default_meaning endlessLoad "-inf" rfl).2 _ load).2
    rw [show trim "-inf" = "-inf" by decide +kernel] at means
    cases means with
    | integer wrong => cases wrong
    | float _ _ means =>
      rw [means.numeral_iff]
      rintro ⟨-, common⟩
      unfold IsSpecial at common
      exact common (by decide +kernel)

end Backend.FieldDefault

end ApiGraph
