import ApiGraph.Proofs.Number.Numeral
import ApiGraph.Proofs.SearchFields
import ApiGraph.Proofs.Text.Trim

namespace ApiGraph

open Backend Backend.Source Text

namespace Json

def Number.value : Number → ℚ
  | .int n => n
  | .float x => x.signedValue

/-- A value denotes a natural number: it is a number that equals it, or a text that spells it in
decimal digits after an optional plus sign, with blanks around them. -/
inductive Denotes : Json → Nat → Prop where
  | number {x : Number} {n : Nat} (same : x.value = n) : Denotes (.num x) n
  | text {s : String} {before sign digits after : List Char}
      (whole : s.toList = before ++ (sign ++ digits ++ after))
      (blankBefore : ∀ c ∈ before, isBlankChar c = true)
      (blankAfter : ∀ c ∈ after, isBlankChar c = true) (signed : sign = [] ∨ sign = ['+'])
      (some : digits ≠ []) (decimal : Digits.AllDigits digits) :
      Denotes (.str s) (Nat.ofDigitChars 10 digits 0)

end Json

namespace Binary64

theorem signedValue_of_pos {x : Binary64} (positive : x.negative = false) :
    x.signedValue = ((x.significand * Nat.pow 2 x.exponent.toNat : Nat) : ℚ) /
      (Nat.pow 2 (-x.exponent).toNat : Nat) := by
  rw [signedValue, positive, if_neg Bool.false_ne_true, one_mul, ← pow_toNat_div 2 x.exponent]
  push_cast [Nat.pow_eq]
  rw [mul_div_assoc]

/-- Where one of a factor and a divisor is one, a quotient is a natural number if the divisor divides
the other factor. -/
theorem quotient_eq_iff {m a b n : Nat} (either : a = 1 ∨ b = 1) (positive : 0 < b) :
    (b ∣ m ∧ m * a / b = n) ↔ ((m * a : Nat) : ℚ) / b = n := by
  rw [div_eq_iff (by exact_mod_cast positive.ne'), ← Nat.cast_mul, Nat.cast_inj]
  constructor
  · rintro ⟨divides, rfl⟩
    exact (Nat.div_mul_cancel (Dvd.dvd.mul_right divides a)).symm
  · intro same
    refine ⟨?_, by rw [same, Nat.mul_div_cancel _ positive]⟩
    rcases either with rfl | rfl
    · exact ⟨n, by rw [← Nat.mul_one m, same, Nat.mul_comm]⟩
    · exact one_dvd m

theorem toNat?_eq_some_iff {x : Binary64} {n : Nat} : x.toNat? = some n ↔ x.signedValue = n := by
  unfold toNat?
  split
  · rename_i zero
    have none : x.signedValue = 0 := by
      rw [signedValue, zero, Nat.cast_zero, zero_mul, mul_zero]
    rw [none, Option.some.injEq, eq_comm, eq_comm (a := (0 : ℚ)), Nat.cast_eq_zero]
  · rename_i nonzero
    split
    · rename_i negative
      have below : x.signedValue < 0 := by
        rw [signedValue, negative, if_pos rfl]
        have positive : (0 : ℚ) < x.significand := by exact_mod_cast Nat.pos_of_ne_zero nonzero
        have scaled : (0 : ℚ) < x.significand * 2 ^ x.exponent := by positivity
        linarith
      refine iff_of_false (fun none => by cases none) fun same => ?_
      rw [same] at below
      exact absurd below (not_lt.mpr (Nat.cast_nonneg n))
    · rename_i positive
      -- one of the two powers is one, by the sign of the exponent
      have either : Nat.pow 2 x.exponent.toNat = 1 ∨ Nat.pow 2 (-x.exponent).toNat = 1 := by
        rcases Int.le_total 0 x.exponent with up | down
        · exact .inr (by rw [Int.toNat_of_nonpos (by omega)])
        · exact .inl (by rw [Int.toNat_of_nonpos down])
      rw [signedValue_of_pos (by simpa using positive),
        ← quotient_eq_iff either (Nat.pow_pos (by decide)), Nat.dvd_iff_mod_eq_zero]
      simp

end Binary64

namespace DataAccess

/-- Only a plus sign is skipped. -/
theorem digitsAfterPlus?_eq_some_iff {cs : List Char} {n : Nat} :
    digitsAfterPlus? cs = some n ↔ ∃ sign digits, cs = sign ++ digits ∧
      (sign = [] ∨ sign = ['+']) ∧ digits ≠ [] ∧ Digits.AllDigits digits ∧
      Nat.ofDigitChars 10 digits 0 = n := by
  have numeral (ds : List Char) :
      (if Digits.isNumeral ds then some (Digits.value ds) else none) = some n ↔
        ds ≠ [] ∧ Digits.AllDigits ds ∧ Nat.ofDigitChars 10 ds 0 = n := by
    rw [Option.ite_none_right_eq_some, Option.some.injEq, Numeral.isNumeral_iff, and_assoc,
      Digits.value_eq]
  rw [digitsAfterPlus?, numeral]
  constructor
  · intro found
    split at found
    · rename_i plus
      obtain ⟨rest, rfl⟩ := List.head?_eq_some_iff.mp plus
      exact ⟨['+'], rest, rfl, .inr rfl, found⟩
    · exact ⟨[], cs, rfl, .inl rfl, found⟩
  · rintro ⟨sign, digits, rfl, rfl | rfl, nonempty, decimal, value⟩
    · have unsigned : ([] ++ digits).head? ≠ some '+' := by
        intro plus
        exact absurd (decimal '+' (List.mem_of_head? plus)) (by decide)
      rw [if_neg unsigned]
      exact ⟨nonempty, decimal, value⟩
    · exact ⟨nonempty, decimal, value⟩

/-- Digits behind a sign neither begin nor end with a blank. -/
theorem solid_numeral {sign digits : List Char} (signed : sign = [] ∨ sign = ['+'])
    (decimal : Digits.AllDigits digits) : ∀ c ∈ sign ++ digits, isBlankChar c = false := by
  intro c member
  rcases List.mem_append.mp member with inSign | inDigits
  · rcases signed with rfl | rfl
    · cases inSign
    · rw [List.mem_singleton.mp inSign]
      decide
  · exact isBlankChar_of_digit (decimal c inDigits)

theorem limitValue?_eq_some_iff {l : Json} {n : Nat} : limitValue? l = some n ↔ l.Denotes n := by
  cases l with
  | num x =>
    have equal : (Json.num x).Denotes n ↔ x.value = n :=
      ⟨fun | .number same => same, .number⟩
    rw [equal]
    cases x with
    | int z =>
      show (if 0 ≤ z then some z.toNat else none) = some n ↔ (z : ℚ) = n
      rw [Option.ite_none_right_eq_some, Option.some.injEq, ← Int.cast_natCast, Int.cast_inj]
      omega
    | float x => exact Binary64.toNat?_eq_some_iff
  | str s =>
    rw [limitValue?, digitsAfterPlus?_eq_some_iff]
    constructor
    · rintro ⟨sign, digits, whole, signed, nonempty, decimal, rfl⟩
      obtain ⟨before, after, blankBefore, blankAfter, around⟩ := exists_around_trimChars s.toList
      rw [whole] at around
      exact .text around blankBefore blankAfter signed nonempty decimal
    · rintro (_ | ⟨whole, blankBefore, blankAfter, signed, nonempty, decimal⟩)
      have solid := solid_numeral signed decimal
      refine ⟨_, _, ?_, signed, nonempty, decimal, rfl⟩
      rw [whole]
      exact trimChars_around blankBefore blankAfter (by simp [nonempty])
        (fun c first => solid c (List.mem_of_head? first))
        (fun c last => solid c (List.mem_of_getLast? last))
  | null | bool | arr | obj => exact iff_of_false nofun nofun

example : limitValue? (.str " +007 ") = some 7 := by decide

theorem recordLimit_eq_some_iff {d : DataAccess} {l : Json} (given : d.limit = some l) (n : Nat) :
    d.recordLimit = some n ↔ l.Denotes n ∧ n < 2 ^ 32 := by
  rw [recordLimit, given, Option.bind_some, Option.filter_eq_some_iff, limitValue?_eq_some_iff,
    decide_eq_true_iff]
  rfl

end DataAccess

/-! ### Findings -/

def Warning.isInvalidLimit : Warning → Bool
  | .invalidLimit .. => true
  | _ => false

namespace Lint

variable {p : Project}

theorem isInvalidLimit_nodeShape {n : Node} {w : Warning} (found : nodeShape n = some w) :
    w.isInvalidLimit = false := by
  unfold nodeShape at found
  split at found
  · cases found
    rfl
  · split at found
    · cases found
      rfl
    · cases found
  · cases found

theorem isInvalidLimit_primaryKey {m : Model} {w : Warning} (found : primaryKey m = some w) :
    w.isInvalidLimit = false := by
  unfold primaryKey at found
  split at found
  · cases found
    rfl
  · cases found
  · cases found
    rfl

theorem isInvalidLimit_modelShape {index : Nat} {before : List String} {m : Model} {w : Warning}
    (found : modelShape index before m = some w) : w.isInvalidLimit = false := by
  unfold modelShape at found
  split at found
  · cases found
    rfl
  · split at found
    · cases found
      rfl
    · exact isInvalidLimit_primaryKey found

theorem isInvalidLimit_modelsFrom {index : Nat} {before : List String} {ms : List Model}
    {w : Warning} (found : w ∈ modelsFrom index before ms) : w.isInvalidLimit = false := by
  induction ms generalizing index before with
  | nil => cases found
  | cons m ms ih =>
    rcases List.mem_append.mp found with first | later
    · exact isInvalidLimit_modelShape (Option.mem_toList.mp first)
    · exact ih later

theorem isInvalidLimit_modelReference {id : String} {d : DataAccess} {w : Warning}
    (found : modelReference p id d = some w) : w.isInvalidLimit = false := by
  unfold modelReference at found
  split at found
  · cases found
    rfl
  · split at found
    · cases found
      rfl
    · cases found

/-- The finding about the limit of a node, if the node has one. -/
def limitFinding? (n : Node) : Option Warning := n.content.database?.bind (limit n.id)

theorem filter_database (n : Node) :
    (database p n).filter Warning.isInvalidLimit = (limitFinding? n).toList := by
  unfold database limitFinding?
  split
  · rename_i d found
    have reference : (modelReference p n.id d).toList.filter Warning.isInvalidLimit = [] :=
      List.filter_eq_nil_iff.mpr fun w member =>
        Bool.eq_false_iff.mp (isInvalidLimit_modelReference (Option.mem_toList.mp member))
    have limits : (limit n.id d).toList.filter Warning.isInvalidLimit = (limit n.id d).toList := by
      refine List.filter_eq_self.mpr fun w member => ?_
      have found := Option.mem_toList.mp member
      unfold limit at found
      split at found
      · cases found
      · obtain ⟨l, -, rfl⟩ := Option.map_eq_some_iff.mp found
        rfl
    rw [List.filter_append, reference, limits, List.nil_append, found, Option.bind_some]
  · rename_i found
    rw [found]
    rfl

theorem filter_invalidLimit_lint (p : Project) :
    (lint p).filter Warning.isInvalidLimit = p.nodes.flatMap fun n => (limitFinding? n).toList := by
  have ids : (nodeIds p).filter Warning.isInvalidLimit = [] := by
    rw [nodeIds, List.filter_map]
    simp [Warning.isInvalidLimit, Function.comp_def]
  have shapes : (p.nodes.filterMap nodeShape).filter Warning.isInvalidLimit = [] := by
    refine List.filter_eq_nil_iff.mpr fun w member => ?_
    obtain ⟨n, -, found⟩ := List.mem_filterMap.mp member
    exact Bool.eq_false_iff.mp (isInvalidLimit_nodeShape found)
  have edges : (danglingEdges p).filter Warning.isInvalidLimit = [] := by
    rw [danglingEdges, List.filter_map]
    simp [Warning.isInvalidLimit, Function.comp_def]
  have models : (modelsFrom 0 [] p.models).filter Warning.isInvalidLimit = [] :=
    List.filter_eq_nil_iff.mpr fun w member =>
      Bool.eq_false_iff.mp (isInvalidLimit_modelsFrom member)
  rw [lint, List.filter_append, List.filter_append, List.filter_append, List.filter_append, ids,
    shapes, edges, models, List.filter_flatMap]
  exact List.flatMap_congr fun n _ => filter_database n

theorem limitFinding?_of_limit {n : Node} {d : DataAccess} {l : Json}
    (found : n.content.database? = some d) (given : d.limit = some l) :
    limitFinding? n = if d.recordLimit.isSome then none else some (.invalidLimit n.id l.compact) := by
  rw [limitFinding?, found, Option.bind_some, limit, given]
  rfl

theorem exists_of_limitFinding {n : Node} {w : Warning} (found : limitFinding? n = some w) :
    ∃ d l, n.content.database? = some d ∧ d.limit = some l ∧ d.recordLimit = none := by
  obtain ⟨d, access, finding⟩ := Option.bind_eq_some_iff.mp found
  unfold limit at finding
  split at finding
  · cases finding
  · rename_i unusable
    obtain ⟨l, given, -⟩ := Option.map_eq_some_iff.mp finding
    exact ⟨d, l, access, given, Option.not_isSome_iff_eq_none.mp unusable⟩

end Lint

namespace Project

/-- Limits are exact or reported. The record count of a limit is the number of 32 bits that it
denotes, however it is written. The route of an endpoint has the count of its database node, and the
call of a search carries it. A limit without a count is reported once by its node, and nothing is
reported of any other node. -/
theorem limits_exact_or_reported (p : Project) :
    (∀ d : DataAccess, ∀ l, d.limit = some l →
      ∀ k, d.recordLimit = some k ↔ l.Denotes k ∧ k < 2 ^ 32) ∧
    (∀ e ∈ p.endpoints, ∀ n d, Resolve.FirstDatabase p e.1 n d →
      ∃ q, (p.routeOf e).query = some q ∧ q.limit = d.recordLimit) ∧
    (∀ r ∈ keptRoutes (Resolve.routes p), ∀ m d, p.Searches r m d →
      p.RegistersBehind r (Middleware.chain r) ∧
      ∃ call, searchCalls ((p.registrationOf r).handler.lines r) = [call] ∧
        call.options.limit = d.recordLimit) ∧
    ∃ share : Node → List Warning,
      (Lint.lint p).filter Warning.isInvalidLimit = p.nodes.flatMap share ∧
      ∀ n ∈ p.nodes,
        (∀ d l, n.content.database? = some d → d.limit = some l → d.recordLimit = none →
          share n = [.invalidLimit n.id l.compact]) ∧
        ((∀ d l, n.content.database? = some d → d.limit = some l → d.recordLimit ≠ none) →
          share n = []) := by
  refine ⟨fun d l given k => DataAccess.recordLimit_eq_some_iff given k, fun e _ n d first => ?_,
    fun r kept m d search => ⟨registersBehind_chain kept, ?_⟩, _, Lint.filter_invalidLimit_lint p,
    fun n _ => ⟨fun d l found given none => ?_, fun counted => ?_⟩⟩
  · obtain ⟨before, after, chosen⟩ := first
    exact ⟨_, Resolve.query_of_firstAccess ⟨before, n, after, chosen⟩, rfl⟩
  · obtain ⟨n, -, -, calls⟩ := search.calls kept
    exact ⟨_, calls, rfl⟩
  · rw [Lint.limitFinding?_of_limit found given, none]
    rfl
  · cases finding : Lint.limitFinding? n with
    | none => rfl
    | some w =>
      obtain ⟨d, l, found, given, none⟩ := Lint.exists_of_limitFinding finding
      exact absurd none (counted d l found given)

/-- A search with a limit of `10.0`. -/
def tenItems : DataAccess where
  operation := .list
  model := "Item"
  limit := some (.num (.float ⟨false, 5629499534213120, -49, by decide⟩))

def looseItems : DataAccess where
  operation := .list
  model := "Item"
  limit := some (.str "10.5")

def pagedItems : Project where
  nodes :=
    [{ id := "page", content := .endpoint { path := "/items" } },
     { id := "ten", content := .database tenItems },
     { id := "loose", content := .database looseItems }]
  edges := [⟨"reads", "page", "ten", none, none⟩]
  models := [{ name := "Item", fields := [{ name := "id", type := .string, isId := true }] }]

/-- A search with a whole number for its limit, and one whose limit no search can have. -/
theorem pagedItems_limited :
    let r := pagedItems.routeOf ("page", { path := "/items" })
    (∃ call, searchCalls ((pagedItems.registrationOf r).handler.lines r) = [call] ∧
      call.options.limit = some 10) ∧
    (Lint.lint pagedItems).filter Warning.isInvalidLimit = [.invalidLimit "loose" "\"10.5\""] := by
  intro r
  obtain ⟨exact, -, carried, share, reported, shares⟩ := limits_exact_or_reported pagedItems
  have kept : r ∈ keptRoutes (Resolve.routes pagedItems) := by
    have routes : keptRoutes (Resolve.routes pagedItems) = [r] := by decide +kernel
    rw [routes]
    exact List.mem_singleton_self r
  have search : pagedItems.Searches r pagedItems.models[0] tenItems :=
    { chosen := ⟨pagedItems.nodes[1], [pagedItems.nodes[0]], [pagedItems.nodes[2]], rfl, rfl,
        by decide, by decide⟩
      lists := rfl
      emitted := by decide +kernel
      named := rfl }
  obtain ⟨-, call, made, limit⟩ := carried r kept _ _ search
  have ten : tenItems.recordLimit = some 10 := by
    refine (exact tenItems _ rfl 10).mpr ⟨.number ?_, by decide⟩
    norm_num [Json.Number.value, Binary64.signedValue]
  have page : share pagedItems.nodes[0] = [] := by
    refine (shares pagedItems.nodes[0] (by decide)).2 fun d l found => ?_
    cases found
  have counted : share pagedItems.nodes[1] = [] := by
    refine (shares pagedItems.nodes[1] (by decide)).2 fun d l found _ none => ?_
    cases found
    rw [ten] at none
    cases none
  have loose : share pagedItems.nodes[2] = [.invalidLimit "loose" "\"10.5\""] :=
    (shares pagedItems.nodes[2] (by decide)).1 looseItems _ rfl rfl (by decide)
  refine ⟨⟨call, made, limit.trans ten⟩, ?_⟩
  rw [reported]
  show share pagedItems.nodes[0] ++
    (share pagedItems.nodes[1] ++ (share pagedItems.nodes[2] ++ [])) = _
  rw [page, counted, loose]
  rfl

end Project

end ApiGraph
