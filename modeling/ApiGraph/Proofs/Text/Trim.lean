import Mathlib.Data.List.DropRight
import ApiGraph.Proofs.Text.Pieces
import ApiGraph.Text.Blank

namespace ApiGraph.Text

theorem isBlankChar_of_digit {c : Char} (digit : c.isDigit = true) : isBlankChar c = false := by
  have range : 48 ≤ c.toNat ∧ c.toNat ≤ 57 := by
    simp only [Char.isDigit, Bool.and_eq_true, decide_eq_true_eq] at digit
    exact digit
  simp only [isBlankChar, blankRanges, List.any_cons, List.any_nil, Bool.or_eq_false_iff,
    Bool.or_false, Bool.and_eq_false_iff, decide_eq_false_iff_not]
  omega

/-- A text is what is left of it between blanks. -/
theorem exists_around_trimChars (cs : List Char) :
    ∃ before after, (∀ c ∈ before, isBlankChar c = true) ∧ (∀ c ∈ after, isBlankChar c = true) ∧
      cs = before ++ (trimChars cs ++ after) := by
  refine ⟨cs.takeWhile isBlankChar, (cs.dropWhile isBlankChar).rtakeWhile isBlankChar,
    fun c => List.mem_takeWhile_imp, fun c => List.mem_rtakeWhile_imp, ?_⟩
  have inside : trimChars cs ++ (cs.dropWhile isBlankChar).rtakeWhile isBlankChar =
      cs.dropWhile isBlankChar := List.rdropWhile_append_rtakeWhile
  rw [inside, List.takeWhile_append_dropWhile]

/-- Blanks around a text are dropped where it neither begins nor ends with one. -/
theorem trimChars_around {before core after : List Char}
    (blankBefore : ∀ c ∈ before, isBlankChar c = true)
    (blankAfter : ∀ c ∈ after, isBlankChar c = true) (nonempty : core ≠ [])
    (first : ∀ c ∈ core.head?, isBlankChar c = false)
    (last : ∀ c ∈ core.getLast?, isBlankChar c = false) :
    trimChars (before ++ (core ++ after)) = core := by
  have head : ∀ c ∈ (core ++ after).head?, isBlankChar c = false := by
    rwa [List.head?_append_of_ne_nil _ nonempty]
  have ends : ∀ c ∈ core.reverse.head?, isBlankChar c = false := by rwa [List.head?_reverse]
  have blanks : ∀ c ∈ after.reverse, isBlankChar c = true := by simpa using blankAfter
  rw [trimChars, (span_append blankBefore head).2, List.reverse_append,
    (span_append blanks ends).2, List.reverse_reverse]

end ApiGraph.Text
