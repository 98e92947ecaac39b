import ApiGraph.Proofs.Naming.Stems
import ApiGraph.Text.Quoted

namespace ApiGraph.Naming

open Text

theorem identRest_of_alnum {c : Char} (alnum : isAsciiAlnum c = true) : isIdentRest c = true := by
  simp only [isAsciiAlnum, Bool.or_eq_true] at alnum
  rcases alnum with letter | digit
  · simp [isIdentRest, isIdentStart, letter]
  · simp [isIdentRest, digit]

/-- An identifier stays one with more of its characters behind it. -/
theorem plain_append {a b : List Char} (plain : isPlainIdent a = true)
    (more : b.all isIdentRest = true) : isPlainIdent (a ++ b) = true := by
  cases a with
  | nil => exact absurd plain Bool.false_ne_true
  | cons c cs =>
    rw [List.all_eq_true] at more
    simp only [isPlainIdent, Bool.and_eq_true, List.all_eq_true] at plain
    simp only [List.cons_append, isPlainIdent, Bool.and_eq_true, List.all_eq_true]
    exact ⟨plain.1, fun d member => (List.mem_append.mp member).elim (plain.2 d) (more d)⟩

/-- An ASCII letter or digit begins an identifier unless it is a digit. -/
theorem isIdentStart_iff {c : Char} (alnum : isAsciiAlnum c = true) :
    isIdentStart c = true ↔ c.isDigit = false :=
  of_ascii (P := fun c => isAsciiAlnum c = true → (isIdentStart c = true ↔ c.isDigit = false))
    (by decide) alnum alnum

theorem all_identRest {cs : List Char} (alnum : Alnum cs) : cs.all isIdentRest = true :=
  List.all_eq_true.mpr fun c member => identRest_of_alnum (alnum c member)

theorem identifier_plain (s : String) : isPlainIdent (identifier s).toList = true := by
  obtain ⟨c, cs, chars, start, rest⟩ := (isCamel_identifier s).exists_cons
  rw [chars, isPlainIdent, all_identRest rest, Bool.and_true]
  rcases start with letter | rfl
  · simp [isIdentStart, letter]
  · decide

theorem mem_identifier {s : String} {c : Char} (member : c ∈ (identifier s).toList) :
    isAsciiAlnum c = true ∨ c = '_' := by
  obtain ⟨d, cs, chars, start, rest⟩ := (isCamel_identifier s).exists_cons
  rw [chars] at member
  rcases List.mem_cons.mp member with rfl | inside
  · exact start.imp_left fun letter => by rw [isAsciiAlnum, letter, Bool.true_or]
  · exact Or.inl (rest c inside)

/-- Snake case of ASCII letters, digits and underscores has no other characters, and no capitals. -/
theorem mem_snakeFrom {before : Option Char} {cs : List Char}
    (plain : ∀ c ∈ cs, isAsciiAlnum c = true ∨ c = '_') {c : Char}
    (member : c ∈ snakeFrom before cs) : (isAsciiAlnum c = true ∧ c.toLower = c) ∨ c = '_' := by
  induction cs generalizing before with
  | nil => exact absurd member List.not_mem_nil
  | cons d cs ih =>
    obtain ⟨first, later⟩ := List.forall_mem_cons.mp plain
    rcases List.mem_append.mp member with here | there
    · rcases first with letter | rfl
      · split at here
        · rw [lowerChars_alnum letter] at here
          have lower : c = '_' ∨ c = d.toLower := by
            split at here
            · simpa using here
            · exact Or.inr (List.mem_singleton.mp here)
          rcases lower with rfl | rfl
          · exact Or.inr rfl
          · exact Or.inl ⟨alnum_lower letter, toLower_toLower letter⟩
        · rename_i small
          split at here
          · exact Or.inr (List.mem_singleton.mp here)
          · rw [List.mem_singleton.mp here]
            exact Or.inl ⟨letter, toLower_of_not_upper letter (by simpa using small)⟩
      · have joint : c = '_' := by
          simpa [show isUppercase '_' = false from by decide] using here
        exact Or.inr joint
    · exact ih later there

theorem mem_snake_identifier {s : String} {c : Char}
    (member : c ∈ (snake (identifier s)).toList) :
    (isAsciiAlnum c = true ∧ c.toLower = c) ∨ c = '_' := by
  rw [snake, String.toList_ofList] at member
  exact mem_snakeFrom (fun _ inner => mem_identifier inner) member

theorem mem_kebab {s : String} {c : Char} (member : c ∈ (kebab s).toList) :
    (isAsciiAlnum c = true ∧ c.toLower = c) ∨ c = '-' := by
  rcases kebab_stem s with none | stem
  · rw [none] at member
    exact absurd member List.not_mem_nil
  · exact stem.small_or_dash member

theorem mem_kebabOr {fallback s : String} {c : Char} (member : c ∈ (kebabOr fallback s).toList) :
    ((isAsciiAlnum c = true ∧ c.toLower = c) ∨ c = '-') ∨ c ∈ fallback.toList := by
  unfold kebabOr at member
  split at member
  · exact Or.inr member
  · exact Or.inl (mem_kebab member)

end ApiGraph.Naming
