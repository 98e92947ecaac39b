import ApiGraph.Proofs.Naming.Words

/-!
# Spelling of identifiers

The ASCII words of a text, run together: all but the first begin with a capital. An underscore
guards a leading digit, and capitalizing an identifier takes the guard off again
(`exists_spelling`). So the first letter is small where there is no guard (`isCamel_identifier`).
-/

namespace ApiGraph

open Text

namespace Naming

/-- All characters are ASCII letters or digits. -/
def Alnum (cs : List Char) : Prop := ∀ c ∈ cs, isAsciiAlnum c = true

theorem alnum_capitalize {cs : List Char} (alnum : Alnum cs) : Alnum (capitalize cs) := by
  cases cs with
  | nil => exact alnum
  | cons c cs =>
    obtain ⟨first, rest⟩ := List.forall_mem_cons.mp alnum
    rw [capitalize, upperChars_alnum first]
    exact List.forall_mem_cons.mpr ⟨alnum_upper first, rest⟩

theorem alnum_of_mem_words {cs w : List Char} (word : w ∈ words (!isAsciiAlnum ·) cs) : Alnum w :=
  fun c inside => by simpa only [Bool.not_eq_false'] using (mem_word word inside).2

/-- Words of letters and digits come apart at any joint that is neither. -/
theorem words_intercalate {joint : Char} (separates : isAsciiAlnum joint = false)
    {ws : List (List Char)} (alnum : ∀ w ∈ ws, Alnum w) (some : ∀ w ∈ ws, w ≠ []) :
    words (!isAsciiAlnum ·) ([joint].intercalate ws) = ws := by
  have solid : ∀ w ∈ ws, ∀ c ∈ w, (!isAsciiAlnum c) = false := fun w member c inside => by
    rw [alnum w member c inside, Bool.not_true]
  cases ws with
  | nil => rfl
  | cons w ws =>
    have apart : (!isAsciiAlnum joint) = true := by rw [separates, Bool.not_false]
    rw [words, splitOn_intercalate apart solid (List.cons_ne_nil _ _), List.filter_eq_self]
    exact fun v member => by simpa using some v member

theorem capitalize_alnum {c : Char} {cs : List Char} (alnum : Alnum (c :: cs)) :
    capitalize (c :: cs) = c.toUpper :: cs := by
  rw [capitalize, upperChars_alnum (alnum c List.mem_cons_self), List.singleton_append]

theorem pascalChars_intercalate {ws : List (List Char)} (alnum : ∀ w ∈ ws, Alnum w) :
    pascalChars (['_'].intercalate ws) = ws.flatMap capitalize := by
  cases ws with
  | nil => rfl
  | cons w ws =>
    have solid : ∀ v ∈ w :: ws, ∀ c ∈ v, isJoint c = false := fun v member c inside =>
      of_ascii (P := fun c => isAsciiAlnum c = true → isJoint c = false) (by decide)
        (alnum v member c inside) (alnum v member c inside)
    rw [pascalChars, splitOn_intercalate (by decide) solid (List.cons_ne_nil _ _)]

theorem pascalChars_word {w : List Char} (alnum : Alnum w) : pascalChars w = capitalize w := by
  have joined := pascalChars_intercalate (List.forall_mem_singleton.mpr alnum)
  rwa [List.intercalate_singleton, List.flatMap_singleton] at joined

/-- A name with an underscore before a leading digit. -/
def guarded : List Char → List Char
  | [] => []
  | c :: cs => if c.isDigit then '_' :: c :: cs else c :: cs

theorem identifierChars_of_words {cs w : List Char} {c : Char} {ws : List (List Char)}
    (read : words (!isAsciiAlnum ·) cs = (c :: w) :: ws) :
    identifierChars cs = guarded (c.toLower :: (w ++ ws.flatMap capitalize)) := by
  have alnum : ∀ v ∈ (c :: w) :: ws, Alnum v := fun v member =>
    alnum_of_mem_words (by rw [read]; exact member)
  have first : Alnum (c :: w) := alnum _ List.mem_cons_self
  have letter : isAsciiAlnum c = true := first c List.mem_cons_self
  rw [identifierChars, read, camelChars, pascalChars_intercalate alnum, List.flatMap_cons,
    capitalize_alnum first, List.cons_append]
  dsimp only
  rw [lowerChars_alnum (alnum_upper letter), toLower_toUpper letter]
  rfl

/-- A guard is taken off by the pascal case. -/
theorem pascalChars_guarded {c : Char} {cs : List Char} (alnum : Alnum (c :: cs)) :
    pascalChars (guarded (c :: cs)) = c.toUpper :: cs := by
  have spelled : pascalChars (c :: cs) = c.toUpper :: cs := by
    rw [pascalChars_word alnum, capitalize_alnum alnum]
  by_cases digit : c.isDigit = true
  · -- the piece before the underscore is empty
    rw [guarded, if_pos digit]
    exact spelled
  · rw [guarded, if_neg digit]
    exact spelled

theorem alnum_flatMap_capitalize {ws : List (List Char)} (alnum : ∀ w ∈ ws, Alnum w) :
    Alnum (ws.flatMap capitalize) := by
  intro c member
  obtain ⟨w, present, inside⟩ := List.mem_flatMap.mp member
  exact alnum_capitalize (alnum w present) c inside

/-- How the first letter or digit of a text, or else that of `unnamed`, begins its identifier and
the pascal case of this. -/
theorem exists_spelling (cs : List Char) :
    ∃ c rest, (cs.find? isAsciiAlnum).getD 'u' = c ∧ Alnum (c :: rest) ∧
      identifierChars cs = guarded (c.toLower :: rest) ∧
      pascalChars (identifierChars cs) = c.toUpper :: rest := by
  have firstAlnum : cs.find? isAsciiAlnum = (words (!isAsciiAlnum ·) cs).flatten.head? := by
    rw [flatten_words, List.head?_filter]
    simp
  cases read : words (!isAsciiAlnum ·) cs with
  | nil =>
    have unnamed : identifierChars cs = "unnamed".toList := by
      rw [identifierChars, read]
      rfl
    have alnum : Alnum ('u' :: "nnamed".toList) := List.all_eq_true.mp (by decide)
    refine ⟨'u', "nnamed".toList, ?_, alnum, unnamed, ?_⟩
    · rw [firstAlnum, read]
      rfl
    · rw [unnamed]
      decide
  | cons v ws =>
    have some : v ≠ [] := by
      have kept : v ∈ words (!isAsciiAlnum ·) cs := read ▸ List.mem_cons_self
      simpa using (List.mem_filter.mp kept).2
    obtain ⟨c, w, rfl⟩ := List.exists_cons_of_ne_nil some
    have alnum : ∀ v ∈ (c :: w) :: ws, Alnum v := fun v member =>
      alnum_of_mem_words (by rw [read]; exact member)
    obtain ⟨first, later⟩ := List.forall_mem_cons.mp alnum
    obtain ⟨letter, inner⟩ := List.forall_mem_cons.mp first
    have rest : Alnum (w ++ ws.flatMap capitalize) := fun d member =>
      (List.mem_append.mp member).elim (inner d) (alnum_flatMap_capitalize later d)
    have lowered : Alnum (c.toLower :: (w ++ ws.flatMap capitalize)) :=
      List.forall_mem_cons.mpr ⟨alnum_lower letter, rest⟩
    have spelled := identifierChars_of_words read
    refine ⟨c, _, ?_, List.forall_mem_cons.mpr ⟨letter, rest⟩, spelled, ?_⟩
    · rw [firstAlnum, read]
      rfl
    · rw [spelled, pascalChars_guarded lowered]
      have back : c.toLower.toUpper = c.toUpper :=
        of_ascii (P := fun c => c.toLower.toUpper = c.toUpper) (by decide) letter
      rw [back]

/-- A small letter, or a digit behind its guard, and letters and digits: an identifier in camel
case. -/
def IsCamel (s : String) : Prop :=
  ∃ c cs, s.toList = guarded (c :: cs) ∧ Alnum (c :: cs) ∧ c.toLower = c

/-- A letter or an underscore begins what is in camel case, and letters and digits follow. -/
theorem IsCamel.exists_cons {s : String} (camel : IsCamel s) :
    ∃ c cs, s.toList = c :: cs ∧ (c.isAlpha = true ∨ c = '_') ∧ Alnum cs := by
  obtain ⟨c, cs, chars, alnum, -⟩ := camel
  by_cases digit : c.isDigit = true
  · rw [guarded, if_pos digit] at chars
    exact ⟨'_', c :: cs, chars, Or.inr rfl, alnum⟩
  · rw [guarded, if_neg digit] at chars
    obtain ⟨first, later⟩ := List.forall_mem_cons.mp alnum
    have letter : c.isAlpha = true :=
      (Bool.or_eq_true_iff.mp first).resolve_right digit
    exact ⟨c, cs, chars, Or.inl letter, later⟩

theorem isCamel_identifier (s : String) : IsCamel (identifier s) := by
  obtain ⟨c, rest, -, alnum, spelled, -⟩ := exists_spelling s.toList
  obtain ⟨first, later⟩ := List.forall_mem_cons.mp alnum
  refine ⟨c.toLower, rest, ?_, List.forall_mem_cons.mpr ⟨alnum_lower first, later⟩,
    toLower_toLower first⟩
  rw [identifier, String.toList_ofList, spelled]

end Naming

end ApiGraph
