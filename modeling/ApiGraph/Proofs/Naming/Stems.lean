import ApiGraph.Proofs.Naming.Spelling

/-!
# Identifiers of stems

A stem is written in small words joined by dashes. Its identifier has a capital for each dash before
a letter, but nothing for a dash before a digit: two stems have the same identifier exactly if they
differ in dashes before digits only (`identifier_stem_eq_iff`).
-/

namespace ApiGraph.Naming

open Text

/-- A word of small ASCII letters and digits. -/
structure IsSmallWord (w : List Char) : Prop where
  nonempty : w ≠ []
  alnum : Alnum w
  small : ∀ c ∈ w, c.toLower = c

/-- Small words joined by dashes, at least one. -/
def IsStem (s : String) : Prop :=
  ∃ w ws, s.toList = ['-'].intercalate (w :: ws) ∧ ∀ v ∈ w :: ws, IsSmallWord v

theorem isStem_of_word {s : String} (word : IsSmallWord s.toList) : IsStem s :=
  ⟨s.toList, [], List.intercalate_singleton.symm, List.forall_mem_singleton.mpr word⟩

theorem smallWord_lowered {cs w : List Char} (word : w ∈ words (!isAsciiAlnum ·) cs) :
    IsSmallWord (w.map Char.toLower) where
  nonempty := by
    have some : w ≠ [] := by simpa using (List.mem_filter.mp word).2
    simpa using some
  alnum c member := by
    obtain ⟨d, inside, rfl⟩ := List.mem_map.mp member
    exact alnum_lower (alnum_of_mem_words word d inside)
  small c member := by
    obtain ⟨d, inside, rfl⟩ := List.mem_map.mp member
    exact toLower_toLower (alnum_of_mem_words word d inside)

theorem kebab_stem (s : String) : kebab s = "" ∨ IsStem (kebab s) := by
  let ws := (words (!isAsciiAlnum ·) (snakeFrom none s.toList)).map (·.map Char.toLower)
  have chars : (kebab s).toList = ['-'].intercalate ws := by
    rw [kebab, String.toList_ofList]
    rfl
  have small : ∀ v ∈ ws, IsSmallWord v := by
    intro v member
    obtain ⟨w, word, rfl⟩ := List.mem_map.mp member
    exact smallWord_lowered word
  cases read : ws with
  | nil =>
    rw [read] at chars
    exact Or.inl (String.toList_inj.mp chars)
  | cons w rest =>
    rw [read] at chars small
    exact Or.inr ⟨w, rest, chars, small⟩

theorem isStem_kebabOr {fallback : String} (word : IsSmallWord fallback.toList) (s : String) :
    IsStem (kebabOr fallback s) := by
  unfold kebabOr
  split
  · exact isStem_of_word word
  · rename_i some
    exact (kebab_stem s).resolve_left fun none => some (by rw [none]; rfl)

theorem IsStem.small_or_dash {s : String} (stem : IsStem s) {c : Char} (member : c ∈ s.toList) :
    (isAsciiAlnum c = true ∧ c.toLower = c) ∨ c = '-' := by
  obtain ⟨w, ws, chars, small⟩ := stem
  rw [chars] at member
  rcases mem_intercalate member with joint | ⟨v, present, inside⟩
  · exact Or.inr (List.mem_singleton.mp joint)
  · exact Or.inl ⟨(small v present).alnum c inside, (small v present).small c inside⟩

/-- The words of a stem are those it is written in. -/
theorem words_of_small {ws : List (List Char)} (small : ∀ w ∈ ws, IsSmallWord w) :
    words (!isAsciiAlnum ·) (['-'].intercalate ws) = ws :=
  words_intercalate (by decide) (fun w present => (small w present).alnum)
    fun w present => (small w present).nonempty

/-- Each capital as a dash and its small letter. -/
def hyphenated (cs : List Char) : List Char :=
  cs.flatMap fun c => if c.isUpper then ['-', c.toLower] else [c]

/-- A text without its dashes that stand before a digit. -/
def joinDigits : List Char → List Char
  | [] => []
  | c :: cs =>
    if c = '-' ∧ cs.head?.any Char.isDigit = true then joinDigits cs else c :: joinDigits cs

theorem joinDigits_append {w : List Char} (alnum : Alnum w) (cs : List Char) :
    joinDigits (w ++ cs) = w ++ joinDigits cs := by
  induction w with
  | nil => rfl
  | cons c w ih =>
    obtain ⟨first, later⟩ := List.forall_mem_cons.mp alnum
    have noDash : c ≠ '-' := fun same => absurd (same ▸ first) (by decide)
    rw [List.cons_append, joinDigits, if_neg fun dash => noDash dash.1, ih later, List.cons_append]

theorem hyphenated_append (a b : List Char) :
    hyphenated (a ++ b) = hyphenated a ++ hyphenated b := List.flatMap_append

theorem hyphenated_small {w : List Char} (word : IsSmallWord w) : hyphenated w = w := by
  have each : ∀ c ∈ w, (if c.isUpper then ['-', c.toLower] else [c]) = [c] := by
    intro c member
    have notUpper : c.toLower = c → c.isUpper = false :=
      of_ascii (P := fun c => c.toLower = c → c.isUpper = false) (by decide) (word.alnum c member)
    rw [notUpper (word.small c member)]
    rfl
  rw [hyphenated, List.flatMap_congr each, ← List.map_eq_flatMap, List.map_id']

/-- A capitalized word tells by a dash that it begins, unless it begins with a digit. -/
theorem hyphenated_capitalize {w : List Char} (word : IsSmallWord w) :
    hyphenated (capitalize w) = (if w.head?.any Char.isDigit = true then [] else ['-']) ++ w := by
  obtain ⟨c, rest, rfl⟩ := List.exists_cons_of_ne_nil word.nonempty
  obtain ⟨letter, inner⟩ := List.forall_mem_cons.mp word.alnum
  obtain ⟨low, lower⟩ := List.forall_mem_cons.mp word.small
  have first : (if c.toUpper.isUpper then ['-', c.toUpper.toLower] else [c.toUpper]) =
      (if c.isDigit = true then [] else ['-']) ++ [c] :=
    of_ascii (P := fun c => isAsciiAlnum c = true → c.toLower = c →
        (if c.toUpper.isUpper then ['-', c.toUpper.toLower] else [c.toUpper]) =
          (if c.isDigit = true then [] else ['-']) ++ [c]) (by decide) letter letter low
  have later : hyphenated rest = rest := by
    cases rest with
    | nil => rfl
    | cons d rest => exact hyphenated_small ⟨List.cons_ne_nil _ _, inner, lower⟩
  rw [capitalize_alnum word.alnum, hyphenated, List.flatMap_cons, first, ← hyphenated, later,
    List.append_assoc, List.singleton_append]
  rfl

/-- The words of a stem run together, each with a capital, still tell its dashes before letters. -/
theorem hyphenated_words {w : List Char} {ws : List (List Char)}
    (small : ∀ v ∈ w :: ws, IsSmallWord v) :
    hyphenated (w ++ ws.flatMap capitalize) = joinDigits (['-'].intercalate (w :: ws)) := by
  induction ws generalizing w with
  | nil =>
    have word := small w List.mem_cons_self
    have closed := joinDigits_append word.alnum []
    rw [List.append_nil] at closed
    rw [List.flatMap_nil, List.append_nil, List.intercalate_singleton, hyphenated_small word, closed,
      joinDigits, List.append_nil]
  | cons v ws ih =>
    obtain ⟨word, later⟩ := List.forall_mem_cons.mp small
    have next := later v List.mem_cons_self
    obtain ⟨c, rest, rfl⟩ := List.exists_cons_of_ne_nil next.nonempty
    have head : (['-'].intercalate ((c :: rest) :: ws)).head? = some c := by
      cases ws with
      | nil => rw [List.intercalate_singleton, List.head?_cons]
      | cons u us => rfl
    -- the dash before the next word is kept exactly where its first letter has a capital
    have dash : joinDigits ('-' :: ['-'].intercalate ((c :: rest) :: ws)) =
        (if c.isDigit = true then [] else ['-']) ++
          joinDigits (['-'].intercalate ((c :: rest) :: ws)) := by
      rw [joinDigits, head]
      by_cases digit : c.isDigit = true <;> simp [digit]
    rw [List.intercalate_cons_cons, List.append_assoc, List.singleton_append,
      joinDigits_append word.alnum, dash, ← ih later, List.flatMap_cons, hyphenated_append,
      hyphenated_append, hyphenated_append, hyphenated_small word, hyphenated_small next,
      hyphenated_capitalize next, List.append_assoc]
    rfl

theorem hyphenated_upper {c : Char} (upper : c.isUpper = true) (cs : List Char) :
    hyphenated (c :: cs) = '-' :: c.toLower :: hyphenated cs := by
  rw [hyphenated, List.flatMap_cons, if_pos upper]
  rfl

theorem hyphenated_other {c : Char} (other : ¬ c.isUpper = true) (cs : List Char) :
    hyphenated (c :: cs) = c :: hyphenated cs := by
  rw [hyphenated, List.flatMap_cons, if_neg other]
  rfl

theorem toUpper_toLower {c : Char} (alnum : isAsciiAlnum c = true) (upper : c.isUpper = true) :
    c.toLower.toUpper = c :=
  of_ascii (P := fun c => c.isUpper = true → c.toLower.toUpper = c) (by decide) alnum upper

/-- Each dash and the letter behind it as a capital. -/
def capitalized : List Char → List Char
  | '-' :: c :: cs => c.toUpper :: capitalized cs
  | c :: cs => c :: capitalized cs
  | [] => []

theorem capitalized_hyphenated {cs : List Char} (alnum : Alnum cs) :
    capitalized (hyphenated cs) = cs := by
  induction cs with
  | nil => rfl
  | cons c cs ih =>
    obtain ⟨letter, later⟩ := List.forall_mem_cons.mp alnum
    by_cases upper : c.isUpper = true
    · rw [hyphenated_upper upper, capitalized, toUpper_toLower letter upper, ih later]
    · have noDash : c ≠ '-' := fun same => absurd (same ▸ letter) (by decide)
      rw [hyphenated_other upper, capitalized, ih later]
      exact fun _ _ dash _ => noDash dash

theorem dropWhile_guarded {cs : List Char} (alnum : Alnum cs) :
    (guarded cs).dropWhile (· == '_') = cs := by
  cases cs with
  | nil => rfl
  | cons c cs =>
    have solid : (c == '_') = false := beq_eq_false_iff_ne.mpr fun same =>
      absurd (same ▸ alnum c List.mem_cons_self) (by decide)
    by_cases digit : c.isDigit = true <;> simp [guarded, digit, List.dropWhile, solid]

theorem identifierChars_stem {w : List Char} {ws : List (List Char)}
    (small : ∀ v ∈ w :: ws, IsSmallWord v) :
    identifierChars (['-'].intercalate (w :: ws)) = guarded (w ++ ws.flatMap capitalize) := by
  have read := words_of_small small
  have word := small w List.mem_cons_self
  obtain ⟨c, rest, rfl⟩ := List.exists_cons_of_ne_nil word.nonempty
  rw [identifierChars_of_words read, word.small c List.mem_cons_self]
  rfl

theorem IsStem.exists_identifier {s : String} (stem : IsStem s) :
    ∃ cs, Alnum cs ∧ (identifier s).toList = guarded cs ∧ hyphenated cs = joinDigits s.toList := by
  obtain ⟨w, ws, chars, small⟩ := stem
  refine ⟨w ++ ws.flatMap capitalize, fun c member => ?_, ?_, ?_⟩
  · rcases List.mem_append.mp member with first | later
    · exact (small w List.mem_cons_self).alnum c first
    · exact alnum_flatMap_capitalize
        (fun v inside => (small v (List.mem_cons_of_mem _ inside)).alnum) c later
  · rw [identifier, String.toList_ofList, chars, identifierChars_stem small]
  · rw [chars, hyphenated_words small]

theorem identifier_stem_eq_iff {s t : String} (left : IsStem s) (right : IsStem t) :
    identifier s = identifier t ↔ joinDigits s.toList = joinDigits t.toList := by
  obtain ⟨a, alnumA, charsA, joinedA⟩ := left.exists_identifier
  obtain ⟨b, alnumB, charsB, joinedB⟩ := right.exists_identifier
  rw [← joinedA, ← joinedB, ← String.toList_inj, charsA, charsB]
  constructor
  · intro same
    rw [← dropWhile_guarded alnumA, same, dropWhile_guarded alnumB]
  · intro same
    rw [← capitalized_hyphenated alnumA, same, capitalized_hyphenated alnumB]

end ApiGraph.Naming
