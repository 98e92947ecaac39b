import ApiGraph.Proofs.Naming.Stems

/-!
# Normal names

Kebab case and identifiers are normal forms (`names_normal`). The kebab cases are the empty text and
the stems, the identifiers are the texts in camel case, and just these texts are left as they are.
-/

namespace ApiGraph.Naming

open Text

theorem IsStem.no_capital {s : String} (stem : IsStem s) :
    ∀ c ∈ s.toList, isUppercase c = false := by
  intro c member
  rcases stem.small_or_dash member with ⟨alnum, small⟩ | rfl
  · exact of_ascii (P := fun c => c.toLower = c → isUppercase c = false) (by decide) alnum small
  · decide

theorem IsSmallWord.map_toLower {w : List Char} (word : IsSmallWord w) :
    w.map Char.toLower = w := by
  rw [List.map_congr_left word.small, List.map_id']

/-- Without capitals, snake case only exchanges characters between words for others. -/
theorem words_snakeFrom {cs : List Char} (small : ∀ c ∈ cs, isUppercase c = false)
    (before : Option Char) :
    words (!isAsciiAlnum ·) (snakeFrom before cs) = words (!isAsciiAlnum ·) cs := by
  have pieces : splitOn (!isAsciiAlnum ·) (snakeFrom before cs) =
      splitOn (!isAsciiAlnum ·) cs := by
    induction cs generalizing before with
    | nil => rfl
    | cons c cs ih =>
      obtain ⟨first, later⟩ := List.forall_mem_cons.mp small
      rw [snakeFrom, if_neg (ne_true_of_eq_false first)]
      by_cases joint : (c == '-' || c == ' ') = true
      · have apart : isAsciiAlnum c = false := by
          rcases Bool.or_eq_true_iff.mp joint with dash | blank
          · rw [eq_of_beq dash]
            decide
          · rw [eq_of_beq blank]
            decide
        have underscore : isAsciiAlnum '_' = false := by decide
        rw [if_pos joint, List.singleton_append, splitOn, splitOn, underscore, apart,
          ih later (some c)]
        rfl
      · rw [if_neg joint, List.singleton_append, splitOn, splitOn, ih later (some c)]
  rw [words, words, pieces]

theorem IsStem.kebab_eq {s : String} (stem : IsStem s) : kebab s = s := by
  have noCapital := stem.no_capital
  obtain ⟨w, ws, chars, small⟩ := stem
  have lowered : (w :: ws).map (·.map Char.toLower) = w :: ws := by
    rw [List.map_congr_left fun v present => (small v present).map_toLower, List.map_id']
  rw [kebab, ← String.toList_inj, String.toList_ofList, kebabChars, words_snakeFrom noCapital,
    chars, words_of_small small, lowered]

theorem kebab_of_stem {s : String} (stem : s = "" ∨ IsStem s) : kebab s = s := by
  rcases stem with rfl | stem
  · rfl
  · exact stem.kebab_eq

theorem kebab_eq_self_iff {s : String} : kebab s = s ↔ s = "" ∨ IsStem s :=
  ⟨fun fixed => fixed ▸ kebab_stem s, kebab_of_stem⟩

theorem words_guarded {c : Char} {cs : List Char} (alnum : Alnum (c :: cs)) :
    words (!isAsciiAlnum ·) (guarded (c :: cs)) = [c :: cs] := by
  have bare : words (!isAsciiAlnum ·) (c :: cs) = [c :: cs] := by
    have underscore : isAsciiAlnum '_' = false := by decide
    have joined := words_intercalate underscore (List.forall_mem_singleton.mpr alnum)
      (List.forall_mem_singleton.mpr (List.cons_ne_nil c cs))
    rwa [List.intercalate_singleton] at joined
  by_cases digit : c.isDigit = true
  · -- the piece before the guard is empty, so it is no word
    rw [guarded, if_pos digit]
    exact bare
  · rw [guarded, if_neg digit, bare]

theorem identifier_of_camel {s : String} (camel : IsCamel s) : identifier s = s := by
  obtain ⟨c, cs, chars, alnum, small⟩ := camel
  rw [identifier, ← String.toList_inj, String.toList_ofList, chars,
    identifierChars_of_words (words_guarded alnum), small, List.flatMap_nil, List.append_nil]

theorem identifier_eq_self_iff {s : String} : identifier s = s ↔ IsCamel s :=
  ⟨fun fixed => fixed ▸ isCamel_identifier s, identifier_of_camel⟩

/-- A kebab case is empty or consists of small words between single dashes, an identifier begins
with a letter or an underscore and goes on with letters and digits, and both are left as they are
when they are normalized again. -/
theorem names_normal (s : String) :
    ((kebab s = "" ∨ IsStem (kebab s)) ∧
      kebab (kebab s) = kebab s ∧
      (kebab s = s ↔ s = "" ∨ IsStem s)) ∧
    (∃ c cs, (identifier s).toList = c :: cs ∧ (c.isAlpha = true ∨ c = '_') ∧ Alnum cs) ∧
      identifier (identifier s) = identifier s ∧
      (identifier s = s ↔ IsCamel s) := by
  have stem := kebab_stem s
  have camel := isCamel_identifier s
  exact ⟨⟨stem, kebab_of_stem stem, kebab_eq_self_iff⟩,
    camel.exists_cons, identifier_of_camel camel, identifier_eq_self_iff⟩

example : identifier "2fa codes" = "_2faCodes" ∧ identifier "_2faCodes" = "_2faCodes" := by decide

end ApiGraph.Naming
