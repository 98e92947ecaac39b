import ApiGraph.Backend.FieldDefault
import ApiGraph.Proofs.Naming
import ApiGraph.Proofs.Text.Pieces

/-!
# Characters of defaults

A number is taken over as it was written, so what a default contributes to a line of code depends on
which texts are numbers: outside of literals it has `IsDefaultChar` characters only
(`exists_written_default`).
-/

namespace ApiGraph

open Text

theorem Text.mem_or_mem_piece (p : Char → Bool) {cs : List Char} {c : Char} (member : c ∈ cs) :
    p c = true ∨ ∃ w ∈ splitOn p cs, c ∈ w := by
  induction cs with
  | nil => exact absurd member List.not_mem_nil
  | cons d cs ih =>
    unfold splitOn
    by_cases separates : p d = true
    · rw [if_pos separates]
      rcases List.mem_cons.mp member with rfl | later
      · exact .inl separates
      · refine (ih later).imp_right ?_
        rintro ⟨w, piece, inside⟩
        exact ⟨w, List.mem_cons_of_mem _ piece, inside⟩
    · rw [if_neg separates]
      split
      · rename_i none
        exact absurd none (splitOn_ne_nil p cs)
      · rename_i first rest pieces
        rcases List.mem_cons.mp member with rfl | later
        · exact .inr ⟨_, List.mem_cons_self, List.mem_cons_self⟩
        · refine (ih later).imp_right ?_
          rintro ⟨w, piece, inside⟩
          rcases List.mem_cons.mp (pieces ▸ piece) with rfl | other
          · exact ⟨_, List.mem_cons_self, List.mem_cons_of_mem _ inside⟩
          · exact ⟨w, List.mem_cons_of_mem _ other, inside⟩

namespace Backend.FieldDefault

/-- A character of numbers, truth values or calls for the time. Commas, quotes and the letter `b` are
none, so that a default cannot pass for an option of a path or for the mark of a required column. -/
def IsDefaultChar (c : Char) : Prop := c.toLower ∈ "()+-.0123456789adefiklnorstuwxy".toList

instance (c : Char) : Decidable (IsDefaultChar c) := inferInstanceAs (Decidable (_ ∈ _))

theorem isDefaultChar_of_digit {c : Char} (digit : c.isDigit = true) : IsDefaultChar c :=
  of_ascii (P := fun c => c.isDigit = true → IsDefaultChar c) (by decide)
    (by simp [isAsciiAlnum, digit]) digit

theorem isDefaultChar_of_numeral {cs : List Char} (numeral : Digits.isNumeral cs = true) :
    ∀ c ∈ cs, IsDefaultChar c := by
  obtain ⟨-, digits⟩ := Bool.and_eq_true_iff.mp numeral
  exact fun c member => isDefaultChar_of_digit (List.all_eq_true.mp digits c member)

theorem isDefaultChar_of_sign {cs : List Char}
    (body : ∀ c ∈ (Digits.splitSign cs).2, IsDefaultChar c) : ∀ c ∈ cs, IsDefaultChar c := by
  intro c member
  unfold Digits.splitSign at body
  split at body
  · rcases List.mem_cons.mp member with rfl | later
    · decide
    · exact body c later
  · rcases List.mem_cons.mp member with rfl | later
    · decide
    · exact body c later
  · exact body c member

theorem isDefaultChar_of_integer {cs : List Char} (integer : isInteger cs = true) :
    ∀ c ∈ cs, IsDefaultChar c :=
  isDefaultChar_of_sign (isDefaultChar_of_numeral (Bool.and_eq_true_iff.mp integer).1)

theorem isDefaultChar_of_mantissa {cs : List Char} (mantissa : isMantissa cs = true) :
    ∀ c ∈ cs, IsDefaultChar c := by
  intro c member
  unfold isMantissa at mantissa
  rcases mem_or_mem_piece (· == '.') member with point | ⟨w, piece, inside⟩
  · rw [beq_iff_eq.mp point]
    decide
  · split at mantissa
    · rename_i whole pieces
      rw [pieces, List.mem_singleton] at piece
      exact isDefaultChar_of_numeral mantissa c (piece ▸ inside)
    · rename_i whole places pieces
      refine isDefaultChar_of_numeral mantissa c (List.mem_append.mpr ?_)
      rw [pieces] at piece
      simp only [List.mem_cons, List.not_mem_nil, or_false] at piece
      rcases piece with rfl | rfl
      · exact .inl inside
      · exact .inr inside
    · cases mantissa

theorem isDefaultChar_of_special {cs : List Char}
    (special : specialNumbers.contains (String.ofList (cs.map Char.toLower)) = true) :
    ∀ c ∈ cs, IsDefaultChar c := by
  have letters : ∀ s ∈ specialNumbers,
      s.toList.all (· ∈ "()+-.0123456789adefiklnorstuwxy".toList) = true := by decide
  intro c member
  refine forall_of_all (letters _ (List.contains_iff_mem.mp special)) _ ?_
  rw [String.toList_ofList]
  exact List.mem_map_of_mem member

theorem isDefaultChar_of_float {cs : List Char} (float : isFloat cs = true) :
    ∀ c ∈ cs, IsDefaultChar c := by
  refine isDefaultChar_of_sign fun c member => ?_
  rcases Bool.or_eq_true_iff.mp float with special | decimal
  · exact isDefaultChar_of_special special c member
  · rcases mem_or_mem_piece (fun c => c == 'e' || c == 'E') member with mark | ⟨w, piece, inside⟩
    · rcases Bool.or_eq_true_iff.mp mark with small | capital
      · rw [beq_iff_eq.mp small]
        decide
      · rw [beq_iff_eq.mp capital]
        decide
    · split at decimal
      · rename_i mantissa pieces
        rw [pieces, List.mem_singleton] at piece
        exact isDefaultChar_of_mantissa decimal c (piece ▸ inside)
      · rename_i mantissa exponent pieces
        obtain ⟨front, back⟩ := Bool.and_eq_true_iff.mp decimal
        rw [pieces] at piece
        simp only [List.mem_cons, List.not_mem_nil, or_false] at piece
        rcases piece with rfl | rfl
        · exact isDefaultChar_of_mantissa front c inside
        · exact isDefaultChar_of_sign (isDefaultChar_of_numeral back) c inside
      · cases decimal

theorem isDefaultChar_of_number {type : FieldType} {s t : String}
    (number : ofText type s = .number t) : ∀ c ∈ t.toList, IsDefaultChar c := by
  unfold ofText at number
  split at number
  · split at number <;> cases number
  · split at number
    · rename_i integer
      cases number
      exact isDefaultChar_of_integer integer
    · cases number
  · split at number
    · rename_i float
      cases number
      exact isDefaultChar_of_float float
    · cases number
  · split at number
    · cases number
    · split at number <;> cases number
  · cases number

theorem isDefaultChar_of_stored {f : ModelField} {t : String}
    (found : stored f = some (.number t)) : ∀ c ∈ t.toList, IsDefaultChar c := by
  unfold stored ofField at found
  split at found
  · rename_i d own
    cases found
    split at own
    · exact isDefaultChar_of_number (Option.some.inj own)
    · cases own
  · split at found <;> cases found

/-- A default is a literal, or code of the characters of defaults. -/
theorem exists_written_default {f : ModelField} {d : FieldDefault} (found : stored f = some d)
    {time : String} (call : ∀ c ∈ time.toList, IsDefaultChar c) :
    ∃ ps, Written (d.literal?.getD time) ps ∧ ∀ c, .code c ∈ ps → IsDefaultChar c := by
  have plain : ∀ s : String, (∀ c ∈ s.toList, IsDefaultChar c) →
      ∃ ps, Written s ps ∧ ∀ c, .code c ∈ ps → IsDefaultChar c := by
    intro s each
    refine ⟨code s, .plain fun quoted => absurd (each _ quoted) (by decide), fun c member => ?_⟩
    obtain ⟨_, inside, same⟩ := List.mem_map.mp member
    cases same
    exact each c inside
  cases d with
  | now => exact plain time call
  | number t => exact plain t (isDefaultChar_of_stored found)
  | boolean b =>
    cases b with
    | false => exact plain "false" (forall_of_all (by decide))
    | true => exact plain "true" (forall_of_all (by decide))
  | text s => exact ⟨_, .quote s, fun c member => nomatch List.mem_singleton.mp member⟩

end Backend.FieldDefault

end ApiGraph
