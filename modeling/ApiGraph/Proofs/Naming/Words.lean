import Mathlib.Data.List.Basic
import ApiGraph.Naming

namespace ApiGraph

open Text

theorem Text.splitOn_eq_splitOnP (p : Char → Bool) (cs : List Char) :
    splitOn p cs = cs.splitOnP p := by
  induction cs with
  | nil => rfl
  | cons c cs ih =>
    rw [splitOn, List.splitOnP_cons_eq_if_modifyHead, ih]
    split
    · rfl
    · split
      · rename_i none
        exact absurd none (List.splitOnP_ne_nil p cs)
      · rename_i pieces
        rw [pieces, List.modifyHead_cons]

theorem Text.splitOn_ne_nil (p : Char → Bool) (cs : List Char) : splitOn p cs ≠ [] := by
  rw [splitOn_eq_splitOnP]
  exact List.splitOnP_ne_nil p cs

theorem Text.splitOn_solid {p : Char → Bool} {cs : List Char} (solid : ∀ c ∈ cs, p c = false) :
    splitOn p cs = [cs] := by
  rw [splitOn_eq_splitOnP, List.splitOnP_eq_singleton solid]

theorem Text.splitOn_append_cons {p : Char → Bool} {c : Char} (separates : p c = true)
    (a b : List Char) : splitOn p (a ++ c :: b) = splitOn p a ++ splitOn p b := by
  rw [splitOn_eq_splitOnP, splitOn_eq_splitOnP, splitOn_eq_splitOnP,
    List.splitOnP_append_cons a b separates]

theorem Text.splitOn_solid_cons {p : Char → Bool} {a : List Char} {c : Char}
    (solid : ∀ d ∈ a, p d = false) (separates : p c = true) (b : List Char) :
    splitOn p (a ++ c :: b) = a :: splitOn p b := by
  rw [splitOn_append_cons separates, splitOn_solid solid, List.singleton_append]

/-- A piece holds characters of the text that do not separate. -/
theorem Text.mem_piece {p : Char → Bool} {cs w : List Char} (piece : w ∈ splitOn p cs) {c : Char}
    (member : c ∈ w) : c ∈ cs ∧ p c = false := by
  induction cs generalizing w with
  | nil =>
    rw [splitOn, List.mem_singleton] at piece
    rw [piece] at member
    exact absurd member List.not_mem_nil
  | cons d cs ih =>
    unfold splitOn at piece
    split at piece
    · rcases List.mem_cons.mp piece with rfl | later
      · exact absurd member List.not_mem_nil
      · exact (ih later member).imp (List.mem_cons_of_mem _) id
    · rename_i solid
      split at piece
      · rename_i none
        exact absurd none (splitOn_ne_nil p cs)
      · rename_i first rest pieces
        rw [pieces] at ih
        rcases List.mem_cons.mp piece with rfl | later
        · rcases List.mem_cons.mp member with rfl | inner
          · exact ⟨List.mem_cons_self, by simpa using solid⟩
          · exact (ih List.mem_cons_self inner).imp (List.mem_cons_of_mem _) id
        · exact (ih (List.mem_cons_of_mem _ later) member).imp (List.mem_cons_of_mem _) id

theorem Text.mem_word {p : Char → Bool} {cs w : List Char} (word : w ∈ words p cs) {c : Char}
    (member : c ∈ w) : c ∈ cs ∧ p c = false :=
  mem_piece (List.mem_of_mem_filter word) member

theorem mem_intercalate {α : Type} {joint : List α} {parts : List (List α)} {a : α}
    (member : a ∈ joint.intercalate parts) : a ∈ joint ∨ ∃ part ∈ parts, a ∈ part := by
  induction parts with
  | nil => exact absurd member List.not_mem_nil
  | cons part rest ih =>
    cases rest with
    | nil =>
      rw [List.intercalate_singleton] at member
      exact Or.inr ⟨part, List.mem_cons_self, member⟩
    | cons next rest =>
      rw [List.intercalate_cons_cons, List.mem_append, List.mem_append] at member
      rcases member with (first | between) | later
      · exact Or.inr ⟨part, List.mem_cons_self, first⟩
      · exact Or.inl between
      · exact (ih later).imp id fun ⟨part, present, inside⟩ =>
          ⟨part, List.mem_cons_of_mem _ present, inside⟩

/-- Characters are tested one by one, and not all there are. -/
theorem Text.forall_of_all {P : Char → Prop} [DecidablePred P] {cs : List Char}
    (each : cs.all (fun c => decide (P c)) = true) : ∀ c ∈ cs, P c := fun c member =>
  of_decide_eq_true (List.all_eq_true.mp each c member)

/-- Joined pieces come apart at their joints. -/
theorem Text.splitOn_intercalate {p : Char → Bool} {joint : Char} (separates : p joint = true)
    {ws : List (List Char)} (solid : ∀ w ∈ ws, ∀ c ∈ w, p c = false) (some : ws ≠ []) :
    splitOn p ([joint].intercalate ws) = ws := by
  rw [splitOn_eq_splitOnP]
  induction ws with
  | nil => exact absurd rfl some
  | cons w ws ih =>
    obtain ⟨here, later⟩ := List.forall_mem_cons.mp solid
    cases ws with
    | nil =>
      rw [List.intercalate_singleton]
      exact List.splitOnP_eq_singleton here
    | cons next ws =>
      rw [List.intercalate_cons_cons, List.append_assoc, List.singleton_append,
        List.splitOnP_append_cons_of_forall_mem here _ separates,
        ih later (List.cons_ne_nil _ _)]

theorem Text.flatten_words (p : Char → Bool) (cs : List Char) :
    (words p cs).flatten = cs.filter fun c => !p c := by
  rw [words, List.flatten_filter_not_isEmpty, splitOn_eq_splitOnP]
  induction cs with
  | nil => rfl
  | cons c cs ih =>
    rw [List.splitOnP_cons_eq_if_modifyHead]
    cases separates : p c with
    | true => simpa [separates] using ih
    | false =>
      obtain ⟨w, ws, pieces⟩ := List.exists_cons_of_ne_nil (List.splitOnP_ne_nil p cs)
      rw [pieces] at ih ⊢
      simpa [separates] using ih

theorem Text.small_of_alnum {c : Char} (alnum : isAsciiAlnum c = true) : c.toNat < 0x80 := by
  delta isAsciiAlnum Char.isAlpha Char.isUpper Char.isLower Char.isDigit at alnum
  simp only [Bool.or_eq_true, Bool.and_eq_true, decide_eq_true_eq, UInt32.le_iff_toNat_le,
    ge_iff_le] at alnum
  have bounds : ('Z'.val.toNat = 90 ∧ 'z'.val.toNat = 122) ∧ '9'.val.toNat = 57 := by decide
  show c.val.toNat < 128
  omega

/-- What holds of the ASCII characters one by one holds of a letter or digit. -/
theorem Text.of_ascii {P : Char → Prop} (each : ∀ n < 0x80, P (Char.ofNat n)) {c : Char}
    (alnum : isAsciiAlnum c = true) : P c := by
  have ascii := each c.toNat (small_of_alnum alnum)
  rwa [Char.ofNat_toNat] at ascii

theorem Text.alnum_upper {c : Char} (alnum : isAsciiAlnum c = true) :
    isAsciiAlnum c.toUpper = true :=
  of_ascii (P := fun c => isAsciiAlnum c = true → isAsciiAlnum c.toUpper = true)
    (by decide) alnum alnum

theorem Text.alnum_lower {c : Char} (alnum : isAsciiAlnum c = true) :
    isAsciiAlnum c.toLower = true :=
  of_ascii (P := fun c => isAsciiAlnum c = true → isAsciiAlnum c.toLower = true)
    (by decide) alnum alnum

theorem Text.toLower_toLower {c : Char} (alnum : isAsciiAlnum c = true) :
    c.toLower.toLower = c.toLower :=
  of_ascii (P := fun c => c.toLower.toLower = c.toLower) (by decide) alnum

theorem Text.upperChars_alnum {c : Char} (alnum : isAsciiAlnum c = true) :
    upperChars c = [c.toUpper] := if_pos (small_of_alnum alnum)

theorem Text.lowerChars_alnum {c : Char} (alnum : isAsciiAlnum c = true) :
    lowerChars c = [c.toLower] := if_pos (small_of_alnum alnum)

theorem Text.toLower_toUpper {c : Char} (alnum : isAsciiAlnum c = true) :
    c.toUpper.toLower = c.toLower :=
  of_ascii (P := fun c => c.toUpper.toLower = c.toLower) (by decide) alnum

theorem Text.toLower_of_not_upper {c : Char} (alnum : isAsciiAlnum c = true)
    (small : isUppercase c = false) : c.toLower = c := by
  have ascii : isUppercase c = c.isUpper := if_pos (small_of_alnum alnum)
  rw [ascii] at small
  exact of_ascii (P := fun c => c.isUpper = false → c.toLower = c) (by decide) alnum small

end ApiGraph
