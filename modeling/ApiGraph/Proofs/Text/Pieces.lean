import Mathlib.Data.List.Basic
import ApiGraph.Proofs.Text.Literal

/-!
# Reading code

`pieces` takes a line of code apart: what stands in a literal is one piece, and every other
character is a piece of its own. So nothing inside of a literal is taken for code. `Written` says
what a text contributes to the pieces of the texts that begin with it.
-/

namespace ApiGraph.Text

/-- A part of a line. -/
inductive Piece where
  /-- A character outside of literals. -/
  | code (c : Char)
  /-- A whole literal and the text it denotes. -/
  | literal (s : String)
deriving DecidableEq

theorem exists_body_of_map {c : Char} {cs s rest : List Char}
    (read : ((literalBody cs).map fun p => (c :: p.1, p.2)) = some (s, rest)) :
    ∃ t, literalBody cs = some (t, rest) := by
  obtain ⟨⟨t, _⟩, later, same⟩ := Option.map_eq_some_iff.mp read
  cases same
  exact ⟨t, later⟩

theorem length_literalBody {cs s rest : List Char} (read : literalBody cs = some (s, rest)) :
    rest.length < cs.length := by
  induction cs using literalBody.induct generalizing s with
  | case1 => cases read
  | case2 cs =>
    cases read
    exact Nat.lt_succ_self _
  | case3 cs ih =>
    obtain ⟨t, later⟩ := exists_body_of_map read
    exact Nat.lt_add_right 2 (ih later)
  | case4 cs ih =>
    obtain ⟨t, later⟩ := exists_body_of_map read
    exact Nat.lt_add_right 2 (ih later)
  | case5 c cs notFeed notReturn ih =>
    rw [literalBody.eq_5 c cs notFeed notReturn] at read
    obtain ⟨t, later⟩ := exists_body_of_map read
    exact Nat.lt_add_right 2 (ih later)
  | case6 c cs notEnd notFeed notReturn notEscape ih =>
    rw [literalBody.eq_6 c cs notEnd notFeed notReturn notEscape] at read
    obtain ⟨t, later⟩ := exists_body_of_map read
    exact Nat.lt_succ_of_lt (ih later)

/-- The pieces of a text. A quote that begins no literal is code. -/
def pieces : List Char → List Piece
  | [] => []
  | c :: cs =>
    if c = '\'' then
      match _body : literalBody cs with
      | some (s, rest) => .literal (String.ofList s) :: pieces rest
      | none => .code c :: pieces cs
    else .code c :: pieces cs
termination_by cs => cs.length
decreasing_by
  -- what is left behind a literal is shorter than its body
  · exact Nat.lt_succ_of_lt (length_literalBody _body)
  · exact Nat.lt_succ_self _
  · exact Nat.lt_succ_self _

def code (s : String) : List Piece := s.toList.map .code

/-- What the literals among some pieces denote. -/
def literals (ps : List Piece) : List String :=
  ps.filterMap fun
    | .literal s => some s
    | .code _ => none

/-- A text is taken apart into some pieces, whatever follows it. -/
def Written (s : String) (ps : List Piece) : Prop :=
  ∀ rest, pieces (s.toList ++ rest) = ps ++ pieces rest

namespace Written

variable {s t : String} {ps qs : List Piece}

theorem pieces_eq (written : Written s ps) : pieces s.toList = ps := by
  have whole := written []
  rw [List.append_nil] at whole
  rw [whole, pieces, List.append_nil]

theorem append (left : Written s ps) (right : Written t qs) : Written (s ++ t) (ps ++ qs) := by
  intro rest
  rw [String.toList_append, List.append_assoc, left, right, List.append_assoc]

theorem plain (plain : '\'' ∉ s.toList) : Written s (code s) := by
  have walk : ∀ cs rest : List Char, '\'' ∉ cs → pieces (cs ++ rest) =
      cs.map .code ++ pieces rest := by
    intro cs rest plain
    induction cs with
    | nil => rfl
    | cons c cs ih =>
      rw [List.mem_cons, not_or] at plain
      rw [List.cons_append, pieces, if_neg (Ne.symm plain.1), ih plain.2]
      rfl
  exact fun rest => walk _ rest plain

theorem quote (s : String) : Written (quote s) [.literal s] := by
  intro rest
  have read := unquote_quote s rest
  have opening : (Text.quote s).toList = '\'' :: (s.toList.flatMap quoteChar ++ ['\'']) := by
    rw [Text.quote, String.toList_ofList, quoteChars]
  rw [opening, List.cons_append] at read ⊢
  rw [pieces, if_pos rfl]
  split
  · rename_i t more body
    cases body.symm.trans read
    rw [String.ofList_toList]
    rfl
  · rename_i body
    cases body.symm.trans read

theorem comma {ps qs : List Piece} (left : Written s ps) (right : Written t qs) :
    Written (s ++ ", " ++ t) (ps ++ code ", " ++ qs) :=
  (left.append (Written.plain (by decide))).append right

end Written

theorem literals_append (ps qs : List Piece) :
    literals (ps ++ qs) = literals ps ++ literals qs := by
  simp [literals, List.filterMap_append]

theorem literals_code (s : String) : literals (code s) = [] := by
  simp [literals, code, List.filterMap_map]

theorem exists_written_quotes (names : List String) :
    ∃ ps, Written (", ".intercalate (names.map quote)) ps ∧ literals ps = names := by
  induction names with
  | nil => exact ⟨[], fun _ => rfl, rfl⟩
  | cons name rest ih =>
    cases rest with
    | nil =>
      rw [List.map_singleton, String.intercalate_singleton]
      exact ⟨[.literal name], Written.quote name, rfl⟩
    | cons next rest =>
      obtain ⟨ps, written, listed⟩ := ih
      rw [List.map_cons, List.map_cons, String.intercalate_cons_cons]
      refine ⟨_, (Written.quote name).comma written, ?_⟩
      rw [literals_append, literals_append, literals_code, listed]
      rfl

/-- Parts between commas, with a blank before each of them, are found again. -/
theorem exists_written_parts {parts : List String} (nonempty : parts ≠ [])
    (each : ∀ s ∈ parts, ∃ ps, Written s ps ∧ .code ',' ∉ ps) :
    ∃ qs, Written (" " ++ ", ".intercalate parts) qs ∧
      qs.splitOn (.code ',') = parts.map fun s => code " " ++ pieces s.toList := by
  have blank : Written " " (code " ") := Written.plain (by decide)
  have comma : Written "," [.code ','] := Written.plain (by decide)
  have written : Written (" " ++ ", ".intercalate parts)
      ([.code ','].intercalate (parts.map fun s => code " " ++ pieces s.toList)) := by
    induction parts with
    | nil => exact absurd rfl nonempty
    | cons s rest ih =>
      obtain ⟨⟨ps, first, -⟩, later⟩ := List.forall_mem_cons.mp each
      cases rest with
      | nil =>
        rw [List.map_singleton, String.intercalate_singleton, List.intercalate_singleton,
          first.pieces_eq]
        exact blank.append first
      | cons t rest =>
        have joined : " " ++ ", ".intercalate (s :: t :: rest) =
            " " ++ s ++ "," ++ (" " ++ ", ".intercalate (t :: rest)) := by
          rw [String.intercalate_cons_cons]
          simp only [String.append_assoc]
          rfl
        rw [joined, List.map_cons, first.pieces_eq]
        simp only [List.map_cons, List.intercalate_cons_cons]
        exact ((blank.append first).append comma).append (ih (List.cons_ne_nil _ _) later)
  refine ⟨_, written, List.splitOn_intercalate _ ?_ (by simpa using nonempty)⟩
  intro part member
  obtain ⟨s, present, rfl⟩ := List.mem_map.mp member
  obtain ⟨ps, first, apart⟩ := each s present
  rw [first.pieces_eq, List.mem_append, not_or]
  exact ⟨by decide, apart⟩

def after? (s : String) (cs : List Char) : Option (List Char) := cs.dropPrefix? s.toList

theorem after?_append (s : String) (cs : List Char) : after? s (s.toList ++ cs) = some cs :=
  List.dropPrefix?_append_of_beq cs (beq_self_eq_true _)

/-- A text does not begin with a key that begins otherwise. -/
theorem after?_of_head {key : String} {k : Char} {cs : List Char}
    (expected : key.toList.head? = some k) (other : cs.head? ≠ some k) : after? key cs = none := by
  obtain ⟨ks, key_eq⟩ := List.head?_eq_some_iff.mp expected
  cases cs with
  | nil =>
    rw [after?, key_eq]
    rfl
  | cons c cs =>
    have different : (c == k) = false := beq_eq_false_iff_ne.mpr fun same => other (congrArg some same)
    rw [after?, key_eq, List.dropPrefix?, different]
    rfl

/-- The property key at the beginning of a text, and what follows it. -/
def key? (cs : List Char) : Option (List Char × List Char) :=
  match unquote? cs with
  | some found => some found
  | none =>
    if cs.takeWhile isIdentRest = [] then none
    else some (cs.takeWhile isIdentRest, cs.dropWhile isIdentRest)

theorem identRest_of_plain {cs : List Char} (plain : isPlainIdent cs = true) :
    cs ≠ [] ∧ ∀ c ∈ cs, isIdentRest c = true := by
  cases cs with
  | nil => cases plain
  | cons c cs =>
    obtain ⟨start, rest⟩ := Bool.and_eq_true_iff.mp plain
    refine ⟨List.cons_ne_nil _ _, List.forall_mem_cons.mpr ⟨?_, List.all_eq_true.mp rest⟩⟩
    simp [isIdentRest, start]

/-- Elements of a kind end before one that is not of the kind. -/
theorem span_append {α : Type} {p : α → Bool} {word rest : List α} (inside : ∀ c ∈ word, p c = true)
    (stop : ∀ c ∈ rest.head?, p c = false) :
    (word ++ rest).takeWhile p = word ∧ (word ++ rest).dropWhile p = rest := by
  rw [List.takeWhile_append_of_pos inside, List.dropWhile_append_of_pos inside]
  cases rest with
  | nil => simp
  | cons c rest => simp [stop c rfl]

/-- A word ends before a character that cannot belong to it. -/
theorem span_word {word : List Char} (letters : ∀ c ∈ word, isIdentRest c = true) {c : Char}
    (ends : ¬ isIdentRest c = true) (rest : List Char) :
    (word ++ c :: rest).takeWhile isIdentRest = word ∧
      (word ++ c :: rest).dropWhile isIdentRest = c :: rest :=
  span_append letters (by simpa using ends)

/-- A written key is found, once a character follows that cannot belong to it. -/
theorem key?_propertyKey (name : String) {rest : List Char}
    (stop : rest.head?.any (!isIdentRest ·) = true) :
    key? ((propertyKey name).toList ++ rest) = some (name.toList, rest) := by
  obtain ⟨c, tail, rfl⟩ : ∃ c tail, rest = c :: tail := by
    cases rest with
    | nil => cases stop
    | cons c tail => exact ⟨c, tail, rfl⟩
  have ends : ¬ isIdentRest c = true := by simpa using stop
  unfold propertyKey
  split
  · rename_i plain
    obtain ⟨nonempty, word⟩ := identRest_of_plain plain
    obtain ⟨taken, left⟩ := span_word word ends tail
    obtain ⟨d, ds, form⟩ := List.exists_cons_of_ne_nil nonempty
    have bare : unquote? (name.toList ++ c :: tail) = none := by
      rw [form, List.cons_append, unquote?]
      intro _ same
      have quoted := word d (form ▸ List.mem_cons_self)
      cases same
      exact absurd quoted (by decide)
    simp only [key?, bare, taken, left, if_neg nonempty]
  · rw [key?, unquote_quote]

end ApiGraph.Text
