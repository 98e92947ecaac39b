import ApiGraph.Backend.Source
import ApiGraph.Proofs.Naming

/-!
# Lines of a text

`linesOf` cuts the text of a file where TypeScript ends a line. The line and paragraph separators end
a comment, while a literal may hold them. The lines of a written text are those that were written,
provided that each is a line by itself (`linesOf_unlines`).
-/

namespace ApiGraph.Backend.Source

open Text

/-- The characters that end a line, and a comment on it. -/
def IsLineEnd (c : Char) : Prop := c ∈ ['\n', '\r', '\u2028', '\u2029']

instance : DecidablePred IsLineEnd := fun _ => inferInstanceAs (Decidable (_ ∈ _))

/-- The characters that end a line of code, literals included. -/
def endsCode (c : Char) : Bool := c == '\n' || c == '\r'

def isComment (line : String) : Bool := "//".toList.isPrefixOf line.toList

/-- The lines of a text without line feeds. -/
def commentLines (line : String) : List String :=
  if isComment line then (splitOn (fun c => decide (IsLineEnd c)) line.toList).map String.ofList
  else [line]

def linesOf (text : String) : List String :=
  ((splitOn endsCode text.toList).map String.ofList).flatMap commentLines

theorem linesOf_line (line rest : String) :
    linesOf (line ++ "\n" ++ rest) = linesOf line ++ linesOf rest := by
  have text : (line ++ "\n" ++ rest).toList = line.toList ++ '\n' :: rest.toList := by simp
  rw [linesOf, text, splitOn_append_cons rfl, List.map_append, List.flatMap_append]
  rfl

theorem linesOf_unlines (lines : List String) :
    linesOf (unlines lines) = lines.flatMap linesOf ++ [""] := by
  induction lines with
  | nil => rfl
  | cons line lines ih =>
    have text : unlines (line :: lines) = line ++ "\n" ++ unlines lines := by
      simp [unlines, String.join_cons]
    rw [text, linesOf_line, ih, List.flatMap_cons, List.append_assoc]

theorem linesOf_unlines_of_whole {lines : List String} (whole : ∀ line ∈ lines, linesOf line = [line]) :
    linesOf (unlines lines) = lines ++ [""] := by
  rw [linesOf_unlines, List.flatMap_congr whole, List.flatMap_singleton']

/-- A text that ends no line of code. -/
def Unbroken (s : String) : Prop := ∀ c ∈ s.toList, endsCode c = false

-- the characters of the text are tried, and not all that there are
instance (s : String) : Decidable (Unbroken s) := List.decidableBAll (endsCode · = false) s.toList

theorem commentLines_of_unbroken {s : String} (unbroken : Unbroken s) : linesOf s = commentLines s := by
  rw [linesOf, splitOn_solid unbroken, List.map_singleton, String.ofList_toList,
    List.flatMap_singleton]

theorem linesOf_of_unbroken {s : String} (unbroken : Unbroken s) (code : isComment s = false) :
    linesOf s = [s] := by
  rw [commentLines_of_unbroken unbroken, commentLines, if_neg (by simp [code])]

theorem isComment_of_head {line : String} (head : line.toList.head? ≠ some '/') :
    isComment line = false := by
  rw [isComment]
  cases form : line.toList with
  | nil => rfl
  | cons c cs =>
    have other : c ≠ '/' := fun same => head (by rw [form, same]; rfl)
    show ('/' == c && _) = false
    rw [beq_eq_false_iff_ne.mpr other.symm, Bool.false_and]

theorem isComment_append {start : String} (begins : start.toList.head?.any (· ≠ '/') = true)
    (rest : String) : isComment (start ++ rest) = false := by
  refine isComment_of_head fun head => ?_
  rw [String.toList_append] at head
  cases form : start.toList with
  | nil => simp [form] at begins
  | cons c cs =>
    rw [form] at begins head
    simp_all

/-- An indented line begins no comment. -/
theorem linesOf_indented {line : String} (unbroken : Unbroken line) :
    linesOf ("  " ++ line) = ["  " ++ line] := by
  have both : Unbroken ("  " ++ line) := by
    intro c member
    rw [String.toList_append, List.mem_append] at member
    exact member.elim ((by decide : Unbroken "  ") c) (unbroken c)
  exact linesOf_of_unbroken both (isComment_append (by decide) line)

/-- A comment that ends with its line is one. -/
theorem linesOf_of_closed {s : String} (closed : ∀ c ∈ s.toList, ¬ IsLineEnd c) :
    linesOf s = [s] := by
  have unbroken : Unbroken s := by
    intro c member
    refine Bool.eq_false_iff.mpr fun ends => closed c member ?_
    simp only [endsCode, Bool.or_eq_true, beq_iff_eq] at ends
    rcases ends with rfl | rfl <;> decide
  rw [commentLines_of_unbroken unbroken, commentLines,
    splitOn_solid fun c member => decide_eq_false (closed c member)]
  split
  · rw [List.map_singleton, String.ofList_toList]
  · rfl

/-- A text that is a comment from two slashes up to the end of its only line. -/
def IsLineComment (text : String) : Prop :=
  ∃ body, text.toList = "//".toList ++ body ++ ['\n'] ∧ ∀ c ∈ body, ¬ IsLineEnd c

theorem isLineComment_iff (body : String) :
    IsLineComment (unlines ["//" ++ body]) ↔ ∀ c, IsLineEnd c → c ∉ body.toList := by
  have text : (unlines ["//" ++ body]).toList = "//".toList ++ body.toList ++ ['\n'] := by
    simp [unlines, String.join, String.toList_append]
  rw [IsLineComment, text]
  constructor
  · rintro ⟨other, same, whole⟩ c ends member
    rw [List.append_cancel_right_eq, List.append_cancel_left_eq] at same
    exact whole c (same ▸ member) ends
  · intro whole
    exact ⟨body.toList, rfl, fun c member ends => whole c ends member⟩

theorem linesOf_comment {body : String} (closed : IsLineComment (unlines ["//" ++ body])) :
    linesOf ("//" ++ body) = ["//" ++ body] := by
  refine linesOf_of_closed fun c member ends => ?_
  rw [String.toList_append, List.mem_append] at member
  rcases member with slash | inside
  · exact absurd ends ((forall_of_all (by decide) : ∀ c ∈ "//".toList, ¬ IsLineEnd c) c slash)
  · exact (isLineComment_iff body).mp closed c ends inside

section

variable {a b : String} {parts : List String}

@[simp]
theorem unbroken_append : Unbroken (a ++ b) ↔ Unbroken a ∧ Unbroken b := by
  simp only [Unbroken, String.toList_append, List.forall_mem_append]

@[simp]
theorem unbroken_quote (s : String) : Unbroken (quote s) := by
  have inner : ∀ c, ∀ d ∈ quoteChar c, endsCode d = false := by
    intro c d member
    unfold quoteChar at member
    split at member
    · exact (forall_of_all (by decide) : ∀ d ∈ ['\\', '\\'], endsCode d = false) d member
    · exact (forall_of_all (by decide) : ∀ d ∈ ['\\', '\''], endsCode d = false) d member
    · exact (forall_of_all (by decide) : ∀ d ∈ ['\\', 'n'], endsCode d = false) d member
    · exact (forall_of_all (by decide) : ∀ d ∈ ['\\', 'r'], endsCode d = false) d member
    · rename_i notFeed notReturn
      rw [List.mem_singleton.mp member, endsCode, beq_eq_false_iff_ne.mpr notFeed,
        beq_eq_false_iff_ne.mpr notReturn, Bool.or_false]
  rw [Unbroken, quote, String.toList_ofList, quoteChars, List.forall_mem_cons]
  refine ⟨rfl, List.forall_mem_append.mpr ⟨fun d member => ?_, List.forall_mem_singleton.mpr rfl⟩⟩
  obtain ⟨c, -, inside⟩ := List.mem_flatMap.mp member
  exact inner c d inside

theorem unbroken_intercalate {joint : String} (joined : Unbroken joint) :
    Unbroken (joint.intercalate parts) ↔ ∀ part ∈ parts, Unbroken part := by
  induction parts with
  | nil => simp [Unbroken]
  | cons part rest ih =>
    cases rest with
    | nil => simp
    | cons next rest =>
      rw [String.intercalate_cons_cons, unbroken_append, unbroken_append, ih, List.forall_mem_cons]
      simp [joined]

@[simp]
theorem unbroken_inBraces : Unbroken (inBraces parts) ↔ ∀ part ∈ parts, Unbroken part := by
  have opened : Unbroken "\x7b " := by decide
  have closed : Unbroken " \x7d" := by decide
  rw [inBraces, unbroken_append, unbroken_append, unbroken_intercalate (by decide)]
  exact ⟨fun whole => whole.1.2, fun each => ⟨⟨opened, each⟩, closed⟩⟩

@[simp]
theorem unbroken_inBrackets : Unbroken (inBrackets parts) ↔ ∀ part ∈ parts, Unbroken part := by
  have opened : Unbroken "[" := by decide
  have closed : Unbroken "]" := by decide
  rw [inBrackets, unbroken_append, unbroken_append, unbroken_intercalate (by decide)]
  exact ⟨fun whole => whole.1.2, fun each => ⟨⟨opened, each⟩, closed⟩⟩

/-- A text of characters that have what no end of a line has. -/
theorem unbroken_of_forall {P : Char → Prop} (each : ∀ c ∈ a.toList, P c) (feed : ¬ P '\n')
    (carriage : ¬ P '\r') : Unbroken a := by
  intro c member
  refine Bool.eq_false_iff.mpr fun ends => ?_
  have has := each c member
  simp only [endsCode, Bool.or_eq_true, beq_iff_eq] at ends
  rcases ends with rfl | rfl
  · exact feed has
  · exact carriage has

end

end ApiGraph.Backend.Source

namespace ApiGraph.Backend

/-- The lines of a file. -/
def File.lines (f : File) : List String := Source.linesOf f.text

theorem File.lines_source {f : File} {m : Source.Module} (content : f.content = .source m) :
    f.lines = Source.linesOf (unlines m.lines) := by
  rw [File.lines, File.text, content]

end ApiGraph.Backend
