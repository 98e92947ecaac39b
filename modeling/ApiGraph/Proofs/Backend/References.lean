import ApiGraph.Proofs.Backend.TextLines

/-!
# What code refers to

`references` reads a line of code for the names it refers to: its identifiers outside of literals,
but for the words of the language, property keys and the members behind a dot. The reader goes
character by character, so a line is read part by part (`Moves`, `Reads`, `Phrase`). A line that
begins as a comment is not read at all.
-/

namespace ApiGraph.Backend.Source

open Text

/-- A name that code refers to, and the member that is taken of it. -/
structure Reference where
  name : String
  member : Option String := none
deriving DecidableEq, Repr

def keywords : List String :=
  ["async", "await", "catch", "const", "default", "export", "false", "if", "new", "throw", "true",
   "try"]

/-- What the reader is inside of. -/
inductive Reading where
  | code
  | word (read : List Char)
  | dot (name : List Char)
  | member (name read : List Char)
  /-- A number, or a member of something without a name. -/
  | skipped
  | literal
  | escape
deriving DecidableEq, Repr

/-- A reference, unless its name is a keyword. -/
def named (name : List Char) (member : Option (List Char)) : List Reference :=
  if String.ofList name ∈ keywords then []
  else [⟨String.ofList name, member.map String.ofList⟩]

namespace Reading

/-- Behind a character that continues nothing. -/
def start (c : Char) : Reading :=
  if isIdentStart c then word [c]
  else if c = '\'' then literal
  else if c = '.' || c.isDigit then skipped
  else code

/-- Behind one more character. -/
def next (r : Reading) (c : Char) : Reading :=
  match r with
  | code => start c
  | word read =>
    if isIdentRest c then word (read ++ [c])
    else if c = '.' then dot read
    else if c = ':' then code
    else start c
  | dot name => if isIdentStart c then member name [c] else start c
  | member name read =>
    if isIdentRest c then member name (read ++ [c])
    else if c = '.' then skipped
    else start c
  | skipped => if isIdentRest c || c = '.' then skipped else start c
  | literal => if c = '\\' then escape else if c = '\'' then code else literal
  | escape => literal

/-- The reference that ends before a character. -/
def ending (r : Reading) (c : Char) : List Reference :=
  match r with
  | word read => if isIdentRest c || c = '.' || c = ':' then [] else named read none
  | dot name => if isIdentStart c then [] else named name none
  | member name read => if isIdentRest c then [] else named name (some read)
  | _ => []

/-- Behind some characters. -/
def after (r : Reading) (cs : List Char) : Reading := cs.foldl next r

/-- The references that end before or within some characters. -/
def collect (r : Reading) : List Char → List Reference
  | [] => []
  | c :: cs => r.ending c ++ (r.next c).collect cs

/-- The reader goes through a text from one place to another and finds references. -/
def Moves (r : Reading) (text : List Char) (rs : List Reference) (q : Reading) : Prop :=
  r.after text = q ∧ r.collect text = rs

instance (r : Reading) (text : List Char) (rs : List Reference) (q : Reading) :
    Decidable (r.Moves text rs q) := inferInstanceAs (Decidable (_ ∧ _))

theorem collect_append (r : Reading) (a b : List Char) :
    r.collect (a ++ b) = r.collect a ++ (r.after a).collect b := by
  induction a generalizing r with
  | nil => rfl
  | cons c a ih =>
    rw [List.cons_append, collect, ih, collect, List.append_assoc]
    rfl

variable {r q t : Reading} {a b : List Char} {rs qs : List Reference}

theorem Moves.nil : r.Moves [] [] r := ⟨rfl, rfl⟩

theorem Moves.trans (first : r.Moves a rs q) (second : q.Moves b qs t) :
    r.Moves (a ++ b) (rs ++ qs) t := by
  obtain ⟨rfl, rfl⟩ := first
  obtain ⟨rfl, rfl⟩ := second
  exact ⟨List.foldl_append, collect_append r a b⟩

theorem moves_one {c : Char} (next : r.next c = q) (ending : r.ending c = rs) :
    r.Moves [c] rs q := by
  subst next ending
  exact ⟨rfl, List.append_nil _⟩

/-- Characters that the reader only takes up. -/
theorem moves_taken (grow : List Char → Reading) {P : Char → Prop}
    (step : ∀ read c, P c → (grow read).next c = grow (read ++ [c]) ∧ (grow read).ending c = [])
    {cs : List Char} (each : ∀ c ∈ cs, P c) (read : List Char) :
    (grow read).Moves cs [] (grow (read ++ cs)) := by
  induction cs generalizing read with
  | nil =>
    rw [List.append_nil]
    exact Moves.nil
  | cons c cs ih =>
    obtain ⟨first, later⟩ := List.forall_mem_cons.mp each
    obtain ⟨next, silent⟩ := step read c first
    have rest := ih later (read ++ [c])
    rw [List.append_assoc] at rest
    exact (moves_one next silent).trans rest

end Reading

open Reading

def references (line : String) : List Reference :=
  if isComment line then [] else code.collect (line.toList ++ ['\n'])

def Module.references (m : Module) : List Reference :=
  (m.items.flatMap Item.lines).flatMap Source.references

/-! ### Reading part by part -/

/-- A text that is complete: behind it the reader is inside of nothing. -/
def Reads (text : String) (rs : List Reference) : Prop := code.Moves text.toList rs code

instance (text : String) (rs : List Reference) : Decidable (Reads text rs) :=
  inferInstanceAs (Decidable (code.Moves text.toList rs code))

/-- A character that ends a word, a number and a member. -/
def Stops (c : Char) : Prop := isIdentRest c = false ∧ c ≠ '.' ∧ c ≠ ':' ∧ start c = code

instance (c : Char) : Decidable (Stops c) := inferInstanceAs (Decidable (_ ∧ _))

/-- The first character of a text passes a test. -/
def Starts (test : Char → Bool) (text : String) : Prop := text.toList.head?.any test = true

instance (test : Char → Bool) (text : String) : Decidable (Starts test text) :=
  inferInstanceAs (Decidable (_ = true))

theorem starts_iff {test : Char → Bool} {text : String} :
    Starts test text ↔ ∃ c cs, text.toList = c :: cs ∧ test c = true := by
  unfold Starts
  cases text.toList <;> simp

theorem Starts.append {test : Char → Bool} {text : String} (starts : Starts test text)
    (more : String) : Starts test (text ++ more) := by
  obtain ⟨c, cs, form, passes⟩ := starts_iff.mp starts
  refine starts_iff.mpr ⟨c, cs ++ more.toList, ?_, passes⟩
  rw [String.toList_append, form, List.cons_append]

/-- A text that begins no comment, whatever follows. -/
abbrev Begins (text : String) : Prop := Starts (· ≠ '/') text

theorem Begins.not_comment {text : String} (begins : Begins text) : isComment text = false := by
  obtain ⟨c, cs, form, notSlash⟩ := starts_iff.mp begins
  refine isComment_of_head ?_
  rw [form]
  simpa using notSlash

/-- A text that is complete once a stop follows. -/
def Phrase (text : String) (rs : List Reference) : Prop :=
  ∀ c, Stops c → code.Moves (text.toList ++ [c]) rs code

section

variable {a b : String} {rs qs : List Reference}

theorem references_of_reads (reads : Reads a rs) (begins : Begins a) : references a = rs := by
  have ends : code.Moves ['\n'] [] code := by decide
  have line := reads.trans ends
  rw [List.append_nil] at line
  rw [references, begins.not_comment]
  exact line.2

theorem Reads.append (left : Reads a rs) (right : Reads b qs) : Reads (a ++ b) (rs ++ qs) := by
  have both := left.trans right
  rw [← String.toList_append] at both
  exact both

theorem Reads.then (left : Reads a rs) (right : Phrase b qs) : Phrase (a ++ b) (rs ++ qs) := by
  intro c stops
  have both := left.trans (right c stops)
  rw [← List.append_assoc, ← String.toList_append] at both
  exact both

theorem Reads.phrase (reads : Reads a rs) : Phrase a rs := by
  intro c stops
  have one : code.Moves [c] [] code := moves_one stops.2.2.2 rfl
  have stopped := reads.trans one
  rw [List.append_nil] at stopped
  exact stopped

theorem Phrase.then (left : Phrase a rs) (right : Reads b qs)
    (stopped : Starts (Stops ·) b) : Reads (a ++ b) (rs ++ qs) := by
  obtain ⟨c, cs, form, stop⟩ := starts_iff.mp stopped
  have stops : Stops c := of_decide_eq_true stop
  have begun : code.next c = code := stops.2.2.2
  have rest : code.Moves cs qs code := by
    obtain ⟨closed, read⟩ := right
    rw [form] at closed read
    rw [after, List.foldl_cons, begun] at closed
    rw [collect, begun] at read
    exact ⟨closed, read⟩
  have both := (left c stops).trans rest
  rw [List.append_assoc, List.singleton_append, ← form, ← String.toList_append] at both
  exact both

/-- Parts without references, between commas. -/
theorem phrase_intercalate {parts : List String} (each : ∀ part ∈ parts, Phrase part []) :
    Phrase (", ".intercalate parts) [] := by
  induction parts with
  | nil => exact Reads.phrase Moves.nil
  | cons part rest ih =>
    obtain ⟨first, later⟩ := List.forall_mem_cons.mp each
    cases rest with
    | nil =>
      rw [String.intercalate_singleton]
      exact first
    | cons next rest =>
      have comma : Reads ", " [] := by decide
      rw [String.intercalate_cons_of_ne_nil (List.cons_ne_nil _ _)]
      exact (first.then comma (by decide)).then (ih later)

theorem reads_inBraces {parts : List String} (each : ∀ part ∈ parts, Phrase part []) :
    Reads (inBraces parts) [] := by
  have opened : Reads "\x7b " [] := by decide
  have closed : Reads " \x7d" [] := by decide
  exact (opened.then (phrase_intercalate each)).then closed (by decide)

theorem reads_inBrackets {parts : List String} (each : ∀ part ∈ parts, Phrase part []) :
    Reads (inBrackets parts) [] := by
  have opened : Reads "[" [] := by decide
  have closed : Reads "]" [] := by decide
  exact (opened.then (phrase_intercalate each)).then closed (by decide)

end

theorem moves_quoteChar (c : Char) : literal.Moves (quoteChar c) [] literal := by
  unfold quoteChar
  split
  · decide
  · decide
  · decide
  · decide
  · rename_i notEscape notQuote _ _
    have next : literal.next c = literal := by
      show (if c = '\\' then escape else if c = '\'' then code else literal) = literal
      rw [if_neg notEscape, if_neg notQuote]
    exact moves_one next rfl

theorem reads_quote (s : String) : Reads (quote s) [] := by
  have inside : ∀ cs : List Char, literal.Moves (cs.flatMap quoteChar) [] literal := by
    intro cs
    induction cs with
    | nil => exact Moves.nil
    | cons c cs ih =>
      rw [List.flatMap_cons]
      exact (moves_quoteChar c).trans ih
  have opened : code.Moves ['\''] [] literal := by decide
  have closed : literal.Moves ['\''] [] code := by decide
  have chars : (quote s).toList = ['\''] ++ (s.toList.flatMap quoteChar ++ ['\'']) :=
    String.toList_ofList
  rw [Reads, chars]
  exact opened.trans ((inside s.toList).trans closed)

theorem plain_cons {w : List Char} (plain : isPlainIdent w = true) :
    ∃ c cs, w = c :: cs ∧ isIdentStart c = true ∧ ∀ d ∈ cs, isIdentRest d = true := by
  cases w with
  | nil => exact absurd plain Bool.false_ne_true
  | cons c cs =>
    simp only [isPlainIdent, Bool.and_eq_true, List.all_eq_true] at plain
    exact ⟨c, cs, rfl, plain⟩

theorem begins_word {w : String} (plain : isPlainIdent w.toList = true) : Begins w := by
  obtain ⟨c, cs, form, first, -⟩ := plain_cons plain
  refine starts_iff.mpr ⟨c, cs, form, decide_eq_true fun slash => ?_⟩
  rw [slash] at first
  exact absurd first (by decide)

theorem moves_word {w : List Char} (plain : isPlainIdent w = true) :
    code.Moves w [] (word w) := by
  obtain ⟨c, cs, rfl, first, later⟩ := plain_cons plain
  have begun : code.Moves [c] [] (word [c]) := moves_one (if_pos first) rfl
  exact begun.trans (moves_taken word
    (fun _ d rest => ⟨if_pos rest, if_pos (by simp [rest])⟩) later [c])

theorem moves_member {w : List Char} (plain : isPlainIdent w = true) (name : List Char) :
    (dot name).Moves w [] (member name w) := by
  obtain ⟨c, cs, rfl, first, later⟩ := plain_cons plain
  have begun : (dot name).Moves [c] [] (member name [c]) :=
    moves_one (if_pos first) (if_pos first)
  exact begun.trans (moves_taken (member name)
    (fun _ d rest => ⟨if_pos rest, if_pos rest⟩) later [c])

theorem moves_skipped {cs : List Char} (each : ∀ c ∈ cs, (isIdentRest c || c = '.') = true) :
    skipped.Moves cs [] skipped :=
  moves_taken (fun _ => skipped) (fun _ _ rest => ⟨if_pos rest, rfl⟩) each []

theorem skipped_stop {c : Char} (stops : Stops c) : skipped.Moves [c] [] code := by
  refine moves_one ?_ rfl
  simp [Reading.next, stops.1, stops.2.1, stops.2.2.2]

theorem named_of_not_keyword {w : String} (name : w ∉ keywords) (m : Option (List Char)) :
    named w.toList m = [⟨w, m.map String.ofList⟩] := by
  rw [named, String.ofList_toList, if_neg name]

theorem phrase_word {w : String} (plain : isPlainIdent w.toList = true) :
    Phrase w (named w.toList none) := by
  intro c stops
  obtain ⟨notRest, notDot, notColon, starts⟩ := stops
  have ends : (word w.toList).Moves [c] (named w.toList none) code := by
    refine moves_one ?_ ?_
    · simp [Reading.next, notRest, notDot, notColon, starts]
    · simp [Reading.ending, notRest, notDot, notColon]
  exact (moves_word plain).trans ends

theorem phrase_name {w : String} (plain : isPlainIdent w.toList = true) (name : w ∉ keywords) :
    Phrase w [⟨w, none⟩] := named_of_not_keyword name none ▸ phrase_word plain

theorem phrase_member {w m : String} (plain : isPlainIdent w.toList = true) (name : w ∉ keywords)
    (plainMember : isPlainIdent m.toList = true) : Phrase (w ++ "." ++ m) [⟨w, some m⟩] := by
  intro c stops
  obtain ⟨notRest, notDot, -, starts⟩ := stops
  have dotted : (word w.toList).Moves ['.'] [] (dot w.toList) := ⟨rfl, rfl⟩
  have ends : (member w.toList m.toList).Moves [c] [⟨w, some m⟩] code := by
    refine moves_one ?_ ?_
    · simp [Reading.next, notRest, notDot, starts]
    · simpa [Reading.ending, notRest] using named_of_not_keyword name (some m.toList)
  have whole := (moves_word plain).trans
    (dotted.trans ((moves_member plainMember w.toList).trans ends))
  simpa [String.toList_append] using whole

/-- A character of a number. -/
def Numeric (c : Char) : Prop := c.isDigit = true ∨ c = '.' ∨ c = '-'

theorem next_numeric {c : Char} (numeric : Numeric c) :
    (code.next c = code ∨ code.next c = skipped) ∧
      (skipped.next c = code ∨ skipped.next c = skipped) := by
  rcases numeric with digit | rfl | rfl
  · have alnum : isAsciiAlnum c = true := by simp [isAsciiAlnum, digit]
    exact of_ascii (P := fun c => c.isDigit = true →
      (code.next c = code ∨ code.next c = skipped) ∧
        (skipped.next c = code ∨ skipped.next c = skipped)) (by decide) alnum digit
  · decide
  · decide

theorem phrase_number {text : String} (numeric : ∀ c ∈ text.toList, Numeric c) :
    Phrase text [] := by
  have stays : ∀ cs : List Char, (∀ c ∈ cs, Numeric c) → ∀ r, r = code ∨ r = skipped →
      ∃ q, (q = code ∨ q = skipped) ∧ r.Moves cs [] q := by
    intro cs
    induction cs with
    | nil => exact fun _ r place => ⟨r, place, Moves.nil⟩
    | cons c cs ih =>
      intro numeric r place
      obtain ⟨first, later⟩ := List.forall_mem_cons.mp numeric
      have next : r.next c = code ∨ r.next c = skipped := by
        rcases place with rfl | rfl
        · exact (next_numeric first).1
        · exact (next_numeric first).2
      have silent : r.ending c = [] := by rcases place with rfl | rfl <;> rfl
      obtain ⟨q, there, moves⟩ := ih later _ next
      exact ⟨q, there, (moves_one rfl silent).trans moves⟩
  intro c stops
  obtain ⟨q, place, moves⟩ := stays text.toList numeric code (Or.inl rfl)
  have ends : q.Moves [c] [] code := by
    rcases place with rfl | rfl
    · exact moves_one stops.2.2.2 rfl
    · exact skipped_stop stops
  exact moves.trans ends

end ApiGraph.Backend.Source
