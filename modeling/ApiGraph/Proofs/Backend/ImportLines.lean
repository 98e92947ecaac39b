import Mathlib.Data.List.Infix
import ApiGraph.Proofs.Backend.TextLines
import ApiGraph.Proofs.Text.Value

/-!
# Imports and exports in texts

What the text of a module imports and exports, read off its lines. The line of an import is read
back (`readImport?_write`), so the text of a module imports what the module does
(`importsIn_text`), and exports at least that (`mem_exportsIn`).
-/

namespace ApiGraph.Backend.Source

open Text

/-- A run of letters, digits, underscores and dollar signs. -/
def word? (cs : List Char) : Option (String × List Char) :=
  if cs.takeWhile isIdentRest = [] then none
  else some (String.ofList (cs.takeWhile isIdentRest), cs.dropWhile isIdentRest)

def importedName? (cs : List Char) : Option (ImportedName × List Char) :=
  match (after? "type " cs).bind word? with
  | some (name, rest) => some (⟨name, true⟩, rest)
  | none => (word? cs).map fun p => (⟨p.1, false⟩, p.2)

def clause? (cs : List Char) : Option (Clause × List Char) :=
  match after? "type \x7b" cs, after? "\x7b" cs with
  | some rest, _ => (parts? word? '\x7d' rest.length rest).map fun p => (.types p.1, p.2)
  | none, some rest => (parts? importedName? '\x7d' rest.length rest).map fun p => (.names p.1, p.2)
  | none, none => (word? cs).map fun p => (.default p.1, p.2)

/-- The source of an import at the end of its line. -/
def source? (cs : List Char) : Option String :=
  match unquote? cs with
  | some (source, [';']) => some (String.ofList source)
  | _ => none

def readImport? (line : String) : Option Import := do
  let cs ← after? "import " line.toList
  match source? cs with
  | some source => return ⟨.effect, source⟩
  | none =>
    let (clause, rest) ← clause? cs
    return ⟨clause, ← source? (← after? " from " rest)⟩

def importsIn (lines : List String) : List Import := lines.filterMap readImport?

/-- What stands before the name of a declaration. -/
def declarators : List String :=
  ["async function ", "class ", "const ", "function ", "interface ", "type "]

/-- The name under which others import what a line exports. -/
def export? (line : String) : Option String := do
  let cs ← after? "export " line.toList
  match after? "default " cs with
  | some _ => return "default"
  | none =>
    let rest ← declarators.findSome? fun keyword => after? keyword cs
    return (← word? rest).1

def exportsIn (lines : List String) : List String := lines.filterMap export?

/-- A name as imports and declarations hold it. -/
def IsName (name : String) : Prop :=
  name ≠ "" ∧ name ≠ "type" ∧ ∀ c ∈ name.toList, isIdentRest c = true

instance (name : String) : Decidable (IsName name) :=
  have := List.decidableBAll (isIdentRest · = true) name.toList
  inferInstanceAs (Decidable (_ ∧ _ ∧ _))

variable {name : String}

theorem IsName.unbroken (named : IsName name) : Unbroken name :=
  unbroken_of_forall named.2.2 (by decide) (by decide)

theorem word?_append (named : IsName name) {rest : List Char}
    (stops : ∀ c ∈ rest.head?, isIdentRest c = false) :
    word? (name.toList ++ rest) = some (name, rest) := by
  obtain ⟨taken, left⟩ := span_append named.2.2 stops
  rw [word?, taken, left, if_neg (mt String.toList_eq_nil_iff.mp named.1), String.ofList_toList]

theorem identRest_of_stops {rest : List Char} (stops : Text.Stops rest) :
    ∀ c ∈ rest.head?, isIdentRest c = false := by
  intro c member
  have other := stops c member
  simp only [isWordChar, Bool.or_eq_false_iff] at other
  exact other.1.1.1

theorem exists_letter (named : IsName name) :
    ∃ c cs, name.toList = c :: cs ∧ isIdentRest c = true := by
  obtain ⟨c, cs, form⟩ := List.exists_cons_of_ne_nil (mt String.toList_eq_nil_iff.mp named.1)
  exact ⟨c, cs, form, named.2.2 c (form ▸ List.mem_cons_self)⟩

/-- A name begins with none of the marks around names. -/
theorem head_of_name (named : IsName name) {d : Char} (other : isIdentRest d = false)
    (rest : List Char) : (name.toList ++ rest).head? ≠ some d := by
  obtain ⟨c, cs, form, letter⟩ := exists_letter named
  rw [form]
  rintro ⟨⟩
  exact absurd letter (by simp [other])

theorem isBetween_of_name (named : IsName name) : name.toList.head?.all (!isBetween ·) = true := by
  obtain ⟨c, cs, form, letter⟩ := exists_letter named
  have wordChar : isWordChar c = true := by simp [isWordChar, letter]
  simp [form, not_isBetween wordChar]

theorem spelled_word_name (named : IsName name) : Spelled (fun _ => word?) name.toList name where
  begins := isBetween_of_name named
  nonempty := mt String.toList_eq_nil_iff.mp named.1
  reads _ _ _ stops := word?_append named (identRest_of_stops stops)

/-- A name that is followed by no letter is not taken for another word. -/
theorem after?_of_word {key word : String} {k : List Char} (marks : key.toList = word.toList ++ ' ' :: k)
    (solid : ∀ c ∈ word.toList, isIdentRest c = true)
    (letters : ∀ c ∈ name.toList, isIdentRest c = true) (other : name ≠ word) {rest : List Char}
    (stops : ∀ c ∈ rest.head?, isIdentRest c = false) : after? key (name.toList ++ rest) = none := by
  refine Option.eq_none_iff_forall_ne_some.mpr fun more found => other ?_
  obtain ⟨front, form, same⟩ := List.dropPrefix?_eq_some_iff.mp found
  have whole : name.toList ++ rest = word.toList ++ ' ' :: (k ++ more) := by
    rw [form, eq_of_beq same, marks, List.append_assoc]
    rfl
  have left := (span_append letters stops).1
  rw [whole, (span_append solid (by rintro c ⟨⟩; decide)).1] at left
  exact (String.toList_inj.mp left).symm

theorem after?_type (named : IsName name) {key : String} {k : List Char}
    (marks : key.toList = "type ".toList ++ k) {rest : List Char}
    (stops : ∀ c ∈ rest.head?, isIdentRest c = false) : after? key (name.toList ++ rest) = none :=
  after?_of_word (marks : _ = "type".toList ++ ' ' :: k) (Text.forall_of_all (by decide)) named.2.2 named.2.1 stops

theorem spelled_importedName {n : ImportedName} (named : IsName n.name) :
    Spelled (fun _ => importedName?) n.write.toList n := by
  obtain ⟨name, isType⟩ := n
  cases isType with
  | true =>
    have text : (ImportedName.write ⟨name, true⟩).toList = "type ".toList ++ name.toList := by
      rw [ImportedName.write, if_pos rfl, String.toList_append]
    refine ⟨by rw [text]; rfl, by rw [text]; exact List.cons_ne_nil _ _, fun _ rest _ stops => ?_⟩
    rw [text, List.append_assoc]
    simp only [importedName?, after?_append, Option.bind_some,
      word?_append named (identRest_of_stops stops)]
  | false =>
    refine ⟨isBetween_of_name named, mt String.toList_eq_nil_iff.mp named.1,
      fun _ rest _ stops => ?_⟩
    show importedName? (name.toList ++ rest) = _
    have solid := identRest_of_stops stops
    have unmarked : after? "type " (name.toList ++ rest) = none :=
      after?_type named (k := []) rfl solid
    simp only [importedName?, unmarked, Option.bind_none, word?_append named solid,
      Option.map_some]

/-! ### Imports -/

/-- The names of an import can be read. -/
def Import.Legible (i : Import) : Prop := ∀ name ∈ i.clause.bindings, IsName name

instance (i : Import) : Decidable i.Legible := inferInstanceAs (Decidable (∀ name ∈ _, _))

theorem source?_quote (source : String) : source? ((quote source).toList ++ [';']) = some source := by
  rw [source?, unquote_quote]
  simp

theorem source?_of_head {cs : List Char} (head : cs.head? ≠ some '\'') : source? cs = none := by
  cases cs with
  | nil => rfl
  | cons c cs =>
    have other : c ≠ '\'' := fun same => head (congrArg some same)
    have unread : unquote? (c :: cs) = none := by
      rw [unquote?]
      rintro _ same
      exact other (List.cons.inj same).1
    rw [source?, unread]

/-- The text of a clause is read up to the source. -/
theorem readImport?_clause (text : String) {clause : Clause}
    (head : ∀ rest, (text.toList ++ rest).head? ≠ some '\'')
    (reads : ∀ rest, clause? (text.toList ++ (" from ".toList ++ rest)) =
      some (clause, " from ".toList ++ rest)) (source : String) :
    readImport? ("import " ++ text ++ " from " ++ (quote source ++ ";")) = some ⟨clause, source⟩ := by
  have chars : ("import " ++ text ++ " from " ++ (quote source ++ ";")).toList =
      "import ".toList ++ (text.toList ++ (" from ".toList ++ ((quote source).toList ++ [';']))) := by
    simp
  have notSource (rest : List Char) : source? (text.toList ++ rest) = none :=
    source?_of_head (head rest)
  rw [readImport?, chars, after?_append, Option.bind_eq_bind, Option.bind_some]
  simp only [notSource, reads, after?_append, source?_quote, Option.bind_eq_bind, Option.bind_some,
    Option.pure_def]

/-- Names between braces. -/
theorem parts?_inBraces {α : Type} {part? : List Char → Option (α × List Char)} {write : α → String}
    {l : List α} (each : ∀ a ∈ l, Spelled (fun _ => part?) (write a).toList a) (rest : List Char) :
    ∃ inner, (inBraces (l.map write)).toList ++ rest = '\x7b' :: inner ∧
      parts? part? '\x7d' inner.length inner = some (l, rest) := by
  refine ⟨' ' :: ((", ".intercalate (l.map write)).toList ++ ' ' :: '\x7d' :: rest),
    by simp [inBraces], ?_⟩
  have spelled : List.Forall₂ (fun text a => Spelled (fun _ => part?) text.toList a)
      (l.map write) l := by
    rw [List.forall₂_map_left_iff, List.forall₂_same]
    exact each
  rw [parts?_blank]
  refine parts?_joined spelled (by decide) (by rw [skip_blank, skip_cons (by decide)])
    (stops_cons (by decide) _) (Nat.lt_succ_self _) ?_
  rw [List.length_cons, List.length_append, List.length_cons]
  omega

theorem clause?_default (named : IsName name) {rest : List Char}
    (stops : ∀ c ∈ rest.head?, isIdentRest c = false) :
    clause? (name.toList ++ rest) = some (.default name, rest) := by
  have notTypes : after? "type \x7b" (name.toList ++ rest) = none := after?_type named rfl stops
  have notNames : after? "\x7b" (name.toList ++ rest) = none :=
    after?_of_head (k := '\x7b') (by decide) (head_of_name named (by decide) rest)
  simp only [clause?, notTypes, notNames, word?_append named stops, Option.map_some]

theorem clause?_names {l : List ImportedName} (named : ∀ n ∈ l, IsName n.name) (rest : List Char) :
    clause? ((inBraces (l.map ImportedName.write)).toList ++ rest) = some (.names l, rest) := by
  have each : ∀ n ∈ l, Spelled (fun _ => importedName?) n.write.toList n := fun n member =>
    spelled_importedName (named n member)
  obtain ⟨inner, form, read⟩ := parts?_inBraces each rest
  have notTypes : after? "type \x7b" ('\x7b' :: inner) = none := rfl
  have opens : after? "\x7b" ('\x7b' :: inner) = some inner := after?_append "\x7b" inner
  rw [form]
  simp only [clause?, notTypes, opens, read, Option.map_some]

theorem clause?_types {l : List String} (named : ∀ name ∈ l, IsName name) (rest : List Char) :
    clause? (("type " ++ inBraces l).toList ++ rest) = some (.types l, rest) := by
  have each : ∀ name ∈ l, Spelled (fun _ => word?) (id name).toList name := fun name member =>
    spelled_word_name (named name member)
  obtain ⟨inner, form, read⟩ := parts?_inBraces each rest
  rw [List.map_id] at form
  have opens : after? "type \x7b" ("type ".toList ++ '\x7b' :: inner) = some inner :=
    after?_append "type \x7b" inner
  rw [String.toList_append, List.append_assoc, form]
  simp only [clause?, opens, read, Option.map_some]

/-- What an import binds, as it is written before the source. -/
def Clause.write : Clause → String
  | .effect => ""
  | .default name => name
  | .names l => inBraces (l.map (·.write))
  | .types l => "type " ++ inBraces l

theorem write_effect (source : String) :
    Import.write ⟨.effect, source⟩ = "import " ++ (quote source ++ ";") := rfl

theorem write_clause {clause : Clause} (binds : clause ≠ .effect) (source : String) :
    Import.write ⟨clause, source⟩ =
      "import " ++ clause.write ++ " from " ++ (quote source ++ ";") := by
  cases clause with
  | effect => exact absurd rfl binds
  | default name => rfl
  | names l => rfl
  | types l =>
    have opens : "import type " = "import " ++ "type " := by decide
    simp only [Import.write, Clause.write, opens, String.append_assoc]

/-- A written import is read back. -/
theorem readImport?_write {i : Import} (legible : i.Legible) : readImport? i.write = some i := by
  obtain ⟨clause, source⟩ := i
  cases clause with
  | effect =>
    have chars : ("import " ++ (quote source ++ ";")).toList =
        "import ".toList ++ ((quote source).toList ++ [';']) := by simp
    rw [write_effect, readImport?, chars, after?_append, Option.bind_eq_bind, Option.bind_some,
      source?_quote]
    rfl
  | default name =>
    have named : IsName name := legible name List.mem_cons_self
    rw [write_clause (by simp : Clause.default name ≠ .effect)]
    refine readImport?_clause name (head_of_name named (by decide)) (fun rest => ?_) source
    exact clause?_default named (by rintro c ⟨⟩; decide)
  | names l =>
    have named : ∀ n ∈ l, IsName n.name := fun n member =>
      legible n.name (List.mem_map_of_mem member)
    rw [write_clause (by simp : Clause.names l ≠ .effect)]
    exact readImport?_clause _ (by simp [inBraces])
      (fun rest => clause?_names named _) source
  | types l =>
    have named : ∀ name ∈ l, IsName name := legible
    rw [write_clause (by simp : Clause.types l ≠ .effect)]
    exact readImport?_clause _ (by simp) (fun rest => clause?_types named _) source

theorem unbroken_clause {clause : Clause} (named : ∀ name ∈ clause.bindings, IsName name) :
    Unbroken clause.write := by
  cases clause with
  | effect => exact (by decide : Unbroken "")
  | default name => exact (named name List.mem_cons_self).unbroken
  | names l =>
    refine unbroken_inBraces.mpr (List.forall_mem_map.mpr fun n member => ?_)
    have name := (named n.name (List.mem_map_of_mem member)).unbroken
    unfold ImportedName.write
    split
    · exact unbroken_append.mpr ⟨by decide, name⟩
    · exact name
  | types l =>
    have each : ∀ name ∈ l, Unbroken name := fun name member => (named name member).unbroken
    exact unbroken_append.mpr ⟨by decide, unbroken_inBraces.mpr each⟩

theorem linesOf_import {i : Import} (legible : i.Legible) : linesOf i.write = [i.write] := by
  obtain ⟨clause, path⟩ := i
  have source : Unbroken (quote path ++ ";") := by simp +decide
  by_cases binds : clause = .effect
  · subst binds
    have whole : Unbroken ("import " ++ (quote path ++ ";")) :=
      unbroken_append.mpr ⟨by decide, source⟩
    exact linesOf_of_unbroken whole (isComment_append (by decide) _)
  · have whole : Unbroken ("import " ++ (clause.write ++ (" from " ++ (quote path ++ ";")))) :=
      unbroken_append.mpr ⟨by decide, unbroken_append.mpr ⟨unbroken_clause legible,
        unbroken_append.mpr ⟨by decide, source⟩⟩⟩
    have text : Import.write ⟨clause, path⟩ =
        "import " ++ (clause.write ++ (" from " ++ (quote path ++ ";"))) := by
      simp only [write_clause binds, String.append_assoc]
    rw [text]
    exact linesOf_of_unbroken whole (isComment_append (by decide) _)

/-! ### Modules -/

/-- No line of a text imports anything. -/
def ImportFree (text : String) : Prop := importsIn (linesOf text) = []

instance (text : String) : Decidable (ImportFree text) := inferInstanceAs (Decidable (_ = _))

theorem readImport?_of_head {line : String} (head : line.toList.head? ≠ some 'i') :
    readImport? line = none := by
  rw [readImport?, after?_of_head (by decide) head]
  rfl

theorem importFree_of_silent {line : String} (whole : linesOf line = [line])
    (silent : readImport? line = none) : ImportFree line := by
  rw [ImportFree, whole, importsIn, List.filterMap_cons_none silent, List.filterMap_nil]

theorem importFree_of_whole {line : String} (whole : linesOf line = [line])
    (head : line.toList.head? ≠ some 'i') : ImportFree line :=
  importFree_of_silent whole (readImport?_of_head head)

theorem importFree_indent {lines : List String} (unbroken : ∀ line ∈ lines, Unbroken line) :
    ∀ line ∈ indent lines, ImportFree line := by
  refine List.forall_mem_map.mpr fun line member => ?_
  refine importFree_of_whole (linesOf_indented (unbroken line member)) ?_
  rw [String.toList_append]
  simp

/-- The characters of ASCII that are shown. -/
def isShown (c : Char) : Bool := Nat.ble 32 c.toNat && Nat.ble c.toNat 126

theorem not_lineEnd_of_shown {c : Char} (shown : isShown c = true) : ¬ IsLineEnd c := by
  intro ends
  simp only [IsLineEnd, List.mem_cons, List.not_mem_nil, or_false] at ends
  rcases ends with rfl | rfl | rfl | rfl <;> exact absurd shown (by decide)

theorem unbroken_literal {cs : List Char} (shown : cs.all isShown = true) :
    Unbroken (String.ofList cs) := by
  refine unbroken_of_forall (P := fun c => isShown c = true) (fun c member => ?_) (by decide)
    (by decide)
  rw [String.toList_ofList] at member
  exact List.all_eq_true.mp shown c member

/-- A literal is checked by its characters, since to evaluate the text would be to decode it. -/
theorem linesOf_literal {cs : List Char} (shown : cs.all isShown = true) :
    linesOf (String.ofList cs) = [String.ofList cs] := by
  refine linesOf_of_closed fun c member => ?_
  rw [String.toList_ofList] at member
  exact not_lineEnd_of_shown (List.all_eq_true.mp shown c member)

theorem importFree_literal {cs : List Char}
    (shown : (cs.all isShown && cs.head?.all (· != 'i')) = true) : ImportFree (String.ofList cs) := by
  rw [Bool.and_eq_true] at shown
  refine importFree_of_whole (linesOf_literal shown.1) fun first => ?_
  rw [String.toList_ofList] at first
  simp [first] at shown

theorem linesOf_generated : ∀ line ∈ generated, linesOf line = [line] :=
  List.forall_mem_singleton.mpr (linesOf_literal (by decide))

theorem generated_free : ∀ line ∈ generated, ImportFree line :=
  List.forall_mem_singleton.mpr (importFree_literal (by decide))

/-- The first line of a declaration. -/
def Declaration.first (d : Declaration) : String :=
  (if d.exported then "export " else "") ++ d.keyword ++ " " ++ d.name ++ d.rest

/-- The first line of a declaration tells its name, and no line imports anything. -/
structure Declaration.Legible (d : Declaration) : Prop where
  keyword : d.keyword ++ " " ∈ declarators
  named : IsName d.name
  stops : ∀ c ∈ d.rest.toList.head?, isIdentRest c = false
  unbroken : Unbroken d.rest
  more : ∀ line ∈ d.more, ImportFree line

instance (d : Declaration) : Decidable d.Legible :=
  have := Option.decidableForallMem (p := (isIdentRest · = false)) d.rest.toList.head?
  decidable_of_iff (d.keyword ++ " " ∈ declarators ∧ IsName d.name ∧
      (∀ c ∈ d.rest.toList.head?, isIdentRest c = false) ∧ Unbroken d.rest ∧
      ∀ line ∈ d.more, ImportFree line)
    ⟨fun ⟨keyword, named, stops, unbroken, more⟩ => ⟨keyword, named, stops, unbroken, more⟩,
      fun ⟨keyword, named, stops, unbroken, more⟩ => ⟨keyword, named, stops, unbroken, more⟩⟩

theorem Declaration.legible_literal {d : Declaration} {cs : List Char}
    (rest : d.rest = String.ofList cs)
    (shown : (cs.all isShown && cs.head?.all (!isIdentRest ·)) = true)
    (keyword : d.keyword ++ " " ∈ declarators) (named : IsName d.name)
    (more : ∀ line ∈ d.more, ImportFree line) : d.Legible := by
  rw [Bool.and_eq_true] at shown
  refine ⟨keyword, named, fun c first => ?_, rest ▸ unbroken_literal shown.1, more⟩
  rw [rest, String.toList_ofList] at first
  simpa [Option.mem_def.mp first] using shown.2

theorem Declaration.legible_ofBlock {exported : Bool} {keyword name rest tail : String}
    {body : List String} (key : keyword ++ " " ∈ declarators) (named : IsName name)
    (stops : (rest ++ "\x7b").toList.head?.all (!isIdentRest ·) = true) (unbroken : Unbroken rest)
    (each : ∀ line ∈ body, Unbroken line) (closes : Unbroken tail) :
    (Declaration.ofBlock exported keyword name rest body tail).Legible where
  keyword := key
  named := named
  stops c first := by
    have first : (rest ++ "\x7b").toList.head? = some c := first
    rw [first] at stops
    simpa using stops
  unbroken := unbroken_append.mpr ⟨unbroken, by decide⟩
  more := by
    refine List.forall_mem_append.mpr ⟨importFree_indent each, List.forall_mem_singleton.mpr ?_⟩
    have line : Unbroken ("\x7d" ++ tail) := unbroken_append.mpr ⟨by decide, closes⟩
    refine importFree_of_whole (linesOf_of_unbroken line (isComment_append (by decide) _)) ?_
    simp

/-- What an item exports can be read, and it imports nothing. -/
def Item.Legible : Item → Prop
  | gap => True
  -- the text of a constant may be one of several lines
  | declare d => d.Legible ∨
    d.exported = false ∧ d.keyword = "const" ∧ ∀ line ∈ d.lines, ImportFree line
  | code lines => ∀ line ∈ lines, ImportFree line
  | exportDefault name => Unbroken name

instance (item : Item) : Decidable item.Legible := by
  cases item <;> unfold Item.Legible <;> infer_instance

/-- What a module imports and exports can be read off its text. -/
structure Module.Legible (m : Module) : Prop where
  header : ∀ line ∈ m.comment, ImportFree line
  imports : ∀ i ∈ m.imports, i.Legible
  items : ∀ item ∈ m.items, item.Legible

instance (m : Module) : Decidable m.Legible :=
  decidable_of_iff ((∀ line ∈ m.comment, ImportFree line) ∧ (∀ i ∈ m.imports, i.Legible) ∧
      ∀ item ∈ m.items, item.Legible)
    ⟨fun ⟨header, imports, items⟩ => ⟨header, imports, items⟩,
      fun ⟨header, imports, items⟩ => ⟨header, imports, items⟩⟩

/-- A key that neither begins a text nor is begun by it does not begin what the text begins. -/
theorem after?_of_apart {a b : String} (apart : ¬ a.toList <+: b.toList ∧ ¬ b.toList <+: a.toList)
    (cs : List Char) : after? a (b.toList ++ cs) = none := by
  refine Option.eq_none_iff_forall_ne_some.mpr fun rest found => ?_
  obtain ⟨front, form, same⟩ := List.dropPrefix?_eq_some_iff.mp found
  have begins : a.toList <+: b.toList ++ cs := ⟨rest, by rw [form, eq_of_beq same]⟩
  exact (List.prefix_or_prefix_of_prefix begins (List.prefix_append _ _)).elim apart.1 apart.2

theorem Declaration.first_eq (d : Declaration) : d.first =
    (if d.exported then "export " else "") ++ ((d.keyword ++ " ") ++ (d.name ++ d.rest)) := by
  simp only [Declaration.first, String.append_assoc]

section

variable {d : Declaration} (legible : d.Legible)
include legible

theorem Declaration.Legible.whole : linesOf d.first = [d.first] := by
  have keyword := (by decide : ∀ k ∈ declarators, Unbroken k ∧
    k.toList.head?.any (· ≠ '/') = true) _ legible.keyword
  have line : Unbroken ((d.keyword ++ " ") ++ (d.name ++ d.rest)) :=
    unbroken_append.mpr ⟨keyword.1, unbroken_append.mpr ⟨legible.named.unbroken, legible.unbroken⟩⟩
  rw [d.first_eq]
  split
  · exact linesOf_of_unbroken (unbroken_append.mpr ⟨by decide, line⟩) (isComment_append (by decide) _)
  · rw [String.empty_append]
    exact linesOf_of_unbroken line (isComment_append keyword.2 _)

theorem Declaration.Legible.silent : readImport? d.first = none := by
  have apart := (by decide : ∀ k ∈ declarators, ¬ "import ".toList <+: k.toList ∧
    ¬ k.toList <+: "import ".toList) _ legible.keyword
  rw [d.first_eq]
  split
  · exact readImport?_of_head (by simp)
  · rw [String.empty_append, readImport?, String.toList_append, after?_of_apart apart]
    rfl

theorem Declaration.Legible.free : ∀ line ∈ d.lines, ImportFree line :=
  List.forall_mem_cons.mpr ⟨importFree_of_silent legible.whole legible.silent, legible.more⟩

end

theorem linesOf_exportDefault {name : String} (unbroken : Unbroken name) :
    linesOf ("export default " ++ name ++ ";") = ["export default " ++ name ++ ";"] := by
  have line : Unbroken ("export default " ++ (name ++ ";")) := by simp +decide [unbroken]
  rw [String.append_assoc]
  exact linesOf_of_unbroken line (isComment_append (by decide) _)

theorem readImport?_exportDefault (name : String) : readImport? ("export default " ++ name ++ ";") = none :=
  readImport?_of_head (by simp)

theorem Item.Legible.free {item : Item} (legible : item.Legible) :
    ∀ line ∈ item.lines, ImportFree line := by
  cases item with
  | gap => decide
  | declare d => exact legible.elim Declaration.Legible.free fun constant => constant.2.2
  | code lines => exact legible
  | exportDefault name =>
    exact List.forall_mem_singleton.mpr
      (importFree_of_silent (linesOf_exportDefault legible) (readImport?_exportDefault name))

/-- The text of a module imports what the module does. -/
theorem importsIn_text {m : Module} (legible : m.Legible) :
    importsIn (linesOf (unlines m.lines)) = m.imports := by
  have silent : ∀ lines : List String, (∀ line ∈ lines, ImportFree line) →
      (lines.flatMap linesOf).filterMap readImport? = [] := by
    intro lines free
    rw [List.filterMap_flatMap, List.flatMap_eq_nil_iff]
    exact free
  have written : ((m.imports.map (·.write)).flatMap linesOf).filterMap readImport? = m.imports := by
    rw [List.flatMap_map, List.flatMap_congr fun i member => linesOf_import (legible.imports i member),
      ← List.map_eq_flatMap, List.filterMap_map]
    exact (List.filterMap_congr fun i member => readImport?_write (legible.imports i member)).trans
      List.filterMap_some
  have free : ∀ line ∈ m.items.flatMap (·.lines), ImportFree line := by
    intro line member
    obtain ⟨item, present, inside⟩ := List.mem_flatMap.mp member
    exact (legible.items item present).free line inside
  rw [linesOf_unlines, importsIn, Module.lines, List.flatMap_append, List.flatMap_append,
    List.filterMap_append, List.filterMap_append, List.filterMap_append, silent _ legible.header,
    silent _ free, written, List.nil_append, List.append_nil]
  exact List.append_nil _

/-- No declarator begins another one, nor does the word for a default export. -/
theorem declarator_found {keyword : String} (member : keyword ∈ declarators) (cs : List Char) :
    after? "default " (keyword.toList ++ cs) = none ∧
      declarators.findSome? (after? · (keyword.toList ++ cs)) = some cs := by
  have ordinary : ∀ k ∈ declarators, ¬ "default ".toList <+: k.toList ∧
      ¬ k.toList <+: "default ".toList := by decide
  have apart : declarators.Pairwise fun a b => ¬ a.toList <+: b.toList ∧ ¬ b.toList <+: a.toList := by
    decide
  obtain ⟨before, after, split⟩ := List.append_of_mem member
  refine ⟨after?_of_apart (ordinary keyword member) cs, List.findSome?_eq_some_iff.mpr ⟨before, keyword, after,
    split, after?_append keyword cs, fun k earlier => after?_of_apart ?_ cs⟩⟩
  exact (List.pairwise_append.mp (split ▸ apart)).2.2 k earlier keyword List.mem_cons_self

theorem export?_first {d : Declaration} (legible : d.Legible) (exported : d.exported = true) :
    export? d.first = some d.name := by
  have chars : d.first.toList =
      "export ".toList ++ ((d.keyword ++ " ").toList ++ (d.name.toList ++ d.rest.toList)) := by
    simp [d.first_eq, exported]
  obtain ⟨notDefault, declares⟩ := declarator_found legible.keyword (d.name.toList ++ d.rest.toList)
  rw [export?, chars, after?_append, Option.bind_eq_bind, Option.bind_some, notDefault]
  simp only [declares, word?_append legible.named legible.stops, Option.bind_eq_bind,
    Option.bind_some, Option.pure_def]

theorem Module.infix_lines {m : Module} {item : Item} (present : item ∈ m.items) :
    item.lines <:+: m.lines := by
  have inside : item.lines <:+: (m.items.map (·.lines)).flatten :=
    List.infix_of_mem_flatten (List.mem_map_of_mem present)
  exact inside.trans (List.suffix_append (m.comment ++ m.imports.map (·.write)) _).isInfix

/-- The lines of an item stand together in the text. -/
theorem infix_linesOf {m : Module} {item : Item} (present : item ∈ m.items) :
    item.lines.flatMap linesOf <:+: linesOf (unlines m.lines) := by
  rw [linesOf_unlines]
  exact ((Module.infix_lines present).flatMap linesOf).trans (List.prefix_append _ _).isInfix

theorem mem_linesOf_text {m : Module} {item : Item} (present : item ∈ m.items) {line : String}
    (member : line ∈ item.lines) {part : String} (inside : part ∈ linesOf line) :
    part ∈ linesOf (unlines m.lines) :=
  (infix_linesOf present).subset (List.mem_flatMap.mpr ⟨line, member, inside⟩)

theorem first_mem_linesOf {m : Module} {d : Declaration} (present : .declare d ∈ m.items)
    (legible : d.Legible) : d.first ∈ linesOf (unlines m.lines) :=
  mem_linesOf_text present List.mem_cons_self (legible.whole ▸ List.mem_singleton_self d.first)

/-- The text of a module exports what the module does. -/
theorem mem_exportsIn {m : Module} (legible : m.Legible) {name : String}
    (exports : name ∈ m.exports) : name ∈ exportsIn (linesOf (unlines m.lines)) := by
  obtain ⟨item, present, shows⟩ := List.mem_filterMap.mp exports
  have readable := legible.items item present
  cases item with
  | gap => cases shows
  | code lines => cases shows
  | declare d =>
    simp only [Item.export?] at shows
    split at shows
    · rename_i exported
      cases shows
      have shown : d.Legible :=
        readable.elim id fun constant => absurd exported (by simp [constant.1])
      exact List.mem_filterMap.mpr
        ⟨d.first, first_mem_linesOf present shown, export?_first shown exported⟩
    · cases shows
  | exportDefault other =>
    cases shows
    have reads : export? ("export default " ++ other ++ ";") = some "default" := by
      have chars : ("export default " ++ other ++ ";").toList =
          "export ".toList ++ ("default ".toList ++ (other.toList ++ [';'])) := by simp
      rw [export?, chars, after?_append, Option.bind_eq_bind, Option.bind_some, after?_append]
      rfl
    have whole := linesOf_exportDefault readable
    exact List.mem_filterMap.mpr ⟨_, mem_linesOf_text present (List.mem_singleton_self _)
      (whole ▸ List.mem_singleton_self _), reads⟩

/-- Each line of a module is one of its text, and none of its code imports anything. -/
structure Module.Plain (m : Module) : Prop where
  header : m.comment = generated
  imports : ∀ i ∈ m.imports, i.Legible
  code : ∀ line ∈ m.items.flatMap (·.lines), linesOf line = [line] ∧ readImport? line = none

theorem Module.Plain.lines {m : Module} (plain : m.Plain) :
    linesOf (unlines m.lines) = m.lines ++ [""] := by
  refine linesOf_unlines_of_whole ?_
  simp only [Module.lines, List.forall_mem_append, plain.header]
  exact ⟨⟨linesOf_generated, List.forall_mem_map.mpr fun i member =>
    linesOf_import (plain.imports i member)⟩, fun line member => (plain.code line member).1⟩

end ApiGraph.Backend.Source
