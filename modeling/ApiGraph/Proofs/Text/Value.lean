import Mathlib.Data.List.Forall2
import ApiGraph.Backend.Source
import ApiGraph.Proofs.Text.Pieces

/-!
# Values in code

`read?` reads a value that is written in code: literals, words such as keywords and numbers, lists
and records. `Spelled` says that a text is read as a value wherever it stands, and the lemmas about
it say so of lists and records whose parts are spelled.
-/

namespace ApiGraph.Text

inductive Value where
  | text (s : String)
  /-- A keyword or a number. -/
  | word (s : String)
  | list (items : List Value)
  | record (members : List (String × Value))

namespace Value

def member? (key : String) : Value → Option Value
  | record members => members.lookup key
  | _ => none

end Value

def skip (cs : List Char) : List Char := cs.dropWhile (· == ' ')

def isWordChar (c : Char) : Bool := isIdentRest c || c == '.' || c == '+' || c == '-'

/-- Parts between commas up to the closing character, of which there are less than the limit. -/
def parts? {α : Type} (part? : List Char → Option (α × List Char)) (closing : Char) :
    Nat → List Char → Option (List α × List Char)
  | 0, _ => none
  | limit + 1, cs =>
    match skip cs with
    | [] => none
    | c :: rest =>
      if c = closing then some ([], rest)
      else
        (part? (c :: rest)).bind fun (a, behind) =>
          match skip behind with
          | ',' :: more => (parts? part? closing limit more).map fun p => (a :: p.1, p.2)
          | d :: more => if d = closing then some ([a], more) else none
          | [] => none

def field? (value? : List Char → Option (Value × List Char)) (cs : List Char) :
    Option ((String × Value) × List Char) :=
  (key? cs).bind fun (key, behind) =>
    match skip behind with
    | ':' :: rest => (value? (skip rest)).map fun p => ((String.ofList key, p.1), p.2)
    | _ => none

/-- The value at the beginning of a text, whose depth and lengths are less than the limit. -/
def value? : Nat → List Char → Option (Value × List Char)
  | 0, _ => none
  | limit + 1, cs =>
    match cs with
    | '\x7b' :: rest =>
      (parts? (field? (value? limit)) '\x7d' limit rest).map fun p => (.record p.1, p.2)
    | '[' :: rest => (parts? (value? limit) ']' limit rest).map fun p => (.list p.1, p.2)
    | '\'' :: _ => (unquote? cs).map fun p => (.text (String.ofList p.1), p.2)
    | _ =>
      if cs.takeWhile isWordChar = [] then none
      else some (.word (String.ofList (cs.takeWhile isWordChar)), cs.dropWhile isWordChar)

def read? (s : String) : Option Value :=
  match value? (s.length + 1) s.toList with
  | some (v, []) => some v
  | _ => none

/-- What comes next cannot belong to a word. -/
def Stops (rest : List Char) : Prop := ∀ c ∈ rest.head?, isWordChar c = false

/-- Characters that stand behind the last one of some parts. -/
def closers : List Char := [')', ']', '\x7d']

/-- Characters that stand between parts or behind the last one. -/
def isBetween (c : Char) : Bool := c == ' ' || closers.contains c

/-- The text is read as one part, whatever stops it. -/
structure Spelled {α : Type} (part? : Nat → List Char → Option (α × List Char)) (text : List Char)
    (a : α) : Prop where
  begins : text.head?.all (!isBetween ·) = true
  nonempty : text ≠ []
  reads : ∀ limit rest, text.length < limit → Stops rest → part? limit (text ++ rest) = some (a, rest)

theorem skip_blank (cs : List Char) : skip (' ' :: cs) = skip cs := List.dropWhile_cons_of_pos rfl

theorem skip_cons {c : Char} (solid : c ≠ ' ') (cs : List Char) : skip (c :: cs) = c :: cs :=
  List.dropWhile_cons_of_neg (by simpa using solid)

theorem stops_cons {c : Char} (other : isWordChar c = false) (cs : List Char) : Stops (c :: cs) := by
  rintro d ⟨⟩
  exact other

/-! ### Parts -/

section

variable {α : Type} {part? : Nat → List Char → Option (α × List Char)}

theorem Spelled.exists_cons {text : List Char} {a : α} (spelled : Spelled part? text a) :
    ∃ c rest, text = c :: rest ∧ c ≠ ' ' ∧ c ∉ closers := by
  obtain ⟨c, rest, rfl⟩ := List.exists_cons_of_ne_nil spelled.nonempty
  have begins := spelled.begins
  simp only [isBetween, List.head?_cons, Option.all_some, Bool.not_eq_true', Bool.or_eq_false_iff,
    beq_eq_false_iff_ne, List.contains_eq_mem, decide_eq_false_iff_not] at begins
  exact ⟨c, rest, rfl, begins⟩

theorem parts?_blank (part : List Char → Option (α × List Char)) (closing : Char) (limit : Nat)
    (cs : List Char) : parts? part closing limit (' ' :: cs) = parts? part closing limit cs := by
  cases limit with
  | zero => rfl
  | succ limit => simp only [parts?, skip_blank]

variable {closing : Char} {m limit : Nat}

/-- The first part is read, then what stands behind it. -/
theorem parts?_cons {text rest : List Char} {a : α} (spelled : Spelled part? text a)
    (closes : closing ∈ closers) (enough : text.length < m) (stops : Stops rest) :
    parts? (part? m) closing (limit + 1) (text ++ rest) =
      match skip rest with
      | ',' :: more => (parts? (part? m) closing limit more).map fun p => (a :: p.1, p.2)
      | d :: more => if d = closing then some ([a], more) else none
      | [] => none := by
  obtain ⟨c, tail, rfl, solid, inside⟩ := spelled.exists_cons
  have opens : c ≠ closing := fun same => inside (same ▸ closes)
  have read := spelled.reads m rest enough stops
  rw [List.cons_append] at read ⊢
  simp only [parts?, skip_cons solid, if_neg opens, read, Option.bind_some]

theorem parts?_joined {texts : List String} {values : List α} {tail rest : List Char}
    (each : List.Forall₂ (fun text a => Spelled part? text.toList a) texts values)
    (closes : closing ∈ closers) (ends : skip tail = closing :: rest)
    (stops : Stops tail) (enough : (", ".intercalate texts).toList.length < m)
    (many : (", ".intercalate texts).toList.length < limit) :
    parts? (part? m) closing limit ((", ".intercalate texts).toList ++ tail) =
      some (values, rest) := by
  have notComma : closing ≠ ',' := ne_of_mem_of_not_mem closes (by decide)
  induction each generalizing limit with
  | nil =>
    obtain ⟨n, rfl⟩ : ∃ n, limit = n + 1 := ⟨limit - 1, by omega⟩
    rw [String.intercalate_nil, String.toList_empty, List.nil_append]
    simp only [parts?, ends, if_true]
  | @cons text a texts values first later ih =>
    obtain ⟨n, rfl⟩ : ∃ n, limit = n + 1 := ⟨limit - 1, by omega⟩
    cases later with
    | nil =>
      rw [String.intercalate_singleton] at enough ⊢
      rw [parts?_cons first closes enough stops, ends]
      split
      · rename_i same
        exact absurd (List.cons.inj same).1 notComma
      · rename_i same
        obtain ⟨rfl, rfl⟩ := List.cons.inj same
        rw [if_pos rfl]
      · rename_i same
        cases same
    | @cons next b texts values second later =>
      rw [String.intercalate_cons_cons] at enough many ⊢
      simp only [String.toList_append, List.length_append] at enough many
      have separator : ", ".toList.length = 2 := rfl
      have apart : (text ++ ", " ++ ", ".intercalate (next :: texts)).toList ++ tail =
          text.toList ++ ',' :: ' ' :: ((", ".intercalate (next :: texts)).toList ++ tail) := by
        simp
      -- the blank behind the comma belongs to no part, so the rest is read as if it were not there
      rw [apart, parts?_cons first closes (by omega) (stops_cons (by decide) _),
        skip_cons (by decide)]
      simp only [parts?_blank]
      rw [ih (by omega) (by omega)]
      rfl

/-- Parts that each end with a comma and a blank. -/
theorem parts?_ended {texts : List String} {values : List α} {rest : List Char}
    (each : List.Forall₂ (fun text a => Spelled part? text.toList a) texts values)
    (closes : closing ∈ closers)
    (enough : (texts.flatMap fun text => text.toList ++ [',', ' ']).length < m)
    (many : (texts.flatMap fun text => text.toList ++ [',', ' ']).length < limit) :
    parts? (part? m) closing limit
        ((texts.flatMap fun text => text.toList ++ [',', ' ']) ++ closing :: rest) =
      some (values, rest) := by
  have solid : closing ≠ ' ' := ne_of_mem_of_not_mem closes (by decide)
  induction each generalizing limit with
  | nil =>
    obtain ⟨n, rfl⟩ : ∃ n, limit = n + 1 := ⟨limit - 1, by omega⟩
    rw [List.flatMap_nil, List.nil_append]
    simp only [parts?, skip_cons solid, if_true]
  | @cons text a texts values first later ih =>
    rw [List.flatMap_cons, List.length_append, List.length_append] at enough many
    have ended : [',', ' '].length = 2 := rfl
    obtain ⟨n, rfl⟩ : ∃ n, limit = n + 1 := ⟨limit - 1, by omega⟩
    rw [List.flatMap_cons, List.append_assoc, List.append_assoc, List.cons_append,
      parts?_cons first closes (by omega) (stops_cons (by decide) _), skip_cons (by decide)]
    simp only [List.cons_append, List.nil_append, parts?_blank]
    rw [ih (by omega) (by omega)]
    rfl

end

/-! ### Values -/

theorem spelled_quote (s : String) : Spelled value? (quote s).toList (.text s) := by
  obtain ⟨cs, form⟩ : ∃ cs, (quote s).toList = '\'' :: cs := by
    rw [quote, String.toList_ofList]
    exact ⟨_, rfl⟩
  refine ⟨by rw [form]; rfl, by rw [form]; exact List.cons_ne_nil _ _, fun limit rest enough _ => ?_⟩
  obtain ⟨n, rfl⟩ : ∃ n, limit = n + 1 := ⟨limit - 1, by omega⟩
  have read := unquote_quote s rest
  rw [form] at read ⊢
  rw [List.cons_append] at read ⊢
  simp [value?, read]

theorem not_isBetween {c : Char} (letter : isWordChar c = true) : isBetween c = false := by
  refine Bool.eq_false_iff.mpr fun between => ?_
  have member : c ∈ ' ' :: closers := by simpa [isBetween] using between
  have mark := List.all_eq_true.mp (by decide : (' ' :: closers).all (!isWordChar ·) = true) c member
  rw [letter] at mark
  cases mark

theorem spelled_word {w : String} (nonempty : w ≠ "") (letters : ∀ c ∈ w.toList, isWordChar c = true) :
    Spelled value? w.toList (.word w) := by
  obtain ⟨c, cs, form⟩ := List.exists_cons_of_ne_nil (mt String.toList_eq_nil_iff.mp nonempty)
  have letter : isWordChar c = true := letters c (form ▸ List.mem_cons_self)
  refine ⟨?_, by rw [form]; exact List.cons_ne_nil _ _, fun limit rest enough stops => ?_⟩
  · simp [form, not_isBetween letter]
  · obtain ⟨n, rfl⟩ : ∃ n, limit = n + 1 := ⟨limit - 1, by omega⟩
    obtain ⟨taken, left⟩ := span_append letters stops
    rw [form, List.cons_append] at taken left ⊢
    have first {d : Char} {ds es : List Char} (same : c :: ds = d :: es) : isWordChar d = true :=
      (List.cons.inj same).1 ▸ letter
    unfold value?
    split
    · rename_i same
      exact absurd (first same) (by decide)
    · rename_i same
      exact absurd (first same) (by decide)
    · rename_i same
      exact absurd (first same) (by decide)
    · rw [if_neg (by simp [taken]), taken, left, ← form, String.ofList_toList]

theorem spelled_inBrackets {texts : List String} {values : List Value}
    (each : List.Forall₂ (fun text v => Spelled value? text.toList v) texts values) :
    Spelled value? (Backend.inBrackets texts).toList (.list values) := by
  have form : (Backend.inBrackets texts).toList =
      '[' :: ((", ".intercalate texts).toList ++ [']']) := by
    simp [Backend.inBrackets]
  refine ⟨by rw [form]; rfl, by rw [form]; exact List.cons_ne_nil _ _, fun limit rest enough _ => ?_⟩
  obtain ⟨n, rfl⟩ : ∃ n, limit = n + 1 := ⟨limit - 1, by omega⟩
  rw [form] at enough ⊢
  rw [List.length_cons, List.length_append] at enough
  have read : parts? (value? n) ']' n ((", ".intercalate texts).toList ++ ']' :: rest) =
      some (values, rest) :=
    parts?_joined each (by decide) (skip_cons (by decide) rest) (stops_cons (by decide) rest) (by omega)
      (by omega)
  rw [List.cons_append, List.append_assoc, List.singleton_append]
  simp only [value?, read, Option.map_some]

abbrev Members (texts : List String) (members : List (String × Value)) : Prop :=
  List.Forall₂ (fun text a => Spelled (fun n => field? (value? n)) text.toList a) texts members

theorem members_append {texts more : List String} {members others : List (String × Value)}
    (first : Members texts members) (second : Members more others) :
    Members (texts ++ more) (members ++ others) :=
  List.rel_append first second

theorem members_toList {α : Type} (o : Option α) {f : α → String} {g : α → String × Value}
    (each : ∀ a, Spelled (fun n => field? (value? n)) (f a).toList (g a)) :
    Members (o.map f).toList (o.map g).toList := by
  cases o with
  | none => exact .nil
  | some a => exact .cons (each a) .nil

theorem spelled_inBraces {texts : List String} {members : List (String × Value)}
    (each : Members texts members) :
    Spelled value? (Backend.inBraces texts).toList (.record members) := by
  have form : (Backend.inBraces texts).toList =
      '\x7b' :: ' ' :: ((", ".intercalate texts).toList ++ [' ', '\x7d']) := by
    simp [Backend.inBraces]
  refine ⟨by rw [form]; rfl, by rw [form]; exact List.cons_ne_nil _ _, fun limit rest enough _ => ?_⟩
  obtain ⟨n, rfl⟩ : ∃ n, limit = n + 1 := ⟨limit - 1, by omega⟩
  rw [form] at enough ⊢
  rw [List.length_cons, List.length_cons, List.length_append] at enough
  have read : parts? (field? (value? n)) '\x7d' n
      ((", ".intercalate texts).toList ++ ' ' :: '\x7d' :: rest) = some (members, rest) :=
    parts?_joined each (by decide) (by rw [skip_blank, skip_cons (by decide)])
      (stops_cons (by decide) _) (by omega) (by omega)
  rw [List.cons_append, List.cons_append, List.append_assoc]
  simp only [value?, parts?_blank, List.cons_append, List.nil_append, read, Option.map_some]

/-- A key that is no literal before the text of its value. -/
theorem spelled_field (key front : String) (opens : front = key ++ ": ")
    (plain : isPlainIdent key.toList = true) {text : String} {v : Value}
    (spelled : Spelled value? text.toList v) :
    Spelled (fun n => field? (value? n)) (front ++ text).toList (key, v) := by
  have form : (front ++ text).toList = key.toList ++ ':' :: ' ' :: text.toList := by
    simp [opens]
  obtain ⟨nonempty, letters⟩ := identRest_of_plain plain
  obtain ⟨c, cs, head⟩ := List.exists_cons_of_ne_nil nonempty
  obtain ⟨d, ds, first, solid, -⟩ := spelled.exists_cons
  refine ⟨?_, by simp [form, head], fun limit rest enough stops => ?_⟩
  · have letter : isWordChar c = true := by simp [isWordChar, letters c (head ▸ List.mem_cons_self)]
    simp [form, head, not_isBetween letter]
  · have found : key? ((propertyKey key).toList ++ ':' :: ' ' :: (text.toList ++ rest)) =
        some (key.toList, ':' :: ' ' :: (text.toList ++ rest)) := key?_propertyKey key rfl
    rw [propertyKey, if_pos plain] at found
    have shorter : text.toList.length < limit := by
      rw [form, List.length_append, List.length_cons, List.length_cons] at enough
      omega
    have read := spelled.reads limit rest shorter stops
    rw [form, List.append_assoc]
    simp only [field?, List.cons_append, found, Option.bind_some, skip_cons (show ':' ≠ ' ' by decide),
      skip_blank]
    rw [first, List.cons_append, skip_cons solid, ← List.cons_append, ← first, read,
      String.ofList_toList]
    rfl

/-- A text spells one value, whatever stops it. -/
theorem Spelled.determines {s t a b : List Char} {v w : Value} (first : Spelled value? s v)
    (second : Spelled value? t w) (stops : Stops a) (alsoStops : Stops b) (same : s ++ a = t ++ b) :
    v = w := by
  have read := first.reads (s.length + t.length + 1) a (by omega) stops
  rw [same, second.reads (s.length + t.length + 1) b (by omega) alsoStops] at read
  exact (Prod.mk.inj (Option.some.inj read)).1.symm

theorem read?_of_spelled {s : String} {v : Value} (spelled : Spelled value? s.toList v) :
    read? s = some v := by
  have read := spelled.reads (s.length + 1) [] (by rw [String.length_toList]; omega) (by simp [Stops])
  rw [List.append_nil] at read
  rw [read?, read]

example : read? "\x7b key: [1, 'two'] \x7d" =
    some (.record [("key", .list [.word "1", .text "two"])]) := by rfl

end ApiGraph.Text
