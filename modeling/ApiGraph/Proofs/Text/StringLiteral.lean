import ApiGraph.Json.Token
import ApiGraph.Proofs.Text.Pieces

/-!
# Scanning string literals

`stringLiteral?` scans a single-quoted literal by the grammar of strict code, with every kind of
escape sequence and with line separators as ordinary characters, as they are since ECMAScript 2019.
The value of a literal is a list of code units. `quoting_injective` says that a written literal ends
where it was meant to end and denotes the text that was quoted, and that property keys of different
names are different.
-/

namespace ApiGraph.Text

/-- The UTF-16 code units of a code point: itself, or a pair of surrogates. -/
def pointUnits (n : Nat) : List Nat :=
  if n < 0x10000 then [n] else [0xD800 + (n - 0x10000) / 0x400, 0xDC00 + (n - 0x10000) % 0x400]

/-- The value of a string of some characters. -/
def units (cs : List Char) : List Nat := cs.flatMap fun c => pointUnits c.toNat

theorem units_cons (c : Char) (cs : List Char) : units (c :: cs) = pointUnits c.toNat ++ units cs :=
  List.flatMap_cons

/-- The units of a character are known from the units that begin with them. -/
theorem pointUnits_append_inj {c d : Char} {us vs : List Nat}
    (same : pointUnits c.toNat ++ us = pointUnits d.toNat ++ vs) : c = d ∧ us = vs := by
  have validLeft : c.toNat < 0xD800 ∨ 0xDFFF < c.toNat ∧ c.toNat < 0x110000 := c.valid
  have validRight : d.toNat < 0xD800 ∨ 0xDFFF < d.toNat ∧ d.toNat < 0x110000 := d.valid
  rw [← Char.toNat_inj]
  -- a unit that is no surrogate is the character itself, and a surrogate begins a pair
  unfold pointUnits at same
  split at same <;> split at same <;>
    simp only [List.cons_append, List.nil_append, List.cons.injEq] at same
  · exact same
  · omega
  · omega
  · obtain ⟨high, low, rest⟩ := same
    exact ⟨by omega, rest⟩

theorem units_injective : Function.Injective units := by
  intro cs ds same
  induction cs generalizing ds with
  | nil =>
    cases ds with
    | nil => rfl
    | cons d ds =>
      rw [units_cons, pointUnits] at same
      split at same <;> cases same
  | cons c cs ih =>
    cases ds with
    | nil =>
      rw [units_cons, pointUnits] at same
      split at same <;> cases same
    | cons d ds =>
      rw [units_cons, units_cons] at same
      obtain ⟨rfl, rest⟩ := pointUnits_append_inj same
      rw [ih rest]

def isHexDigit (c : Char) : Bool := (Json.hexDigit c).isSome

def hexValue? (cs : List Char) : Option Nat :=
  (cs.mapM Json.hexDigit).map fun digits => digits.foldl (16 * · + ·) 0

/-- An escape by a fixed number of digits is one unit. -/
def unitEscape? (width : Nat) (cs : List Char) : Option (List Nat × List Char) :=
  if cs.length < width then none
  else (hexValue? (cs.take width)).map fun n => ([n], cs.drop width)

/-- An escape by the digits of a code point, behind its opening brace. -/
def pointEscape? (cs : List Char) : Option (List Nat × List Char) :=
  match cs.takeWhile isHexDigit, cs.dropWhile isHexDigit with
  | digit :: digits, '\x7d' :: rest =>
    ((hexValue? (digit :: digits)).filter (· ≤ 0x10FFFF)).map fun n => (pointUnits n, rest)
  | _, _ => none

def isLineTerminator (c : Char) : Bool :=
  c == '\n' || c == '\r' || c == '\u2028' || c == '\u2029'

/-- What a character behind a backslash stands for, where it is no digit, no line terminator and
begins no escape by digits. -/
def escaped : Char → Char
  | 'b' => '\x08'
  | 't' => '\t'
  | 'n' => '\n'
  | 'v' => '\x0B'
  | 'f' => '\x0C'
  | 'r' => '\r'
  | c => c

/-- The units of an escape sequence behind its backslash, and what follows it. A line terminator
continues the literal on the next line. No digit but a single zero is an escape in strict code. -/
def escape? : List Char → Option (List Nat × List Char)
  | [] => none
  | '\r' :: '\n' :: rest => some ([], rest)
  | 'x' :: rest => unitEscape? 2 rest
  | 'u' :: '\x7b' :: rest => pointEscape? rest
  | 'u' :: rest => unitEscape? 4 rest
  | c :: rest =>
    if isLineTerminator c then some ([], rest)
    else if c.isDigit then
      if c = '0' ∧ rest.head?.any Char.isDigit = false then some ([0], rest) else none
    else some (pointUnits (escaped c).toNat, rest)

theorem length_unitEscape {width : Nat} {cs rest : List Char} {us : List Nat}
    (read : unitEscape? width cs = some (us, rest)) : rest.length ≤ cs.length := by
  obtain ⟨-, read⟩ := Option.ite_none_left_eq_some.mp read
  obtain ⟨n, -, same⟩ := Option.map_eq_some_iff.mp read
  rw [← (Prod.mk.inj same).2, List.length_drop]
  exact Nat.sub_le _ _

theorem length_pointEscape {cs rest : List Char} {us : List Nat}
    (read : pointEscape? cs = some (us, rest)) : rest.length < cs.length := by
  unfold pointEscape? at read
  split at read
  · rename_i behind
    obtain ⟨n, -, same⟩ := Option.map_eq_some_iff.mp read
    have shorter := (List.dropWhile_sublist isHexDigit (l := cs)).length_le
    rwa [behind, (Prod.mk.inj same).2, List.length_cons] at shorter
  · cases read

/-- An escape sequence has a character, so the reader goes on with a shorter text. -/
theorem length_escape {cs rest : List Char} {us : List Nat} (read : escape? cs = some (us, rest)) :
    rest.length < cs.length := by
  unfold escape? at read
  split at read
  · cases read
  · cases read
    exact Nat.lt_add_right 1 (Nat.lt_succ_self _)
  · exact Nat.lt_succ_of_le (length_unitEscape read)
  · exact Nat.lt_add_right 2 (length_pointEscape read)
  · exact Nat.lt_succ_of_le (length_unitEscape read)
  · split at read
    · cases read
      exact Nat.lt_succ_self _
    · split at read
      · obtain ⟨-, same⟩ := Option.ite_none_right_eq_some.mp read
        cases same
        exact Nat.lt_succ_self _
      · cases read
        exact Nat.lt_succ_self _

/-- The units up to the closing quote, and what follows it. -/
def stringUnits? : List Char → Option (List Nat × List Char)
  | [] => none
  | c :: cs =>
    if c = '\'' then some ([], cs)
    else if c = '\\' then
      match _escape : escape? cs with
      | some (us, rest) => (stringUnits? rest).map fun p => (us ++ p.1, p.2)
      | none => none
    else if c = '\n' ∨ c = '\r' then none
    else (stringUnits? cs).map fun p => (pointUnits c.toNat ++ p.1, p.2)
termination_by cs => cs.length
decreasing_by
  -- what follows an escape sequence is shorter than its text
  · exact Nat.lt_succ_of_lt (length_escape _escape)
  · exact Nat.lt_succ_self _

/-- The value of the single-quoted literal at the beginning of a text, and what follows it. -/
def stringLiteral? : List Char → Option (List Nat × List Char)
  | '\'' :: cs => stringUnits? cs
  | _ => none

theorem stringUnits?_plain {c : Char} (quote : c ≠ '\'') (backslash : c ≠ '\\') (feed : c ≠ '\n')
    (line : c ≠ '\r') (rest : List Char) :
    stringUnits? (c :: rest) =
      (stringUnits? rest).map fun p => (pointUnits c.toNat ++ p.1, p.2) := by
  rw [stringUnits?, if_neg quote, if_neg backslash, if_neg (by simp [feed, line])]

theorem stringUnits?_escape {cs rest : List Char} {us : List Nat}
    (read : escape? cs = some (us, rest)) :
    stringUnits? ('\\' :: cs) = (stringUnits? rest).map fun p => (us ++ p.1, p.2) := by
  rw [stringUnits?, if_neg (by decide), if_pos rfl]
  split
  · rename_i found
    cases found.symm.trans read
    rfl
  · rename_i found
    cases found.symm.trans read

/-- A written character is scanned as itself, and the scanner is left inside of the literal. -/
theorem stringUnits?_quoteChar (c : Char) (rest : List Char) :
    stringUnits? (quoteChar c ++ rest) =
      (stringUnits? rest).map fun p => (pointUnits c.toNat ++ p.1, p.2) := by
  unfold quoteChar
  split
  · exact stringUnits?_escape rfl
  · exact stringUnits?_escape rfl
  · exact stringUnits?_escape rfl
  · exact stringUnits?_escape rfl
  · rename_i backslash quote feed line
    exact stringUnits?_plain quote backslash feed line rest

theorem stringLiteral?_quoteChars (cs rest : List Char) :
    stringLiteral? (quoteChars cs ++ rest) = some (units cs, rest) := by
  show stringUnits? (cs.flatMap quoteChar ++ ['\''] ++ rest) = _
  induction cs with
  | nil =>
    show stringUnits? ('\'' :: rest) = _
    rw [stringUnits?, if_pos rfl]
    rfl
  | cons c cs ih =>
    rw [List.flatMap_cons, List.append_assoc, List.append_assoc, stringUnits?_quoteChar,
      ← List.append_assoc, ih, units_cons]
    rfl

/-- A written literal is scanned up to its end, whatever follows it, and denotes its text. -/
theorem stringLiteral?_quote (s : String) (rest : List Char) :
    stringLiteral? ((quote s).toList ++ rest) = some (units s.toList, rest) := by
  rw [quote, String.toList_ofList, stringLiteral?_quoteChars]

/-- A character that can continue a name. Beside the plain ones these are a backslash, which begins
an escape, and letters beyond ASCII; all characters beyond it count. -/
def continuesName (c : Char) : Bool := isIdentRest c || c == '\\' || 127 < c.toNat

/-- The property name at the beginning of a text, a literal or a plain identifier, as the string
that it stands for. -/
def propertyName? (cs : List Char) : Option (List Nat × List Char) :=
  match stringLiteral? cs with
  | some found => some found
  | none =>
    let rest := cs.dropWhile isIdentRest
    if isPlainIdent (cs.takeWhile isIdentRest) && !rest.head?.any continuesName then
      some (units (cs.takeWhile isIdentRest), rest)
    else none

theorem propertyName?_plain {name rest : List Char} (plain : isPlainIdent name = true)
    (stops : rest.head?.any continuesName = false) :
    propertyName? (name ++ rest) = some (units name, rest) := by
  obtain ⟨nonempty, letters⟩ := identRest_of_plain plain
  have ends : ∀ c ∈ rest.head?, isIdentRest c = false := by
    intro c head
    have ends : continuesName c = false := by simpa [Option.mem_def.mp head] using stops
    simp only [continuesName, Bool.or_eq_false_iff] at ends
    exact ends.1.1
  obtain ⟨taken, left⟩ := span_append letters ends
  have bare : stringLiteral? (name ++ rest) = none := by
    obtain ⟨c, cs, rfl⟩ := List.exists_cons_of_ne_nil nonempty
    rw [List.cons_append, stringLiteral?]
    intro _ same
    have quoted := letters c List.mem_cons_self
    cases same
    exact absurd quoted (by decide)
  simp only [propertyName?, bare, taken, left, plain, stops, Bool.not_false, Bool.and_true, if_true]

theorem propertyName?_propertyKey (name : String) {rest : List Char}
    (stops : rest.head?.any continuesName = false) :
    propertyName? ((propertyKey name).toList ++ rest) = some (units name.toList, rest) := by
  unfold propertyKey
  split
  · rename_i plain
    exact propertyName?_plain plain stops
  · rw [propertyName?, stringLiteral?_quote]

/-- A written literal ends where it was meant to end, whatever follows, and denotes the text that was
quoted. A property key is its name where that is a plain identifier, and a literal of the name
elsewhere. In both forms it stands for the name, so the keys of different names are different, as
texts and as what they stand for. -/
theorem quoting_injective :
    (∀ (s : String) (rest : List Char),
      stringLiteral? ((quote s).toList ++ rest) = some (units s.toList, rest)) ∧
    (∀ name : String, propertyKey name = name ∧ isPlainIdent name.toList = true ∨
      propertyKey name = quote name ∧ isPlainIdent name.toList = false) ∧
    (∀ (name : String) (rest : List Char), rest.head?.any continuesName = false →
      propertyName? ((propertyKey name).toList ++ rest) = some (units name.toList, rest)) ∧
    ∀ name other : String, name ≠ other →
      propertyKey name ≠ propertyKey other ∧ units name.toList ≠ units other.toList := by
  refine ⟨stringLiteral?_quote, fun name => ?_, fun name rest => propertyName?_propertyKey name,
    fun name other different => ?_⟩
  · unfold propertyKey
    split
    · rename_i plain
      exact .inl ⟨rfl, plain⟩
    · rename_i quoted
      exact .inr ⟨rfl, by simpa using quoted⟩
  · have apart : units name.toList ≠ units other.toList := fun same =>
      different (String.toList_inj.mp (units_injective same))
    refine ⟨fun same => apart ?_, apart⟩
    have read : propertyName? ((propertyKey name).toList ++ []) = some (units name.toList, []) :=
      propertyName?_propertyKey name rfl
    rw [same, propertyName?_propertyKey other rfl] at read
    exact (Prod.mk.inj (Option.some.inj read)).1.symm

/-- A header with quotes and a backslash as the key of a record, before its value. -/
theorem quotedHeader_read :
    let header := "x-it's\\\"new\""
    propertyName? ((propertyKey header).toList ++ ": 1".toList) =
        some (units header.toList, ": 1".toList) ∧
      propertyKey header ≠ propertyKey "x-its" := by
  intro header
  obtain ⟨-, -, read, apart⟩ := quoting_injective
  exact ⟨read header _ (by decide), (apart header "x-its" (by decide)).1⟩

example : stringLiteral? "'\\x41\\u\x7b1F600\x7d\\\nb\\0'; '".toList =
    some ([0x41, 0xD83D, 0xDE00, 0x62, 0], "; '".toList) := by cbv

end ApiGraph.Text
