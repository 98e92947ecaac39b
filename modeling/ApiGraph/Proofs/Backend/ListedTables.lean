import Mathlib.Data.List.Infix
import ApiGraph.Backend.Table
import ApiGraph.Proofs.Backend.Listings

/-!
# What tables list

The creation of tables read back, line by line: a line begins a table, adds a column or declares a
key. `created_toModule` says that the tables of all models are found, with their columns and keys.
-/

namespace ApiGraph.Backend

open Text

structure ListedColumn where
  name : String
  isCounter : Bool
  notNull : Bool
deriving DecidableEq, Repr

structure ListedTable where
  columns : List ListedColumn
  /-- The columns of a primary key that is declared on its own. -/
  primary : List String
deriving DecidableEq, Repr

namespace Table

/-- The name of the table that a line begins to create. -/
def creates? (line : String) : Option String := do
  let (name, _) ← (after? "    await knex.schema.createTable(" line.toList).bind unquote?
  some (String.ofList name)

/-- The column that a line adds: a call with a name. -/
def column? (line : String) : Option ListedColumn := do
  let call ← after? "      table." line.toList
  let (name, rest) ← (after? "(" (call.dropWhile isIdentRest)).bind unquote?
  some
    { name := String.ofList name
      isCounter := call.takeWhile isIdentRest = "increments".toList
      notNull := code ".notNullable()" <:+: pieces rest }

/-- The key that a line declares. -/
def primary? (line : String) : Option (List String) :=
  (after? "      table.primary(" line.toList).map fun rest => literals (pieces rest)

def listedTable (lines : List String) : ListedTable :=
  { columns := lines.filterMap column?, primary := (lines.filterMap primary?).flatten }

def createdFrom : List String → List (String × ListedTable)
  | [] => []
  | line :: rest =>
    -- the lines of a table are looked at again, but none of them creates another
    match creates? line with
    | some name => (name, listedTable (linesBefore "    \x7d);" rest)) :: createdFrom rest
    | none => createdFrom rest

def created (m : Source.Module) : List (String × ListedTable) :=
  createdFrom (m.declarations.flatMap (·.lines))

def methods : List String :=
  ["string", "integer", "double", "boolean", "timestamp", "jsonb", "json", "increments"]

theorem columnMethod_mem (engine : Engine) (type : FieldType) :
    type.columnMethod engine ∈ methods ∧ type.columnMethod engine ≠ "increments" := by
  cases type <;> cases engine <;> simp [FieldType.columnMethod, methods]

theorem call_toList (method name rest : String) :
    ("      " ++ ("table." ++ method ++ "(" ++ quote name ++ rest)).toList =
      "      table.".toList ++
        (method.toList ++ ("(".toList ++ ((quote name).toList ++ rest.toList))) := by
  simp only [String.toList_append, List.append_assoc]
  rfl

theorem column?_call {method : String} (known : method ∈ methods) (name rest : String) :
    column? ("      " ++ ("table." ++ method ++ "(" ++ quote name ++ rest)) = some
      { name, isCounter := method = "increments",
        notNull := code ".notNullable()" <:+: pieces rest.toList } := by
  have words : ∀ m ∈ methods, m.toList.all isIdentRest = true := by decide
  have word := List.all_eq_true.mp (words method known)
  have taken : ∀ cs,
      (method.toList ++ ("(".toList ++ cs)).takeWhile isIdentRest = method.toList :=
    fun cs => (span_word word (by decide) cs).1
  have left : ∀ cs,
      (method.toList ++ ("(".toList ++ cs)).dropWhile isIdentRest = "(".toList ++ cs :=
    fun cs => (span_word word (by decide) cs).2
  rw [column?, call_toList, after?_append]
  simp only [Option.bind_eq_bind, Option.bind_some, taken, left, after?_append, unquote_quote,
    String.ofList_toList, String.toList_inj]

theorem primary?_call {method : String} (known : method ∈ methods) (name rest : String) :
    primary? ("      " ++ ("table." ++ method ++ "(" ++ quote name ++ rest)) = none := by
  rw [primary?, call_toList]
  simp only [methods, List.mem_cons, List.not_mem_nil, or_false] at known
  rcases known with rfl | rfl | rfl | rfl | rfl | rfl | rfl | rfl <;> rfl

def defaultCall : Option FieldDefault → String
  | some d => ".defaultTo(" ++ Column.defaultText d ++ ")"
  | none => ""

theorem exists_written_defaultCall (f : ModelField) :
    ∃ ps, Written (defaultCall (FieldDefault.stored f)) ps ∧ .code 'b' ∉ ps := by
  cases found : FieldDefault.stored f with
  | none => exact ⟨[], fun _ => rfl, List.not_mem_nil⟩
  | some d =>
    have time : ∀ c ∈ "knex.fn.now()".toList, FieldDefault.IsDefaultChar c :=
      forall_of_all (by decide)
    obtain ⟨ps, written, chars⟩ := FieldDefault.exists_written_default found time
    refine ⟨_, ((Written.plain (by decide)).append written).append (Written.plain (by decide)), ?_⟩
    simp only [List.mem_append, not_or]
    exact ⟨⟨by decide, fun member => absurd (chars _ member) (by decide)⟩, by decide⟩

theorem notNull_iff {t : String} {ps : List Piece} (written : Written t ps)
    (other : .code 'b' ∉ ps) (required : Bool) :
    code ".notNullable()" <:+:
        pieces (")" ++ ((if required then ".notNullable()" else "") ++ (t ++ ";"))).toList ↔
      required = true := by
  have opened : Written ")" (code ")") := .plain (by decide)
  have closed : Written ";" (code ";") := .plain (by decide)
  cases required with
  | true =>
    have said : Written ".notNullable()" (code ".notNullable()") := .plain (by decide)
    rw [if_pos rfl, (opened.append (said.append (written.append closed))).pieces_eq]
    exact ⟨fun _ => rfl, fun _ => ⟨code ")", ps ++ code ";", by simp⟩⟩
  | false =>
    -- without the call there is no `b` outside of literals
    rw [if_neg Bool.false_ne_true, String.empty_append,
      (opened.append (written.append closed)).pieces_eq]
    refine ⟨fun inside => ?_, fun absent => absurd absent Bool.false_ne_true⟩
    have letter : .code 'b' ∈ code ".notNullable()" := by decide
    have found := inside.subset letter
    simp only [List.mem_append] at found
    rcases found with bracket | default | stop
    · exact absurd bracket (by decide)
    · exact absurd default other
    · exact absurd stop (by decide)

theorem typed_write_eq (name method : String) (notNull : Bool) (d : Option FieldDefault) :
    (Column.typed name method notNull d).write = "table." ++ method ++ "(" ++ quote name ++
      (")" ++ ((if notNull then ".notNullable()" else "") ++ (defaultCall d ++ ";"))) := by
  have parts : (Column.typed name method notNull d).write = "table." ++ method ++ "(" ++
      quote name ++ ")" ++ (if notNull then ".notNullable()" else "") ++ defaultCall d ++ ";" := by
    cases d <;> rfl
  rw [parts]
  simp only [String.append_assoc]

theorem exists_call (engine : Engine) (counter : Option String) (f : ModelField) :
    ∃ method rest, method ∈ methods ∧
      (column engine counter f).write = "table." ++ method ++ "(" ++ quote f.name ++ rest ∧
      (method = "increments" ↔ counter = some f.name) ∧
      (code ".notNullable()" <:+: pieces rest.toList ↔
        counter ≠ some f.name ∧ f.required = true) := by
  unfold column
  split
  · rename_i counts
    have silent : ¬ code ".notNullable()" <:+: pieces ");".toList := by
      rw [(Written.plain (by decide)).pieces_eq]
      decide
    exact ⟨"increments", ");", by decide, rfl, by simp [counts], by simp only [silent, counts,
      ne_eq, not_true_eq_false, false_and]⟩
  · rename_i typed
    obtain ⟨known, other⟩ := columnMethod_mem engine f.type
    obtain ⟨ps, written, plain⟩ := exists_written_defaultCall f
    have said := notNull_iff written plain f.required
    refine ⟨_, _, known, typed_write_eq .., by simp only [other, typed], ?_⟩
    simp only [said, typed, ne_eq, not_false_eq_true, true_and]

def listedColumn (counter : Option String) (f : ModelField) : ListedColumn :=
  { name := f.name, isCounter := counter = some f.name,
    notNull := counter ≠ some f.name ∧ f.required }

theorem column?_column (engine : Engine) (counter : Option String) (f : ModelField) :
    column? ("      " ++ (column engine counter f).write) = some (listedColumn counter f) := by
  obtain ⟨method, rest, known, line, counts, said⟩ := exists_call engine counter f
  rw [line, column?_call known]
  simp only [listedColumn, counts, said]

theorem primary?_column (engine : Engine) (counter : Option String) (f : ModelField) :
    primary? ("      " ++ (column engine counter f).write) = none := by
  obtain ⟨method, rest, known, line, -, -⟩ := exists_call engine counter f
  rw [line, primary?_call known]

/-! ### Keys -/

theorem column?_list {method : String} (known : method ∈ ["primary", "unique"]) (rest : String) :
    column? ("      " ++ ("table." ++ method ++ "([" ++ rest)) = none := by
  have line : ("      " ++ ("table." ++ method ++ "([" ++ rest)).toList =
      "      table.".toList ++ (method.toList ++ ("([".toList ++ rest.toList)) := by
    simp only [String.toList_append, List.append_assoc]
    rfl
  rw [column?, line]
  simp only [List.mem_cons, List.not_mem_nil, or_false] at known
  rcases known with rfl | rfl <;> rfl

theorem primary?_primary (names : List String) :
    primary? ("      " ++ ("table.primary(" ++ inBrackets (names.map quote) ++ ");")) =
      some names := by
  obtain ⟨ps, written, listed⟩ := exists_written_brackets names
  have line : ("      " ++ ("table.primary(" ++ inBrackets (names.map quote) ++ ");")).toList =
      "      table.primary(".toList ++ (inBrackets (names.map quote) ++ ");").toList := by
    simp only [String.toList_append, List.append_assoc]
    rfl
  rw [primary?, line, after?_append, Option.map_some,
    (written.append (Written.plain (by decide))).pieces_eq, literals_append, literals_code, listed,
    List.append_nil]

theorem primary?_unique (rest : String) :
    primary? ("      " ++ ("table.unique([" ++ rest)) = none := by
  rw [primary?, String.toList_append, String.toList_append]
  rfl

/-! ### Bodies -/

theorem indent_thrice (lines : List String) :
    indent (indent (indent lines)) = lines.map ("      " ++ ·) := by
  simp only [indent, List.map_map]
  refine List.map_congr_left fun l _ => ?_
  show "  " ++ ("  " ++ ("  " ++ l)) = _
  rw [← String.append_assoc, ← String.append_assoc]
  rfl

/-- The columns of the key that is declared below the columns. -/
def declaredKey (m : Model) : List String :=
  if (counter? m).isSome then [] else m.primaryKey.map (·.name)

theorem listedTable_append (a b : List String) : listedTable (a ++ b) =
    { columns := (listedTable a).columns ++ (listedTable b).columns
      primary := (listedTable a).primary ++ (listedTable b).primary } := by
  simp [listedTable, List.filterMap_append, List.flatten_append]

theorem listedTable_columns (engine : Engine) (counter : Option String) (fields : List ModelField) :
    listedTable (((fields.map (column engine counter)).map (·.write)).map ("      " ++ ·)) =
      { columns := fields.map (listedColumn counter), primary := [] } := by
  rw [listedTable, List.map_map, List.map_map, List.filterMap_map, List.filterMap_map]
  have columns : column? ∘ (((fun l => "      " ++ l) ∘ (·.write)) ∘ column engine counter) =
      some ∘ listedColumn counter := funext fun f => column?_column engine counter f
  have none : primary? ∘ (((fun l => "      " ++ l) ∘ (·.write)) ∘ column engine counter) =
      fun _ => none := funext fun f => primary?_column engine counter f
  rw [columns, none, List.filterMap_eq_map, List.filterMap_none]
  rfl

theorem listedTable_key (names : List String) :
    listedTable ((if names.isEmpty then [] else
      ["table.primary(" ++ inBrackets (names.map quote) ++ ");"]).map ("      " ++ ·)) =
        { columns := [], primary := names } := by
  cases names with
  | nil => rfl
  | cons name names =>
    let items := ", ".intercalate ((name :: names).map quote)
    have line : "table.primary(" ++ inBrackets ((name :: names).map quote) ++ ");" =
        "table." ++ "primary" ++ "([" ++ (items ++ "]" ++ ");") := by
      simp only [inBrackets, ← String.append_assoc]
      rfl
    have noColumn := @column?_list "primary" (by decide) (items ++ "]" ++ ");")
    rw [← line] at noColumn
    rw [List.isEmpty_cons, if_neg Bool.false_ne_true, List.map_singleton, listedTable,
      List.filterMap_cons_none noColumn, List.filterMap_cons_some (primary?_primary _),
      List.filterMap_nil, List.filterMap_nil, List.flatten_singleton]

theorem listedTable_unique (names : List String) :
    listedTable ((names.map fun name => "table.unique([" ++ quote name ++ "]);").map
      ("      " ++ ·)) = { columns := [], primary := [] } := by
  have line : ∀ name, "table.unique([" ++ quote name ++ "]);" =
      "table." ++ "unique" ++ "([" ++ (quote name ++ "]);") := by
    intro name
    rw [← String.append_assoc]
    rfl
  have columns : ∀ l ∈ (names.map fun name => "table.unique([" ++ quote name ++ "]);").map
      ("      " ++ ·), column? l = none ∧ primary? l = none := by
    intro l member
    obtain ⟨_, inner, rfl⟩ := List.mem_map.mp member
    obtain ⟨name, -, rfl⟩ := List.mem_map.mp inner
    refine ⟨by rw [line, column?_list (by decide)], ?_⟩
    rw [String.append_assoc]
    exact primary?_unique _
  rw [listedTable, List.filterMap_eq_nil_iff.mpr fun l member => (columns l member).1,
    List.filterMap_eq_nil_iff.mpr fun l member => (columns l member).2]
  rfl

/-- The lines inside of the creation of a table are read as its columns and its key. -/
theorem listedTable_ofModel (engine : Engine) (n : NamedModel) :
    listedTable (indent (indent (indent (ofModel engine n).body))) =
      { columns := n.model.fields.map (listedColumn (counter? n.model))
        primary := declaredKey n.model } := by
  have columns : listedTable (((ofModel engine n).columns.map (·.write)).map ("      " ++ ·)) =
      { columns := n.model.fields.map (listedColumn (counter? n.model)), primary := [] } :=
    listedTable_columns engine _ _
  rw [indent_thrice, body, List.map_append, List.map_append, listedTable_append,
    listedTable_append, listedTable_unique, listedTable_key, columns]
  simp only [List.append_nil, List.nil_append]
  rfl

theorem createdFrom_skip {lines : List String} (others : ∀ l ∈ lines, creates? l = none)
    (rest : List String) : createdFrom (lines ++ rest) = createdFrom rest := by
  induction lines with
  | nil => rfl
  | cons l lines ih =>
    obtain ⟨first, later⟩ := List.forall_mem_cons.mp others
    rw [List.cons_append, createdFrom, first]
    exact ih later

theorem creates?_creation (name : String) :
    creates? ("  " ++ ("  " ++ ("await knex.schema.createTable(" ++ quote name ++
      ", (table) => " ++ "\x7b"))) = some name := by
  have line : ("  " ++ ("  " ++ ("await knex.schema.createTable(" ++ quote name ++
      ", (table) => " ++ "\x7b"))).toList = "    await knex.schema.createTable(".toList ++
        ((quote name).toList ++ ", (table) => \x7b".toList) := by
    simp only [String.toList_append, List.append_assoc]
    rfl
  rw [creates?, line, after?_append]
  simp only [Option.bind_eq_bind, Option.bind_some, unquote_quote, String.ofList_toList]

theorem createdFrom_write (t : Table) (rest : List String) :
    createdFrom (indent t.write ++ rest) =
      (t.name, listedTable (indent (indent (indent t.body)))) :: createdFrom rest := by
  have body : ∀ l ∈ indent (indent (indent t.body)), creates? l = none ∧ l ≠ "    \x7d);" := by
    intro l member
    rw [indent_thrice] at member
    obtain ⟨inner, -, rfl⟩ := List.mem_map.mp member
    refine ⟨?_, append_ne (by decide)⟩
    rw [creates?, String.toList_append]
    rfl
  have parts : indent t.write ++ rest =
      ("  " ++ ("if (!(await knex.schema.hasTable(" ++ quote t.name ++ "))) " ++ "\x7b")) ::
      ("  " ++ ("  " ++ ("await knex.schema.createTable(" ++ quote t.name ++ ", (table) => " ++
        "\x7b"))) :: (indent (indent (indent t.body)) ++ "    \x7d);" :: "  \x7d" :: rest) := by
    simp only [write, block, indent, List.map_cons, List.map_append, List.map_nil, List.cons_append,
      List.append_assoc, List.nil_append]
    rfl
  have guard : creates? ("  " ++ ("if (!(await knex.schema.hasTable(" ++ quote t.name ++ "))) " ++
      "\x7b")) = none := by
    simp only [creates?, String.toList_append, List.append_assoc]
    rfl
  rw [parts, createdFrom, guard]
  show createdFrom (_ :: _) = _
  rw [createdFrom, creates?_creation]
  show (_, listedTable (linesBefore "    \x7d);" _)) :: createdFrom _ = _
  rw [linesBefore_append fun l member => (body l member).2,
    createdFrom_skip fun l member => (body l member).1]
  rfl

theorem createdFrom_writeAll (ts : List Table) (rest : List String) :
    createdFrom (writeAll ts ++ rest) =
      ts.map (fun t => (t.name, listedTable (indent (indent (indent t.body))))) ++
        createdFrom rest := by
  induction ts with
  | nil => rfl
  | cons t ts ih =>
    cases ts with
    | nil => exact createdFrom_write t rest
    | cons u ts =>
      have lines : writeAll (t :: u :: ts) = indent t.write ++ "" :: writeAll (u :: ts) := rfl
      rw [lines, List.append_assoc, createdFrom_write]
      exact congrArg _ ih

theorem created_toModule (engine : Engine) (models : List NamedModel) :
    created (toModule (models.map (ofModel engine))) = models.map fun n =>
      (n.names.stem,
        { columns := n.model.fields.map (listedColumn (counter? n.model))
          primary := declaredKey n.model }) := by
  let tables := models.map (ofModel engine)
  have lines : (toModule tables).declarations.flatMap (·.lines) =
      "export async function ensureSchema(knex: Knex = db): Promise<void> \x7b" ::
        (writeAll tables ++ ["\x7d"]) := List.append_nil _
  have head : creates? "export async function ensureSchema(knex: Knex = db): Promise<void> \x7b" =
      none := rfl
  rw [created, lines, createdFrom, head]
  show createdFrom _ = _
  rw [createdFrom_writeAll, List.map_map]
  refine (List.append_nil _).trans (List.map_congr_left fun n _ => ?_)
  exact congrArg (n.names.stem, ·) (listedTable_ofModel engine n)

end Table

end ApiGraph.Backend
