import ApiGraph.Backend.Files
import ApiGraph.Proofs.Backend.Identifiers
import ApiGraph.Proofs.Backend.ImportLines
import ApiGraph.Proofs.Backend.ListedTables
import ApiGraph.Proofs.Backend.RouteLines

/-!
# Modules of models are legible

What the modules around the store import and export can be read off their texts, whatever the names
and the defaults of models are: user text stands in literals there.
-/

namespace ApiGraph.Backend

open Source

theorem isName_of_plain {name : String} (plain : Text.isPlainIdent name.toList = true)
    (other : name ≠ "type") : IsName name := by
  obtain ⟨nonempty, letters⟩ := Text.identRest_of_plain plain
  exact ⟨mt String.toList_eq_nil_iff.mpr nonempty, other, letters⟩

/-- A suffix that does not end the mark of a type makes a name of some letters. -/
theorem isName_append {stem suffix : String} (letters : ∀ c ∈ stem.toList, Text.isIdentRest c = true)
    (named : IsName suffix) (other : ¬ suffix.toList <:+ "type".toList) :
    IsName (stem ++ suffix) := by
  refine ⟨fun empty => named.1 ?_, fun same => other ?_, ?_⟩
  · have none := congrArg String.toList empty
    rw [String.toList_append] at none
    exact String.toList_eq_nil_iff.mp (List.append_eq_nil_iff.mp none).2
  · rw [← same, String.toList_append]
    exact List.suffix_append _ _
  · rw [String.toList_append]
    exact List.forall_mem_append.mpr ⟨letters, named.2.2⟩

theorem stops_of_starts {rest : String} (starts : Starts (!Text.isIdentRest ·) rest) :
    ∀ c ∈ rest.toList.head?, Text.isIdentRest c = false := by
  obtain ⟨d, cs, form, other⟩ := starts_iff.mp starts
  rw [form]
  rintro c ⟨⟩
  simpa using other

theorem Source.Declaration.legible_constant (exported : Bool) {name value : String}
    (named : IsName name) (unbroken : Unbroken value) :
    Declaration.Legible { exported, name, rest := " = " ++ value ++ ";" } where
  keyword := (by decide : "const" ++ " " ∈ declarators)
  named := named
  stops := stops_of_starts ((Starts.append (by decide) _).append _)
  unbroken := by simp +decide [unbroken]
  more := List.forall_mem_nil _

section

variable {models : List Model} {m : NamedModel} (member : m ∈ nameModels models)
include member

theorem type_isName : IsName m.names.type := by
  obtain ⟨c, rest, -, alnum, -, type⟩ := exists_names_spelling member
  obtain ⟨letter, inner⟩ := List.forall_mem_cons.mp alnum
  have notSmall : c.toUpper ≠ 't' :=
    Text.of_ascii (P := fun c => c.toUpper ≠ 't') (by decide) letter
  refine ⟨fun empty => ?_, fun same => notSmall ?_, ?_⟩
  · rw [empty] at type
    cases type
  · rw [same] at type
    exact (List.cons.inj type).1.symm
  · rw [type]
    exact List.forall_mem_cons.mpr ⟨Naming.identRest_of_alnum (Text.alnum_upper letter),
      fun d inside => Naming.identRest_of_alnum (inner d inside)⟩

theorem ident_letters : ∀ c ∈ m.names.ident.toList, Text.isIdentRest c = true :=
  (Text.identRest_of_plain (ident_plain member)).2

theorem repository_isName : IsName m.names.repository :=
  isName_append (ident_letters member) (by decide) (by decide)

theorem collection_isName : IsName m.names.collection :=
  isName_append (type_isName member).2.2 (by decide) (by decide)

theorem schema_isName : IsName (m.names.ident ++ "Schema") :=
  isName_append (ident_letters member) (by decide) (by decide)

end

theorem unbroken_propertyKey (name : String) : Unbroken (Text.propertyKey name) := by
  unfold Text.propertyKey
  split
  · rename_i plain
    exact unbroken_of_plain plain
  · exact unbroken_quote name

theorem unbroken_default {f : ModelField} {d : FieldDefault} (found : FieldDefault.stored f = some d)
    {time : String} (call : Unbroken time) : Unbroken (d.literal?.getD time) := by
  cases d with
  | now => exact call
  | number t =>
    exact unbroken_of_forall (FieldDefault.isDefaultChar_of_stored found) (by decide) (by decide)
  | boolean b =>
    cases b with
    | false => exact (by decide : Unbroken "false")
    | true => exact (by decide : Unbroken "true")
  | text s => exact unbroken_quote s

section

variable {p : Project}

theorem legible_interfaces :
    (Interface.toModule ((namedModels p).map .ofModel)).Legible where
  header := generated_free
  imports := List.forall_mem_nil _
  items := by
    have member_ (f : ModelField) : Unbroken (Member.ofField f).write := by
      have type : Unbroken f.type.memberType := by
        cases f.type <;> simp only [FieldType.memberType] <;> decide
      have mark : Unbroken (if (Member.ofField f).isOptional then "?" else "") := by
        split <;> decide
      have key : Unbroken (Text.propertyKey (Member.ofField f).name) := unbroken_propertyKey f.name
      have kind : Unbroken (Member.ofField f).type := type
      simp +decide [Member.write, key, mark, kind]
    intro item present
    obtain ⟨i, interface, inside⟩ := List.mem_flatMap.mp present
    obtain ⟨m, modeled, rfl⟩ := List.mem_map.mp interface
    have lines : ∀ line ∈ (Interface.ofModel m).members.map (·.write), Unbroken line := by
      refine List.forall_mem_map.mpr (List.forall_mem_map.mpr fun f _ => member_ f)
    have declared : (Interface.ofModel m).declaration.Legible :=
      Declaration.legible_ofBlock (by decide) (type_isName modeled) (by decide) (by decide) lines
        (by decide)
    rcases List.mem_cons.mp inside with rfl | inside
    · trivial
    · rw [List.mem_singleton.mp inside]
      exact .inl declared

theorem legible_connection : (Connection.toModule p).Legible := by
  have place : Unbroken (Connection.place p) := by
    have variableName : Unbroken (Connection.variableName p.settings.engine) := by
      cases p.settings.engine <;> decide
    simp +decide [Connection.place, variableName]
  have connects {line : String} (unbroken : Unbroken line) :
      (Item.declare (Connection.connectDatabase line)).Legible :=
    .inl (Declaration.legible_ofBlock (by decide) (by decide) (by decide) (by decide)
      (List.forall_mem_singleton.mpr unbroken) (by decide))
  have options : ∀ line ∈ Connection.builderOptions p, Unbroken line := by
    unfold Connection.builderOptions
    split <;> simp +decide [place]
  have builds : (Item.declare (Connection.builder (Connection.builderOptions p))).Legible :=
    .inl (Declaration.legible_ofBlock (by decide) (by decide) (by decide) (by decide) options
      (by decide))
  have opens : Unbroken ("await mongoose.connect(" ++ Connection.place p ++ ");") := by
    simp +decide [place]
  have knex : (defaultOf "knex" "knex").Legible := by decide
  have mongoose : (defaultOf "mongoose" "mongoose").Legible := by decide
  unfold Connection.toModule
  split
  · refine ⟨generated_free, List.forall_mem_singleton.mpr knex, ?_⟩
    simp only [List.forall_mem_cons]
    exact ⟨trivial, builds, trivial, connects (by decide), List.forall_mem_nil _⟩
  · refine ⟨generated_free, List.forall_mem_singleton.mpr mongoose, ?_⟩
    simp only [List.forall_mem_cons]
    exact ⟨trivial, connects opens, List.forall_mem_nil _⟩

theorem unbroken_column (engine : Engine) (counter : Option String) (f : ModelField) :
    Unbroken (Table.column engine counter f).write := by
  by_cases counts : counter = some f.name
  · have form : (Table.column engine counter f).write =
        "table.increments(" ++ Text.quote f.name ++ ");" :=
      congrArg Column.write (if_pos counts)
    have call : Unbroken "table.increments(" := by decide
    have closes : Unbroken ");" := by decide
    rw [form, unbroken_append, unbroken_append]
    exact ⟨⟨call, unbroken_quote _⟩, closes⟩
  · have form : (Table.column engine counter f).write = (Column.typed f.name
        (f.type.columnMethod engine) f.required (FieldDefault.stored f)).write :=
      congrArg Column.write (if_neg counts)
    have method : Unbroken (f.type.columnMethod engine) :=
      (by decide : ∀ m ∈ Table.methods, Unbroken m) _ (Table.columnMethod_mem engine f.type).1
    have required : Unbroken (if f.required then ".notNullable()" else "") := by split <;> decide
    have default_ : Unbroken (Table.defaultCall (FieldDefault.stored f)) := by
      cases found : FieldDefault.stored f with
      | none => exact (by decide : Unbroken "")
      | some d =>
        have call : Unbroken ".defaultTo(" := by decide
        have text : Unbroken (Column.defaultText d) := unbroken_default found (by decide)
        exact unbroken_append.mpr ⟨unbroken_append.mpr ⟨call, text⟩, by decide⟩
    have table : Unbroken "table." := by decide
    have opens : Unbroken "(" := by decide
    have closes : Unbroken ")" := by decide
    have ends : Unbroken ";" := by decide
    rw [form, Table.typed_write_eq]
    simp only [unbroken_append]
    exact ⟨⟨⟨⟨table, method⟩, opens⟩, unbroken_quote _⟩, closes, required, default_, ends⟩

theorem unbroken_table (engine : Engine) (m : NamedModel) :
    ∀ line ∈ (Table.ofModel engine m).write, Unbroken line := by
  have columns : ∀ line ∈ (Table.ofModel engine m).columns.map (·.write), Unbroken line :=
    List.forall_mem_map.mpr (List.forall_mem_map.mpr fun f _ => unbroken_column engine _ f)
  have body : ∀ line ∈ (Table.ofModel engine m).body, Unbroken line := by
    simp only [Table.body, List.forall_mem_append]
    refine ⟨⟨columns, ?_⟩, List.forall_mem_map.mpr fun name _ => ?_⟩
    · split <;> simp +decide
    · simp +decide
  refine unbroken_block ?_ (unbroken_block ?_ body (by decide)) (by decide)
  · simp +decide
  · simp +decide

theorem legible_tables :
    (Table.toModule ((namedModels p).map (Table.ofModel p.settings.engine))).Legible where
  header := generated_free
  imports := (by decide : ∀ i ∈ [types ["Knex"] "knex", values ["db"] "./client"], i.Legible)
  items := by
    have lines : ∀ ts : List Table, (∀ t ∈ ts, ∀ line ∈ t.write, Unbroken line) →
        ∀ line ∈ Table.writeAll ts, ImportFree line := by
      intro ts each
      induction ts with
      | nil => exact List.forall_mem_nil _
      | cons t ts ih =>
        obtain ⟨first, later⟩ := List.forall_mem_cons.mp each
        have gap : ImportFree "" := by decide
        cases ts with
        | nil => exact importFree_indent first
        | cons next ts =>
          exact List.forall_mem_append.mpr ⟨importFree_indent first,
            List.forall_mem_cons.mpr ⟨gap, ih later⟩⟩
    have tables : ∀ t ∈ (namedModels p).map (Table.ofModel p.settings.engine),
        ∀ line ∈ t.write, Unbroken line := List.forall_mem_map.mpr fun m _ => unbroken_table _ m
    have closes : ImportFree "\x7d" := by decide
    refine List.forall_mem_cons.mpr ⟨trivial, List.forall_mem_singleton.mpr (.inl ?_)⟩
    refine Declaration.legible_literal rfl (by decide)
      (by decide : "async function" ++ " " ∈ declarators) (by decide : IsName "ensureSchema") ?_
    exact List.forall_mem_append.mpr ⟨lines _ tables, List.forall_mem_singleton.mpr closes⟩

theorem unbroken_path (f : ModelField) : Unbroken (DocumentPath.ofField f).write := by
  have key := unbroken_propertyKey f.name
  have kind : Unbroken f.type.documentType :=
    (by decide : ∀ t ∈ Collection.types, Unbroken t) _ (Collection.documentType_mem f.type)
  have required : ∀ part ∈ if f.required then ["required: true"] else [], Unbroken part := by
    split <;> decide
  have unique : ∀ part ∈ if f.unique && !f.isId then ["unique: true"] else [], Unbroken part := by
    split <;> decide
  have default_ : ∀ part ∈ ((FieldDefault.stored f).map fun d =>
      "default: " ++ DocumentPath.defaultText d).toList, Unbroken part := by
    cases found : FieldDefault.stored f with
    | none => simp
    | some d =>
      have text : Unbroken (DocumentPath.defaultText d) := unbroken_default found (by decide)
      simpa +decide using text
  have parts := unbroken_inBraces.mpr (List.forall_mem_append.mpr ⟨List.forall_mem_append.mpr
    ⟨List.forall_mem_append.mpr ⟨List.forall_mem_singleton.mpr
      (unbroken_append.mpr ⟨(by decide : Unbroken "type: "), kind⟩), required⟩, unique⟩, default_⟩)
  have colon : Unbroken ": " := by decide
  have comma : Unbroken "," := by decide
  exact unbroken_append.mpr
    ⟨unbroken_append.mpr ⟨unbroken_append.mpr ⟨key, colon⟩, parts⟩, comma⟩

theorem Collection.schema_legible {m : NamedModel} (member : m ∈ namedModels p) :
    (schemaDeclaration (.ofModel m)).Legible where
  keyword := (by decide : "const" ++ " " ∈ declarators)
  named := schema_isName member
  stops := stops_of_starts ((Starts.append (by decide) _).append _)
  unbroken := by
    simp +decide [schemaDeclaration, ofModel, (type_isName member).unbroken]
  more := by
    have paths : ∀ line ∈ (ofModel m).paths.map (·.write), Unbroken line :=
      List.forall_mem_map.mpr (List.forall_mem_map.mpr fun f _ => unbroken_path f)
    have closes : ImportFree ");" := by decide
    refine List.forall_mem_append.mpr ⟨importFree_indent ?_, List.forall_mem_singleton.mpr closes⟩
    refine List.forall_mem_append.mpr ⟨unbroken_block (by decide) paths (by decide), ?_⟩
    simp +decide

theorem Collection.model_legible {m : NamedModel} (member : m ∈ namedModels p) :
    (modelDeclaration (.ofModel m)).Legible where
  keyword := (by decide : "const" ++ " " ∈ declarators)
  named := collection_isName member
  stops := stops_of_starts
    ((((Starts.append (by decide) _).append _).append _).append _ |>.append _ |>.append _)
  unbroken := by
    have ident : Unbroken m.names.ident := unbroken_of_plain (ident_plain member)
    simp +decide [modelDeclaration, ofModel, (type_isName member).unbroken, ident]
  more := List.forall_mem_nil _

theorem legible_collection {m : NamedModel} (member : m ∈ namedModels p) :
    (Collection.ofModel m).toModule.Legible where
  header := generated_free
  imports := by
    have schema : Import.Legible (values ["Schema", "model"] "mongoose") := by decide
    refine List.forall_mem_cons.mpr ⟨schema, List.forall_mem_singleton.mpr ?_⟩
    exact List.forall_mem_singleton.mpr (type_isName member)
  items := List.forall_mem_cons.mpr ⟨trivial, List.forall_mem_cons.mpr
    ⟨.inl (Collection.schema_legible member), List.forall_mem_cons.mpr
      ⟨trivial, List.forall_mem_singleton.mpr (.inl (Collection.model_legible member))⟩⟩⟩

end

namespace Repository

theorem legible_function {name parameters result : String} {body : List String}
    (named : IsName name) (taken : Unbroken parameters) (returned : Unbroken result)
    (each : ∀ line ∈ body, Unbroken line) :
    ∀ item ∈ function name parameters result body, item.Legible := by
  refine List.forall_mem_cons.mpr ⟨.inl ?_, List.forall_mem_singleton.mpr trivial⟩
  have rest : "(" ++ parameters ++ "): Promise<" ++ result ++ "> " =
      "(" ++ (parameters ++ "): Promise<" ++ result ++ "> ") := by
    simp only [String.append_assoc]
  have head : ("(" ++ parameters ++ "): Promise<" ++ result ++ "> " ++ "\x7b").toList.head?.all
      (!Text.isIdentRest ·) = true := by
    rw [rest, String.append_assoc, String.toList_append]
    rfl
  refine Declaration.legible_ofBlock (by decide) named head ?_ each (by decide)
  simp +decide [taken, returned]

section

variable {r : Repository}

theorem unbroken_searchParameters : Unbroken searchParameters := unbroken_literal (by decide)

theorem unbroken_inputParameter : Unbroken inputParameter := unbroken_literal (by decide)

theorem unbroken_limitLine : Unbroken limitLine := unbroken_literal (by decide)

theorem unbroken_idFilter (k : RecordKey) : Unbroken (idFilter k) := by
  simp +decide [idFilter]

theorem unbroken_fillKey : ∀ line ∈ r.fillKey, Unbroken line := by
  have opens : Unbroken "if (" := by decide
  have missing : Unbroken " === undefined) " := by decide
  have random : Unbroken " = randomUUID();" := by decide
  unfold fillKey
  split
  · rename_i k _
    have cell : Unbroken ("row[" ++ Text.quote k.name ++ "]") := by simp +decide
    split
    · simp only [List.forall_mem_singleton, unbroken_append (b := " = randomUUID();"),
        unbroken_append (b := "row[" ++ Text.quote k.name ++ "]"),
        unbroken_append (b := " === undefined) "), cell, opens, missing, random, and_self]
    · exact List.forall_mem_nil _
  · exact List.forall_mem_nil _

variable (type : Unbroken r.names.type)
include type

theorem unbroken_tableInsertion : ∀ line ∈ r.tableInsertion, Unbroken line := by
  unfold tableInsertion
  split
  all_goals
    simp only [List.forall_mem_cons, unbroken_append, unbroken_quote, type, and_true]
    and_intros
    all_goals first | exact unbroken_literal (by decide) | exact List.forall_mem_nil _

theorem legible_creation {storing : List String} (stores : ∀ line ∈ storing, Unbroken line) :
    ∀ item ∈ r.creation storing, item.Legible := by
  have row : Unbroken "const row = pick(input);" := by decide
  refine legible_function (by decide) unbroken_inputParameter type ?_
  exact List.forall_mem_append.mpr ⟨List.forall_mem_append.mpr
    ⟨List.forall_mem_singleton.mpr row, unbroken_fillKey⟩, stores⟩

theorem legible_tableSearch : ∀ item ∈ r.tableSearch, item.Legible := by
  have result : Unbroken (r.names.type ++ "[]") := unbroken_append.mpr ⟨type, by decide⟩
  refine legible_function (by decide) unbroken_searchParameters result ?_
  simp only [List.forall_mem_cons, unbroken_append, type, unbroken_limitLine, true_and, and_true]
  and_intros
  all_goals first | exact unbroken_literal (by decide) | exact List.forall_mem_nil _

theorem legible_tableLookup (k : RecordKey) : ∀ item ∈ r.tableLookup k, item.Legible := by
  have result : Unbroken (r.names.type ++ " | null") := unbroken_append.mpr ⟨type, by decide⟩
  refine legible_function (by decide) (by decide) result ?_
  simp only [List.forall_mem_cons, unbroken_append, unbroken_quote, type, and_true]
  and_intros
  all_goals first | exact unbroken_literal (by decide) | exact List.forall_mem_nil _

theorem legible_tableChanges (k : RecordKey) : ∀ item ∈ r.tableChanges k, item.Legible := by
  have result : Unbroken (r.names.type ++ " | null") := unbroken_append.mpr ⟨type, by decide⟩
  have input : Unbroken ("id: string, " ++ inputParameter) :=
    unbroken_append.mpr ⟨by decide, unbroken_inputParameter⟩
  have changes : ∀ line ∈ block "if (Object.keys(changes).length > 0) "
      ["await db(TABLE).where(" ++ Text.quote k.name ++ ", id).update(changes);"] "",
      Unbroken line := by
    refine unbroken_block (unbroken_literal (by decide)) ?_ (by decide)
    simp +decide
  refine List.forall_mem_append.mpr ⟨legible_function (by decide) input result ?_,
    legible_function (by decide) (by decide) (by decide) ?_⟩
  · simp only [List.forall_mem_append, List.forall_mem_cons, unbroken_append, unbroken_quote,
      and_true]
    and_intros
    all_goals first
      | exact unbroken_literal (by decide)
      | exact List.forall_mem_nil _
      | exact changes
  · simp +decide

theorem legible_collectionSearch (collection : Unbroken r.names.collection) :
    ∀ item ∈ r.collectionSearch, item.Legible := by
  have result : Unbroken (r.names.type ++ "[]") := unbroken_append.mpr ⟨type, by decide⟩
  have sorts : ∀ line ∈ block "if (options.orderBy) "
      ["query = query.sort(" ++
        inBraces ["[options.orderBy.field]: options.orderBy.direction === 'desc' ? -1 : 1"] ++
        ");"] "", Unbroken line := by
    refine unbroken_block (by decide) ?_ (by decide)
    simp only [List.forall_mem_singleton, unbroken_append, unbroken_inBraces]
    and_intros
    all_goals exact unbroken_literal (by decide)
  refine legible_function (by decide) unbroken_searchParameters result ?_
  simp only [List.forall_mem_append, List.forall_mem_cons, unbroken_append, type, collection,
    unbroken_limitLine, true_and, and_true]
  and_intros
  all_goals first
    | exact unbroken_literal (by decide)
    | exact List.forall_mem_nil _
    | exact sorts

theorem legible_collectionLookup (collection : Unbroken r.names.collection) (k : RecordKey) :
    ∀ item ∈ r.collectionLookup k, item.Legible := by
  have result : Unbroken (r.names.type ++ " | null") := unbroken_append.mpr ⟨type, by decide⟩
  refine legible_function (by decide) (by decide) result ?_
  simp +decide [type, collection, unbroken_idFilter]

theorem legible_collectionChanges (collection : Unbroken r.names.collection) (k : RecordKey) :
    ∀ item ∈ r.collectionChanges k, item.Legible := by
  have result : Unbroken (r.names.type ++ " | null") := unbroken_append.mpr ⟨type, by decide⟩
  have input : Unbroken ("id: string, " ++ inputParameter) :=
    unbroken_append.mpr ⟨by decide, unbroken_inputParameter⟩
  refine List.forall_mem_append.mpr ⟨legible_function (by decide) input result ?_,
    legible_function (by decide) (by decide) (by decide) ?_⟩
  · simp +decide [type, collection, unbroken_idFilter]
  · simp +decide [collection, unbroken_idFilter]

theorem legible_functions (collection : Unbroken r.names.collection) :
    ∀ item ∈ r.functions, item.Legible := by
  have keyed {items : RecordKey → List Item} (each : ∀ k, ∀ item ∈ items k, item.Legible) :
      ∀ item ∈ r.key.toList.flatMap items, item.Legible := by
    intro item member
    obtain ⟨k, -, inside⟩ := List.mem_flatMap.mp member
    exact each k item inside
  have stores : ∀ line ∈ ["const created = await " ++ r.names.collection ++ ".create(row);",
      "return created.toObject() as " ++ r.names.type ++ ";"], Unbroken line := by
    simp +decide [type, collection]
  unfold functions
  split
  · simp only [List.forall_mem_append]
    exact ⟨⟨⟨legible_tableSearch type, keyed (legible_tableLookup type)⟩,
      legible_creation type (unbroken_tableInsertion type)⟩, keyed (legible_tableChanges type)⟩
  · simp only [List.forall_mem_append]
    exact ⟨⟨⟨legible_collectionSearch type collection,
      keyed (legible_collectionLookup type collection)⟩, legible_creation type stores⟩,
      keyed (legible_collectionChanges type collection)⟩

end

theorem legible_pick : pick.Legible := by
  have keeps : ∀ line ∈ block "for (const column of COLUMNS) "
      ["if (input[column] !== undefined) row[column] = input[column];"] "", Unbroken line :=
    unbroken_block (by decide) (List.forall_mem_singleton.mpr (unbroken_literal (by decide)))
      (by decide)
  have row : Unbroken "const row: Record<string, unknown> = \x7b\x7d;" :=
    unbroken_literal (by decide)
  have parameters : Unbroken ("(" ++ inputParameter ++ "): Record<string, unknown> ") :=
    unbroken_append.mpr ⟨unbroken_append.mpr ⟨by decide, unbroken_inputParameter⟩, by decide⟩
  refine Declaration.legible_ofBlock (by decide) (by decide) ?_ parameters ?_ (by decide)
  · rw [String.append_assoc, String.append_assoc, String.toList_append]
    rfl
  · exact List.forall_mem_append.mpr ⟨List.forall_mem_append.mpr
      ⟨List.forall_mem_singleton.mpr row, keeps⟩, List.forall_mem_singleton.mpr (by decide)⟩

end Repository

section

variable {p : Project}

theorem Repository.imports_legible {m : NamedModel} (member : m ∈ namedModels p) :
    ∀ i ∈ imports (ofModel p.settings.engine m), i.Legible := by
  have type : ∀ source, (types [m.names.type] source).Legible := fun _ =>
    List.forall_mem_singleton.mpr (type_isName member)
  have collection : ∀ source, (values [m.names.collection] source).Legible := fun _ =>
    List.forall_mem_singleton.mpr (collection_isName member)
  have random : (values ["randomUUID"] "node:crypto").Legible := by decide
  have request : (types ["Request"] "express").Legible := by decide
  have db : (values ["db"] "../db/client").Legible := by decide
  have apply : Import.Legible ⟨.names [⟨"applyFilters", false⟩, ⟨"FindManyOptions", true⟩],
      "../db/filters"⟩ := by decide
  have build : Import.Legible ⟨.names [⟨"buildFilter", false⟩, ⟨"FindManyOptions", true⟩],
      "../db/filters"⟩ := by decide
  simp only [imports, List.forall_mem_append, List.forall_mem_singleton]
  refine ⟨⟨⟨?_, request⟩, ?_⟩, type _⟩
  · split
    · exact List.forall_mem_singleton.mpr random
    · exact List.forall_mem_nil _
  · split
    · exact List.forall_mem_cons.mpr ⟨db, List.forall_mem_singleton.mpr apply⟩
    · exact List.forall_mem_cons.mpr ⟨build, List.forall_mem_singleton.mpr (collection _)⟩

theorem legible_repository {m : NamedModel} (member : m ∈ namedModels p) :
    (Repository.ofModel p.settings.engine m).toModule.Legible where
  header := generated_free
  imports := Repository.imports_legible member
  items := by
    have functions := Repository.legible_functions
      (r := Repository.ofModel p.settings.engine m) (type_isName member).unbroken
      (collection_isName member).unbroken
    have table := Declaration.legible_constant false (by decide : IsName "TABLE")
      (unbroken_quote m.names.stem)
    have columns : Unbroken (inBrackets ((m.model.fields.map (·.name)).map Text.quote)) := by
      simp
    have listed := Declaration.legible_constant false (by decide : IsName "COLUMNS") columns
    have methods : ∀ name ∈ (Repository.ofModel p.settings.engine m).methods, Unbroken name := by
      unfold Repository.methods
      split <;> decide
    have offers := Declaration.legible_constant true (repository_isName member)
      (unbroken_inBraces.mpr methods)
    refine List.forall_mem_cons.mpr ⟨trivial, List.forall_mem_append.mpr
      ⟨List.forall_mem_append.mpr ⟨List.forall_mem_append.mpr ⟨?_, ?_⟩, functions⟩,
        List.forall_mem_singleton.mpr (.inl offers)⟩⟩
    · split
      · exact List.forall_mem_singleton.mpr (.inl table)
      · exact List.forall_mem_nil _
    · simp only [List.forall_mem_cons]
      exact ⟨.inl listed, trivial, .inl Repository.legible_pick, trivial, List.forall_mem_nil _⟩

end

end ApiGraph.Backend
