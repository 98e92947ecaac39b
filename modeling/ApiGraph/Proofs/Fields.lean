import ApiGraph.Proofs.Models

namespace ApiGraph

open Backend

namespace Backend

/-- The columns of the primary key, which counts by itself or is declared below the columns. -/
def ListedTable.keyNames (t : ListedTable) : List String :=
  (t.columns.filter (·.isCounter)).map (·.name) ++ t.primary

/-- A column lists a field: it has its name and says whether it is required, unless it counts. -/
structure ListedColumn.Lists (c : ListedColumn) (m : Model) (f : ModelField) : Prop where
  name : c.name = f.name
  isCounter : c.isCounter = true ↔ ∃ g, m.primaryKey = [g] ∧ g.type = .int ∧ g.name = f.name
  notNull : c.isCounter = false → c.notNull = f.required

namespace Table

theorem counter?_eq_some_iff {m : Model} {name : String} :
    counter? m = some name ↔ ∃ g, m.primaryKey = [g] ∧ g.type = .int ∧ g.name = name := by
  unfold counter?
  split
  · rename_i g key
    simp only [key, List.cons.injEq, and_true]
    constructor
    · intro found
      split at found
      · rename_i int
        exact ⟨g, rfl, int, Option.some.inj found⟩
      · cases found
    · rintro ⟨_, rfl, int, rfl⟩
      rw [if_pos int]
  · rename_i other
    constructor
    · intro found
      cases found
    · rintro ⟨g, key, -⟩
      exact absurd key (other g)

theorem listedColumn_lists (m : Model) (f : ModelField) :
    (listedColumn (counter? m) f).Lists m f where
  name := rfl
  isCounter := by
    rw [← counter?_eq_some_iff]
    exact decide_eq_true_iff
  notNull typed := by
    have other : counter? m ≠ some f.name := of_decide_eq_false typed
    simp [listedColumn, other]

/-- The key of the table of a model is made of its id fields. -/
theorem mem_keyNames_iff (m : Model) (name : String) :
    name ∈ ListedTable.keyNames
        { columns := m.fields.map (listedColumn (counter? m)), primary := declaredKey m } ↔
      ∃ f ∈ m.fields, f.isId = true ∧ f.name = name := by
  have ids : (∃ f ∈ m.fields, f.isId = true ∧ f.name = name) ↔
      name ∈ m.primaryKey.map (·.name) := by
    simp [Model.primaryKey, and_assoc]
  have counters : name ∈ ((m.fields.map (listedColumn (counter? m))).filter (·.isCounter)).map
      (·.name) ↔ ∃ f ∈ m.fields, counter? m = some f.name ∧ f.name = name := by
    simp [listedColumn, and_assoc]
  rw [ids, ListedTable.keyNames, List.mem_append, counters, declaredKey]
  -- the key is declared if no column counts, and one that counts is the only id
  cases counts : counter? m with
  | none => simp
  | some key =>
    obtain ⟨g, only, -, rfl⟩ := counter?_eq_some_iff.mp counts
    have present : g ∈ m.fields := List.mem_of_mem_filter (only ▸ List.mem_singleton_self g)
    simp only [only, Option.isSome_some, if_true, List.map_cons, List.map_nil, List.mem_singleton,
      List.not_mem_nil, or_false, Option.some.injEq]
    exact ⟨fun ⟨f, _, key, same⟩ => (key.trans same).symm, fun same => ⟨g, present, rfl, same.symm⟩⟩

end Table

end Backend

namespace Json

theorem lookup_map_of_mem {α β : Type} {key : α → String} {value : α → β} {l : List α}
    (distinct : (l.map key).Nodup) {a : α} (member : a ∈ l) :
    (l.map fun a => (key a, value a)).lookup (key a) = some (value a) := by
  have keys : ((l.map fun a => (key a, value a)).map (·.1)).Nodup := by
    rw [List.map_map]
    exact distinct
  exact lookup_eq_some_of_mem keys (List.mem_map.mpr ⟨a, member, rfl⟩)

def keys : Json → List String
  | .obj fields => fields.map (·.1)
  | _ => []

def texts : Json → List String
  | .arr items => items.filterMap fun
    | .str s => some s
    | _ => none
  | _ => []

theorem texts_strings (l : List String) : (strings l).texts = l := by
  rw [strings, texts, List.filterMap_map]
  exact List.filterMap_some

end Json

namespace Project

/-- The artifacts of a model list its fields in the order of their declaration, and say which are
required and which make up the key. -/
structure FieldsListed (p : Project) (n : NamedModel) : Prop where
  interface : ∃ m members, p.moduleAt? ["src", "types", "models.ts"] = some m ∧
    (Interface.listed m).lookup n.names.type = some (some members) ∧
    members = n.model.fields.map fun f => (f.name, f.required)
  repository : ∃ m, p.moduleAt? ["src", "repositories", n.names.stem ++ ".repository.ts"] = some m ∧
    Repository.columns? m = some (n.model.fields.map (·.name))
  table : p.settings.engine.isSql = true →
    ∃ m t, p.moduleAt? ["src", "db", "schema.ts"] = some m ∧
      (Table.created m).lookup n.names.stem = some t ∧
      List.Forall₂ (fun c f => c.Lists n.model f) t.columns n.model.fields ∧
      ∀ name, name ∈ t.keyNames ↔ ∃ f ∈ n.model.fields, f.isId = true ∧ f.name = name
  collection : p.settings.engine.isSql = false →
    ∃ m, p.moduleAt? ["src", "models", n.names.stem ++ ".model.ts"] = some m ∧
      Collection.paths? (n.names.ident ++ "Schema") m =
        some (n.model.fields.map fun f => (f.name, f.required))
  component : ∃ c, p.compile.document.toJson.at? ["components", "schemas", n.model.name] = some c ∧
    (c.get? "properties").map Json.keys = some (firsts (n.model.fields.map (·.name))) ∧
    ((c.get? "required").map Json.texts).getD [] =
      (n.model.fields.filter (·.required)).map (·.name)

theorem fieldsListed_of_named {p : Project} {n : NamedModel} (member : n ∈ namedModels p)
    (first : p.model? n.model.name = some n.model) : FieldsListed p n where
  interface := by
    refine ⟨_, _, moduleAt_of_mem (interface_mem p _ _), ?_, rfl⟩
    rw [Interface.listed_toModule, List.map_map]
    have members : (Interface.ofModel n).members.map (fun m => (m.name, !m.isOptional)) =
        n.model.fields.map fun f => (f.name, f.required) := by
      simp [Interface.ofModel, Member.ofField]
    rw [← members]
    exact Json.lookup_map_of_mem (types_nodup p.emittedModels) member
  repository := ⟨_, moduleAt_of_mem (repository_mem p _ _ member), Repository.columns?_toModule _⟩
  table sql := by
    refine ⟨_, _, moduleAt_of_mem (table_mem p _ _ sql), ?_, ?_, Table.mem_keyNames_iff n.model⟩
    · rw [Table.created_toModule]
      exact Json.lookup_map_of_mem (stems_nodup p.emittedModels) member
    · rw [List.forall₂_map_left_iff, List.forall₂_same]
      exact fun f _ => Table.listedColumn_lists n.model f
  collection notSql :=
    ⟨_, moduleAt_of_mem (collection_mem p _ _ notSql member), Collection.paths?_toModule n⟩
  component := by
    obtain ⟨properties, found, names⟩ := OpenApi.Schema.properties_ofModel n.model
    refine ⟨_, OpenApi.Document.component_of_model first _, ?_, ?_⟩
    · rw [found, ← names]
      rfl
    · rw [OpenApi.Schema.required_ofModel]
      split
      · rename_i empty
        rw [List.isEmpty_iff.mp empty]
        rfl
      · exact Json.texts_strings _

/-- Every model that gets artifacts has its fields in all of them. -/
theorem fields_listed (p : Project) {m : Model} (first : p.model? m.name = some m)
    (named : Text.isBlank m.name = false) :
    ∃ n ∈ namedModels p, n.model = m ∧ FieldsListed p n := by
  have emitted : m ∈ p.emittedModels := by
    have kept := filter_firstsBy (!Text.isBlank ·) Model.name p.models
    rw [emittedModels, ← kept]
    exact List.mem_filter.mpr ⟨OpenApi.Document.mem_firstsBy_name first, by simp [named]⟩
  rw [← nameModels_models p.emittedModels] at emitted
  obtain ⟨n, member, rfl⟩ := List.mem_map.mp emitted
  exact ⟨n, member, rfl, fieldsListed_of_named member first⟩

def tag : Model where
  name := "Tag"
  fields :=
    [{ name := "id", type := .int, isId := true },
     { name := "label", type := .string, required := true },
     { name := "sort order", type := .int, default? := some "-1" }]

def taggedTwice : Project where
  models := [tag, { name := "Tag", fields := [{ name := "other", type := .string }] }]

/-- Of two models with one name the first has the artifacts, and its id is the key of the table. -/
theorem taggedTwice_listed :
    ∃ n ∈ namedModels taggedTwice, n.model = tag ∧ FieldsListed taggedTwice n ∧
      ∃ m t, taggedTwice.moduleAt? ["src", "db", "schema.ts"] = some m ∧
        (Table.created m).lookup n.names.stem = some t ∧ "id" ∈ t.keyNames := by
  have first : taggedTwice.model? tag.name = some tag := rfl
  obtain ⟨n, member, same, listed⟩ := fields_listed taggedTwice first (by decide)
  obtain ⟨m, t, present, found, -, key⟩ := listed.table rfl
  refine ⟨n, member, same, listed, m, t, present, found, (key "id").mpr ?_⟩
  exact ⟨{ name := "id", type := .int, isId := true }, same ▸ by decide, rfl, rfl⟩

end Project

end ApiGraph
