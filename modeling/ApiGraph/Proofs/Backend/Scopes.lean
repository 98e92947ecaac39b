import ApiGraph.Proofs.Backend.Calls
import ApiGraph.Proofs.Backend.Identifiers
import ApiGraph.Proofs.Models

/-!
# Names of data modules

The module of a repository and that of a collection bind fixed names, and names made from those of
the model. Only the imported interface can share the name of another binding, and it does where it
is called like a capitalized fixed name (`Project.data_bindings`).
-/

namespace ApiGraph

namespace Backend

open Text

/-- A module binds no name twice but one, and this one only where it is reserved. -/
structure Source.Module.OneOpen (m : Source.Module) (name : String) (reserved : List String) :
    Prop where
  nodup_iff : m.bindings.Nodup ↔ name ∉ reserved
  others : ∀ other ≠ name, m.bindings.count other ≤ 1

theorem Source.Module.oneOpen_of_perm {m : Source.Module} {name : String}
    {others reserved : List String} (perm : m.bindings.Perm (name :: others))
    (distinct : others.Nodup) (open_iff : name ∈ others ↔ name ∈ reserved) :
    m.OneOpen name reserved where
  nodup_iff := by
    rw [perm.nodup_iff, List.nodup_cons, open_iff]
    exact and_iff_left distinct
  others other different := by
    rw [perm.count_eq, List.count_cons_of_ne (Ne.symm different)]
    exact List.nodup_iff_count_le_one.mp distinct other

/-- Bindings begin with a small letter or an underscore, and interfaces do not. -/
def beginsSmall (s : String) : Bool := s.toList.head?.any fun c => c.isLower || c == '_'

section

variable {models : List Model} {x : NamedModel}

theorem ident_beginsSmall (member : x ∈ nameModels models) (suffix : String) :
    beginsSmall (x.names.ident ++ suffix) = true := by
  obtain ⟨c, rest, -, alnum, ident, -⟩ := exists_names_spelling member
  have small : isAsciiAlnum c = true →
      ¬ c.toLower.isDigit = true → (c.toLower.isLower || c.toLower == '_') = true :=
    of_ascii (P := fun c => isAsciiAlnum c = true →
      ¬ c.toLower.isDigit = true → (c.toLower.isLower || c.toLower == '_') = true)
      (by decide) (alnum c List.mem_cons_self)
  rw [beginsSmall, String.toList_append, ident, Naming.guarded]
  split
  · rfl
  · rename_i letter
    exact small (alnum c List.mem_cons_self) letter

theorem type_not_beginsSmall (member : x ∈ nameModels models) (suffix : String) :
    beginsSmall (x.names.type ++ suffix) = false := by
  obtain ⟨c, rest, -, alnum, -, type⟩ := exists_names_spelling member
  have large : isAsciiAlnum c = true → (c.toUpper.isLower || c.toUpper == '_') = false :=
    of_ascii (P := fun c => isAsciiAlnum c = true →
      (c.toUpper.isLower || c.toUpper == '_') = false) (by decide) (alnum c List.mem_cons_self)
  rw [beginsSmall, String.toList_append, type]
  exact large (alnum c List.mem_cons_self)

theorem type_ne_ident (member : x ∈ nameModels models) (left right : String) :
    x.names.type ++ left ≠ x.names.ident ++ right := by
  intro same
  have begins := type_not_beginsSmall member left
  rw [same, ident_beginsSmall member right] at begins
  exact absurd begins (by decide)

theorem type_ne_binding (member : x ∈ nameModels models) (suffix : String) :
    x.names.type ≠ x.names.ident ++ suffix := by
  have different := type_ne_ident member "" suffix
  rwa [String.append_empty] at different

/-- A fixed name that an interface may have is one that does not begin like a variable. -/
theorem type_mem_iff (member : x ∈ nameModels models) {names : List String} :
    x.names.type ∈ names ↔ x.names.type ∈ names.filter fun name => !beginsSmall name := by
  have large := type_not_beginsSmall member ""
  rw [String.append_empty] at large
  simp [List.mem_filter, large]

end

theorem append_ne_self {s suffix : String} (some : suffix ≠ "") : s ≠ s ++ suffix := by
  intro same
  have chars := congrArg String.toList same
  rw [String.toList_append, List.self_eq_append_right] at chars
  exact some (String.toList_inj.mp chars)

namespace Repository

/-- The fixed names before those of the model, for rows or documents, with or without keys that are
generated. -/
def leading (sql generated : Bool) : List String :=
  (if generated then ["randomUUID"] else []) ++ ["Request"] ++
    (if sql then ["db", "applyFilters"] else ["buildFilter"]) ++ ["FindManyOptions"]

/-- The fixed names behind them, with or without a key. -/
def trailing (sql keyed : Bool) : List String :=
  (if sql then ["TABLE"] else []) ++ ["COLUMNS", "pick"] ++
    if keyed then ["findMany", "findById", "create", "update", "remove"]
    else ["findMany", "create"]

def fixed (r : Repository) : List String :=
  leading r.engine.isSql (r.key.any (·.isGenerated)) ++ trailing r.engine.isSql r.key.isSome

def own (r : Repository) : List String :=
  (if r.engine.isSql then [] else [r.names.collection]) ++ [r.names.repository]

/-- The fixed names that an interface may have. -/
def reserved (sql : Bool) : List String :=
  ["Request", "FindManyOptions"] ++ (if sql then ["TABLE"] else []) ++ ["COLUMNS"]

theorem bindings_perm (r : Repository) :
    r.toModule.bindings.Perm (r.names.type :: (r.own ++ r.fixed)) := by
  have bindings : r.toModule.bindings =
      leading r.engine.isSql (r.key.any (·.isGenerated)) ++
        (if r.engine.isSql then [] else [r.names.collection]) ++ [r.names.type] ++
        (trailing r.engine.isSql r.key.isSome ++ [r.names.repository]) := by
    obtain ⟨names, engine, columns, key⟩ := r
    -- the engine and the kind of key decide which of the fixed names there are
    cases engine <;> rcases key with _ | ⟨name, generated⟩ <;> try cases generated
    all_goals rfl
  rw [bindings, List.perm_iff_count]
  intro name
  simp only [own, fixed, List.count_append, List.count_cons, List.count_nil]
  omega

theorem fixed_nodup (r : Repository) : r.fixed.Nodup :=
  (by decide : ∀ sql generated keyed, (leading sql generated ++ trailing sql keyed).Nodup) _ _ _

theorem capitals_fixed (r : Repository) :
    r.fixed.filter (fun name => !beginsSmall name) = reserved r.engine.isSql :=
  (by decide : ∀ sql generated keyed, (leading sql generated ++ trailing sql keyed).filter
    (fun name => !beginsSmall name) = reserved sql) _ _ _

theorem fixed_no_suffix (r : Repository) {suffix : String} (known : suffix ∈ ["Model", "Repository"])
    (stem : String) : stem ++ suffix ∉ r.fixed := by
  refine not_mem_of_suffix (fun name member => ?_) stem
  exact (by decide : ∀ sql generated keyed, ∀ suffix ∈ ["Model", "Repository"],
    ∀ name ∈ leading sql generated ++ trailing sql keyed,
      suffix.toList.isSuffixOf name.toList = false) _ _ _ suffix known name member

theorem own_apart (r : Repository) : ∀ name ∈ r.own, name ∉ r.fixed := by
  intro name member
  simp only [own, List.mem_append, List.mem_singleton] at member
  rcases member with collection | rfl
  · split at collection
    · exact absurd collection List.not_mem_nil
    · rw [List.mem_singleton.mp collection]
      exact r.fixed_no_suffix (by decide) _
  · exact r.fixed_no_suffix (by decide) _

section

variable {models : List Model} {x : NamedModel}

theorem own_nodup (member : x ∈ nameModels models) (engine : Engine) :
    (ofModel engine x).own.Nodup := by
  unfold own
  split
  · exact List.nodup_singleton _
  · refine List.nodup_cons.mpr ⟨fun same => ?_, List.nodup_singleton _⟩
    exact type_ne_ident member "Model" "Repository" (List.mem_singleton.mp same)

theorem type_not_own (member : x ∈ nameModels models) (engine : Engine) :
    x.names.type ∉ (ofModel engine x).own := by
  intro inOwn
  rcases List.mem_append.mp inOwn with collection | repository
  · split at collection
    · exact absurd collection List.not_mem_nil
    · exact append_ne_self (by decide) (List.mem_singleton.mp collection)
  · exact type_ne_binding member "Repository" (List.mem_singleton.mp repository)

theorem oneOpen (member : x ∈ nameModels models) (engine : Engine) :
    (ofModel engine x).toModule.OneOpen x.names.type (reserved engine.isSql) := by
  let r := ofModel engine x
  refine Source.Module.oneOpen_of_perm r.bindings_perm ?_ ?_
  · exact List.nodup_append'.mpr ⟨own_nodup member engine, r.fixed_nodup, r.own_apart⟩
  · rw [List.mem_append, or_iff_right (type_not_own member engine), type_mem_iff member,
      r.capitals_fixed]
    rfl

end

end Repository

namespace Collection

def reserved : List String := ["Schema"]

def own (c : Collection) : List String := [c.names.ident ++ "Schema", c.names.collection]

def fixed : List String := ["Schema", "model"]

theorem bindings_perm (c : Collection) :
    c.toModule.bindings.Perm (c.names.type :: (c.own ++ fixed)) := by
  have bindings : c.toModule.bindings = fixed ++ c.names.type :: c.own := rfl
  rw [bindings]
  exact List.perm_middle.trans (List.perm_append_comm.cons _)

section

variable {models : List Model} {x : NamedModel}

theorem own_apart (member : x ∈ nameModels models) : ∀ name ∈ (ofModel x).own, name ∉ fixed := by
  intro name inOwn inFixed
  simp only [own, List.mem_cons, List.not_mem_nil, or_false] at inOwn
  rcases inOwn with rfl | rfl
  · have small : x.names.ident ++ "Schema" ∈ fixed.filter beginsSmall :=
      List.mem_filter.mpr ⟨inFixed, ident_beginsSmall member "Schema"⟩
    exact not_mem_of_suffix (by decide) _ small
  · exact not_mem_of_suffix (by decide) _ inFixed

theorem oneOpen (member : x ∈ nameModels models) :
    (ofModel x).toModule.OneOpen x.names.type reserved := by
  have notOwn : x.names.type ∉ (ofModel x).own := by
    intro inOwn
    rcases List.mem_cons.mp inOwn with schema | collection
    · exact type_ne_binding member "Schema" schema
    · exact append_ne_self (by decide) (List.mem_singleton.mp collection)
  have distinct : (ofModel x).own.Nodup := by
    refine List.nodup_cons.mpr ⟨fun same => ?_, List.nodup_singleton _⟩
    exact type_ne_ident member "Model" "Schema" (List.mem_singleton.mp same).symm
  refine Source.Module.oneOpen_of_perm (ofModel x).bindings_perm ?_ ?_
  · exact List.nodup_append'.mpr ⟨distinct, by decide, own_apart member⟩
  · rw [List.mem_append, or_iff_right notOwn, type_mem_iff member]
    rfl

end

end Collection

end Backend

namespace Project

open Backend

/-- In the modules of a model's repository and of its collection no name is bound twice but that of
the interface, and this one exactly if it is called like a capitalized name that the module always
binds. -/
theorem data_bindings (p : Project) :
    ∀ x ∈ namedModels p,
      (∃ m, p.moduleAt? ["src", "repositories", x.names.stem ++ ".repository.ts"] = some m ∧
        m.OneOpen x.names.type (Repository.reserved p.settings.engine.isSql)) ∧
      (p.settings.engine.isSql = false →
        ∃ m, p.moduleAt? ["src", "models", x.names.stem ++ ".model.ts"] = some m ∧
          m.OneOpen x.names.type Collection.reserved) := by
  intro x member
  refine ⟨⟨_, moduleAt_of_mem (repository_mem p _ _ member), ?_⟩, fun notSql => ?_⟩
  · exact Repository.oneOpen member p.settings.engine
  · exact ⟨_, moduleAt_of_mem (collection_mem p _ _ notSql member), Collection.oneOpen member⟩

def reservedModels : Project where
  models :=
    [{ name := "Request", fields := [{ name := "id", type := .string, isId := true }] },
     { name := "Schema", fields := [{ name := "id", type := .string, isId := true }] }]
  settings := { engine := .mongodb }

/-- Two modules that bind a name twice, and nothing warns of it. -/
theorem reservedModels_boundTwice :
    reservedModels.compile.warnings = [] ∧
      (∃ m, reservedModels.moduleAt? ["src", "repositories", "request.repository.ts"] = some m ∧
        ¬ m.bindings.Nodup) ∧
      ∃ m, reservedModels.moduleAt? ["src", "models", "schema.model.ts"] = some m ∧
        ¬ m.bindings.Nodup := by
  let request : NamedModel := ⟨reservedModels.models[0], ⟨"request", "Request", "request"⟩, none⟩
  let schema : NamedModel := ⟨reservedModels.models[1], ⟨"schema", "Schema", "schema"⟩, none⟩
  have named : namedModels reservedModels = [request, schema] := by decide +kernel
  obtain ⟨⟨repository, found, scope⟩, -⟩ :=
    data_bindings reservedModels request (by rw [named]; decide +kernel)
  obtain ⟨-, stored⟩ := data_bindings reservedModels schema (by rw [named]; decide +kernel)
  obtain ⟨collection, present, inner⟩ := stored rfl
  refine ⟨by decide +kernel, ⟨repository, found, ?_⟩, collection, present, ?_⟩
  · rw [scope.nodup_iff]
    decide +kernel
  · rw [inner.nodup_iff]
    decide +kernel

end Project

end ApiGraph
