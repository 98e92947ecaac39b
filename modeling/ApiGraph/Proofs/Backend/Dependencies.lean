import ApiGraph.Proofs.Backend.FileSet
import ApiGraph.Proofs.Backend.Resolution
import ApiGraph.Proofs.Backend.RouteModules
import ApiGraph.Proofs.Json.Normal
import ApiGraph.Proofs.Json.Record

namespace ApiGraph.Backend

open Source

namespace Package

def Declares (file : Json) (package : String) : Prop :=
  ∃ dependencies version, file.get? "dependencies" = some dependencies ∧
    dependencies.get? package = some (.str version)

theorem get?_sorted {entries : List (String × String)} (distinct : (entries.map (·.1)).Nodup)
    {package : String} (listed : package ∈ entries.map (·.1)) :
    ∃ version, (sorted entries).get? package = some (.str version) := by
  obtain ⟨entry, member, rfl⟩ := List.mem_map.mp listed
  have keys : ((entries.map fun e => (e.1, Json.str e.2)).map (·.1)) = entries.map (·.1) := by
    rw [List.map_map]
    rfl
  refine ⟨entry.2, ?_⟩
  show (Json.sortFields _).lookup entry.1 = _
  rw [Json.lookup_sortFields (keys ▸ distinct)]
  exact Json.lookup_eq_some_of_mem (keys ▸ distinct)
    (List.mem_map_of_mem (f := fun e : String × String => (e.1, Json.str e.2)) member)

theorem dependencies_nodup (s : Settings) (usesAuth : Bool) :
    ((dependenciesOf s usesAuth).map (·.1)).Nodup := by
  unfold dependenciesOf
  cases s.engine <;> cases s.cors <;> cases s.docs <;> cases usesAuth <;> decide

theorem declares_of_mem {p : Project} {routes : List Route} {package : String}
    (listed : package ∈ ((ofProject p routes).dependencies).map (·.1)) :
    Declares (ofProject p routes).toJson package := by
  obtain ⟨version, found⟩ := get?_sorted (dependencies_nodup _ _) listed
  refine ⟨_, version, ?_, found⟩
  have keys : ["name", "version", "private", "description", "main", "scripts", "dependencies",
    "devDependencies", "engines"].Nodup := by decide
  rw [toJson]
  refine (Json.get?_record ?_ "dependencies").trans ?_
  · exact keys
  · rfl

end Package

def packages (p : Project) (routes : List Route) : List String :=
  (Package.ofProject p routes).dependencies.map (·.1)

section

variable {p : Project} {routes : List Route}

theorem packages_eq : packages p routes =
    ["express", "dotenv"] ++ (Package.engineDependencies p.settings.engine).map (·.1) ++
      (if p.settings.cors then ["cors"] else []) ++
      (if p.settings.docs then ["swagger-ui-express"] else []) ++
      (if routes.any (·.access.isSome) then ["jsonwebtoken"] else []) := by
  simp only [packages, Package.ofProject, Package.dependenciesOf, List.map_append, Package.when]
  cases p.settings.cors <;> cases p.settings.docs <;> cases routes.any (·.access.isSome) <;> rfl

theorem express_mem : "express" ∈ packages p routes := by simp [packages_eq]

theorem dotenv_mem : "dotenv" ∈ packages p routes := by simp [packages_eq]

theorem knex_mem (sql : p.settings.engine.isSql = true) : "knex" ∈ packages p routes := by
  have engine : "knex" ∈ (Package.engineDependencies p.settings.engine).map (·.1) := by
    cases engine : p.settings.engine with
    | mongodb =>
      rw [engine] at sql
      cases sql
    | _ => decide
  simp [packages_eq, engine]

theorem mongoose_mem (notSql : p.settings.engine.isSql = false) :
    "mongoose" ∈ packages p routes := by
  have engine : "mongoose" ∈ (Package.engineDependencies p.settings.engine).map (·.1) := by
    cases engine : p.settings.engine with
    | mongodb => decide
    | _ =>
      rw [engine] at notSql
      cases notSql
  simp [packages_eq, engine]

theorem cors_mem (cors : p.settings.cors = true) : "cors" ∈ packages p routes := by
  simp [packages_eq, cors]

theorem docs_mem (docs : p.settings.docs = true) : "swagger-ui-express" ∈ packages p routes := by
  simp [packages_eq, docs]

theorem jsonwebtoken_mem (secured : routes.any (·.access.isSome) = true) :
    "jsonwebtoken" ∈ packages p routes := by
  rw [packages_eq, secured]
  simp

/-- An import of a package finds it among some names. -/
def Source.Import.Listed (names : List String) (i : Import) : Prop :=
  isRelative i.source = false → isPlatform i.source = false → packageOf i.source ∈ names

variable {names : List String} {i : Import}

theorem listed_of_package {package : String} (member : package ∈ names)
    (same : packageOf i.source = package) : i.Listed names := by
  intro _ _
  rw [same]
  exact member

theorem listed_of_relative (relative : isRelative i.source = true) : i.Listed names :=
  fun package => absurd package (by rw [relative]; decide)

theorem listed_of_platform (platform : isPlatform i.source = true) : i.Listed names :=
  fun _ package => absurd package (by rw [platform]; decide)

theorem listed_pair {first second : Import} (one : first.Listed names)
    (other : second.Listed names) : ∀ i ∈ [first, second], i.Listed names :=
  List.forall_mem_cons.mpr ⟨one, List.forall_mem_singleton.mpr other⟩

theorem isRelative_append {head : String} (relative : isRelative head = true) (tail : String) :
    isRelative (head ++ tail) = true := by
  unfold isRelative at relative ⊢
  have first : head.toList.head? = some '.' := by simpa using relative
  rw [String.toList_append, List.head?_append, first]
  rfl

theorem listed_entry : ∀ i ∈ Server.imports p.settings, i.Listed (packages p routes) := by
  intro i imported
  simp only [Server.imports, List.mem_append, List.mem_cons, List.not_mem_nil, or_false] at imported
  rcases imported with (((((rfl | rfl) | cors) | docs) | rfl) | schema) | rfl | rfl
  · exact listed_of_package dotenv_mem (by decide)
  · exact listed_of_package express_mem (by decide)
  · split at cors
    · rw [List.mem_singleton.mp cors]
      exact listed_of_package (cors_mem ‹_›) (by decide)
    · exact absurd cors List.not_mem_nil
  · split at docs
    · rcases List.mem_cons.mp docs with rfl | docs
      · exact listed_of_package (docs_mem ‹_›) (by decide)
      · rw [List.mem_singleton.mp docs]
        exact listed_of_relative (by decide)
    · exact absurd docs List.not_mem_nil
  · exact listed_of_relative (by decide)
  · split at schema
    · rw [List.mem_singleton.mp schema]
      exact listed_of_relative (by decide)
    · exact absurd schema List.not_mem_nil
  · exact listed_of_relative (by decide)
  · exact listed_of_relative (by decide)

theorem listed_repository (m : NamedModel) :
    ∀ i ∈ (Repository.ofModel p.settings.engine m).imports, i.Listed (packages p routes) := by
  intro i imported
  simp only [Repository.imports, List.mem_append, List.mem_singleton] at imported
  rcases imported with ((key | rfl) | stored) | rfl
  · split at key
    · rw [List.mem_singleton.mp key]
      exact listed_of_platform (by decide)
    · exact absurd key List.not_mem_nil
  · exact listed_of_package express_mem (by decide)
  · split at stored
    · rcases List.mem_cons.mp stored with rfl | stored
      · exact listed_of_relative (by decide)
      · rw [List.mem_singleton.mp stored]
        exact listed_of_relative (by decide)
    · rcases List.mem_cons.mp stored with rfl | stored
      · exact listed_of_relative (by decide)
      · rw [List.mem_singleton.mp stored]
        refine listed_of_relative ?_
        exact isRelative_append (isRelative_append (by decide) _) _
  · exact listed_of_relative (by decide : isRelative "../types/models" = true)

theorem listed_connection : ∀ i ∈ (Connection.toModule p).imports, i.Listed (packages p routes) := by
  unfold Connection.toModule
  split
  · rename_i sql
    exact List.forall_mem_singleton.mpr (listed_of_package (knex_mem sql) (by decide))
  · rename_i documents
    have notSql := eq_false_of_ne_true documents
    exact List.forall_mem_singleton.mpr (listed_of_package (mongoose_mem notSql) (by decide))

theorem listed_imports (gs : List Registration) :
    ∀ i ∈ Router.imports gs, i.Listed (packages p routes) := by
  intro i imported
  simp only [Router.imports, List.mem_append] at imported
  have beside : ∀ {names source}, i ∈ Router.someOf names source → isRelative source = true →
      i.Listed (packages p routes) := by
    intro names source member relative
    exact listed_of_relative ((Router.requested_someOf member).1 ▸ relative)
  rcases imported with ((((express | secured) | refuses) | limited) | validated) | stored
  · refine listed_of_package express_mem ?_
    rw [(Router.requested_someOf express).1]
    decide
  · exact beside secured (by decide)
  · exact beside refuses (by decide)
  · exact beside limited (by decide)
  · exact beside validated (by decide)
  · obtain ⟨n, -, rfl⟩ := List.mem_map.mp stored
    exact listed_of_relative (isRelative_append (isRelative_append (by decide) _) _)

theorem listed_index (stems : List String) :
    ∀ i ∈ (Router.index stems).imports, i.Listed (packages p routes) := by
  intro i imported
  rcases List.mem_cons.mp imported with rfl | imported
  · exact listed_of_package express_mem (by decide)
  · obtain ⟨stem, -, rfl⟩ := List.mem_map.mp imported
    exact listed_of_relative (isRelative_append (isRelative_append (by decide) _) _)

theorem listed_routers {layout : Layout} {gs : List Registration} {f : File}
    (member : f ∈ Router.files layout gs) {m : Module} (content : f.content = .source m) :
    ∀ i ∈ m.imports, i.Listed (packages p routes) := by
  rcases Router.mem_files member with ⟨r, -, file⟩ | ⟨-, rfl⟩
  · rw [file.content] at content
    cases content
    exact listed_imports r.registrations
  · cases content
    exact listed_index _

theorem listed_filters : ∀ i ∈ (if p.settings.engine.isSql then Support.Filters.forTables
    else Support.Filters.forCollections).imports, i.Listed (packages p routes) := by
  split
  · rename_i sql
    exact listed_pair (listed_of_package express_mem (by decide))
      (listed_of_package (knex_mem sql) (by decide))
  · exact List.forall_mem_singleton.mpr (listed_of_package express_mem (by decide))

theorem packages_listed {document : OpenApi.Document} {f : File}
    (member : f ∈ files p routes document) {m : Module} (content : f.content = .source m) :
    ∀ i ∈ m.imports, i.Listed (packages p routes) := by
  cases emitted_of_mem member content with
  | entry =>
    cases content
    exact listed_entry
  | document | interfaces =>
    cases content
    exact List.forall_mem_nil _
  | connection =>
    cases content
    exact listed_connection
  | tables sql =>
    cases content
    exact listed_pair (listed_of_package (knex_mem sql) (by decide))
      (listed_of_relative (by decide))
  | collection _ notSql =>
    cases content
    exact listed_pair (listed_of_package (mongoose_mem notSql) (by decide))
      (listed_of_relative (by decide : isRelative "../types/models" = true))
  | repository =>
    cases content
    exact listed_repository _
  | router routed => exact listed_routers routed content
  | validation | errors | rateLimits =>
    cases content
    exact List.forall_mem_singleton.mpr (listed_of_package express_mem (by decide))
  | authentication secured =>
    cases content
    exact listed_pair (listed_of_package express_mem (by decide))
      (listed_of_package (jsonwebtoken_mem secured) (by decide))
  | filters =>
    cases content
    exact listed_filters

end

end ApiGraph.Backend
