import ApiGraph.Backend.Files
import ApiGraph.Proofs.Backend.Names
import ApiGraph.Proofs.FirstUse

namespace ApiGraph.Backend

/-- The folder of a path inside of the sources; the files about the store count for themselves. -/
def area (path : List String) : Option String :=
  if path[1]? = some "db" then path[2]? else path[1]?

/-- Paths of one folder that differ by their stems. -/
theorem stemPaths_nodup {α : Type} {l : List α} {stem : α → String}
    (distinct : (l.map stem).Nodup) (folder : List String) (suffix : String) :
    (l.map fun a => folder ++ [stem a ++ suffix]).Nodup := by
  have paths : ((l.map stem).map fun name => folder ++ [name ++ suffix]).Nodup := by
    refine distinct.map fun a b same => ?_
    have last := List.append_cancel_left same
    injection last with equal
    have chars := congrArg String.toList equal
    rw [String.toList_append, String.toList_append] at chars
    exact String.toList_inj.mp (List.append_cancel_right chars)
  rw [List.map_map] at paths
  exact paths

/-- Distinct paths that lie in some areas. -/
structure Placed (areas : List (Option String)) (paths : List (List String)) : Prop where
  nodup : paths.Nodup
  within : ∀ path ∈ paths, area path ∈ areas

theorem Placed.append {a b : List (Option String)} {l r : List (List String)} (left : Placed a l)
    (right : Placed b r) (apart : ∀ x ∈ a, x ∉ b) : Placed (a ++ b) (l ++ r) where
  nodup := List.nodup_append.mpr ⟨left.nodup, right.nodup, fun path inLeft other inRight same =>
    apart _ (left.within path inLeft) (same ▸ right.within other inRight)⟩
  within path member := List.mem_append.mpr <|
    (List.mem_append.mp member).imp (left.within path) (right.within path)

theorem Placed.ite {a : List (Option String)} {l r : List (List String)} {c : Prop} [Decidable c]
    (left : Placed a l) (right : Placed a r) : Placed a (if c then l else r) := by
  split
  · exact left
  · exact right

theorem Placed.mono {a b : List (Option String)} {l : List (List String)} (placed : Placed a l)
    (wider : ∀ x ∈ a, x ∈ b) : Placed b l :=
  ⟨placed.nodup, fun path member => wider _ (placed.within path member)⟩

theorem placed_stems {α : Type} {l : List α} {stem : α → String} (distinct : (l.map stem).Nodup)
    {folder suffix : String} (notStore : folder ≠ "db") :
    Placed [some folder] (l.map fun a => ["src", folder] ++ [stem a ++ suffix]) where
  nodup := stemPaths_nodup distinct _ _
  within path member := by
    obtain ⟨a, -, rfl⟩ := List.mem_map.mp member
    have same : area ["src", folder, stem a ++ suffix] = some folder :=
      if_neg fun store => notStore (Option.some.inj store)
    exact List.mem_singleton.mpr same

theorem scaffold_paths (p : Project) (routes : List Route) (document : OpenApi.Document) :
    (scaffold p routes document).map (·.path) =
      [["package.json"], ["tsconfig.json"], [".env.example"], [".gitignore"], ["README.md"],
       ["openapi.json"], ["src", "index.ts"], ["src", "swagger.ts"]] := rfl

def modelPaths (models : List NamedModel) : List (List String) :=
  models.map fun m => ["src", "models"] ++ [m.names.stem ++ ".model.ts"]

def repositoryPaths (models : List NamedModel) : List (List String) :=
  models.map fun m => ["src", "repositories"] ++ [m.names.stem ++ ".repository.ts"]

def routerPaths (layout : Layout) (gs : List Registration) : List (List String) :=
  match layout with
  | .minimal => [["src", "routes", "index.ts"]]
  | .rest =>
    (Router.groups gs).map (fun g => ["src", "routes"] ++ [g.1 ++ ".routes.ts"]) ++
      [["src", "routes", "index.ts"]]

theorem data_paths (p : Project) (models : List NamedModel) :
    (dataFiles p models).map (·.path) =
      [["src", "types", "models.ts"], ["src", "db", "client.ts"]] ++
        (if p.settings.engine.isSql then [["src", "db", "schema.ts"]] else modelPaths models) ++
        repositoryPaths models := by
  unfold dataFiles storeFiles modelPaths repositoryPaths
  simp only [List.map_append, List.map_map]
  split
  · rfl
  · rw [List.map_map]
    rfl

theorem router_paths (layout : Layout) (gs : List Registration) :
    (Router.files layout gs).map (·.path) = routerPaths layout gs := by
  cases layout with
  | minimal => rfl
  | rest =>
    simp only [Router.files, Router.ofLayout, List.zip_map', List.map_append, List.map_map]
    rfl

theorem support_paths (engine : Engine) (routes : List Route) :
    (supportFiles engine routes).map (·.path) =
      [["src", "middleware", "validate.ts"], ["src", "middleware", "errors.ts"]] ++
        (if routes.any (·.access.isSome) then [["src", "middleware", "auth.ts"]] else []) ++
        (if routes.any (·.rateLimit.isSome) then [["src", "middleware", "rate-limit.ts"]] else []) ++
        [["src", "db", "filters.ts"]] := by
  unfold supportFiles
  simp only [List.map_append]
  split <;> split <;> rfl

/-! ### Distinct paths -/

theorem placed_models (models : List Model) :
    Placed [some "models"] (modelPaths (nameModels models)) :=
  placed_stems (stems_nodup models) (by decide)

theorem placed_repositories (models : List Model) :
    Placed [some "repositories"] (repositoryPaths (nameModels models)) :=
  placed_stems (stems_nodup models) (by decide)

theorem groups_keys_nodup (gs : List Registration) : ((Router.groups gs).map (·.1)).Nodup := by
  rw [Router.groups, groupBy_keys]
  exact firsts_nodup _

theorem placed_routers (layout : Layout) (gs : List Registration) :
    Placed [some "routes"] (routerPaths layout gs) := by
  have index : Placed [some "routes"] [["src", "routes", "index.ts"]] := ⟨by decide, by decide⟩
  cases layout with
  | minimal => exact index
  | rest =>
    have grouped : Placed [some "routes"]
        ((Router.groups gs).map fun g => ["src", "routes"] ++ [g.1 ++ ".routes.ts"]) :=
      placed_stems (groups_keys_nodup gs) (by decide)
    refine ⟨List.nodup_append.mpr ⟨grouped.nodup, index.nodup, fun path inGroups other single same => ?_⟩,
      fun path member => (List.mem_append.mp member).elim (grouped.within path) (index.within path)⟩
    obtain ⟨g, -, rfl⟩ := List.mem_map.mp inGroups
    rw [List.mem_singleton.mp single] at same
    have last : g.1 ++ ".routes.ts" = "index.ts" := by simpa using same
    have chars := congrArg (fun s : String => s.toList.reverse.take 4) last
    simp [String.toList_append] at chars

theorem placed_data (p : Project) (models : List Model) :
    Placed [some "types", some "client.ts", some "schema.ts", some "models", some "repositories"]
      ((dataFiles p (nameModels models)).map (·.path)) := by
  have fixed : Placed [some "types", some "client.ts"]
    [["src", "types", "models.ts"], ["src", "db", "client.ts"]] := ⟨by decide, by decide⟩
  have schema : Placed [some "schema.ts"] [["src", "db", "schema.ts"]] := ⟨by decide, by decide⟩
  have store : Placed [some "schema.ts", some "models"] (if p.settings.engine.isSql then
      [["src", "db", "schema.ts"]] else modelPaths (nameModels models)) :=
    (schema.mono (by decide)).ite ((placed_models models).mono (by decide))
  rw [data_paths]
  exact (fixed.append store (by decide)).append (placed_repositories models) (by decide)

theorem placed_support (engine : Engine) (routes : List Route) :
    Placed [some "middleware", some "filters.ts"]
      ((supportFiles engine routes).map (·.path)) := by
  rw [support_paths]
  split <;> split <;> exact ⟨by decide, by decide⟩

def areas : List (Option String) :=
  [none, some "index.ts", some "swagger.ts", some "types", some "client.ts", some "schema.ts",
   some "models", some "repositories", some "routes", some "middleware", some "filters.ts"]

theorem placed_files (p : Project) (routes : List Route) (document : OpenApi.Document) :
    Placed areas ((files p routes document).map (·.path)) := by
  have scaffold : Placed [none, some "index.ts", some "swagger.ts"]
      ((scaffold p routes document).map (·.path)) := by
    rw [scaffold_paths]
    exact ⟨by decide, by decide⟩
  have routers := placed_routers p.settings.layout
    (registrations p.settings.engine (namedModels p) routes)
  rw [← router_paths] at routers
  have whole := ((scaffold.append (placed_data p p.emittedModels) (by decide)).append routers
    (by decide)).append (placed_support p.settings.engine routes) (by decide)
  rw [← List.map_append, ← List.map_append, ← List.map_append] at whole
  exact whole

theorem paths_nodup (p : Project) (routes : List Route) (document : OpenApi.Document) :
    ((files p routes document).map (·.path)).Nodup := (placed_files p routes document).nodup

section

variable (p : Project) (routes : List Route) (document : OpenApi.Document)

theorem mem_files_data {f : File} (member : f ∈ dataFiles p (namedModels p)) :
    f ∈ files p routes document :=
  List.mem_append_left _ (List.mem_append_left _ (List.mem_append_right _ member))

theorem mem_files_routers {f : File} (member : f ∈ Router.files p.settings.layout
    (registrations p.settings.engine (namedModels p) routes)) : f ∈ files p routes document :=
  List.mem_append_left _ (List.mem_append_right _ member)

theorem mem_files_support {f : File} (member : f ∈ supportFiles p.settings.engine routes) :
    f ∈ files p routes document := List.mem_append_right _ member

theorem document_mem :
    File.ofModule ["src", "swagger.ts"] (Server.documentModule document) ∈
      files p routes document := by
  refine List.mem_append_left _ (List.mem_append_left _ (List.mem_append_left _ ?_))
  simp [scaffold]

theorem connection_mem :
    File.ofModule ["src", "db", "client.ts"] (Connection.toModule p) ∈ files p routes document :=
  mem_files_data p routes document (by simp [dataFiles])

theorem interface_mem :
    File.ofModule ["src", "types", "models.ts"]
      (Interface.toModule ((namedModels p).map .ofModel)) ∈ files p routes document :=
  mem_files_data p routes document (by simp [dataFiles])

theorem table_mem (sql : p.settings.engine.isSql = true) :
    File.ofModule ["src", "db", "schema.ts"]
        (Table.toModule ((namedModels p).map (Table.ofModel p.settings.engine))) ∈
      files p routes document :=
  mem_files_data p routes document (by simp [dataFiles, storeFiles, sql])

theorem collection_mem (notSql : p.settings.engine.isSql = false) {m : NamedModel}
    (member : m ∈ namedModels p) :
    File.ofModule ["src", "models", m.names.stem ++ ".model.ts"] (Collection.ofModel m).toModule ∈
      files p routes document := by
  refine mem_files_data p routes document (List.mem_append_left _ (List.mem_append_right _ ?_))
  rw [storeFiles, if_neg (by simp [notSql])]
  exact List.mem_map.mpr ⟨m, member, rfl⟩

theorem repository_mem {m : NamedModel} (member : m ∈ namedModels p) :
    File.ofModule ["src", "repositories", m.names.stem ++ ".repository.ts"]
        (Repository.ofModel p.settings.engine m).toModule ∈ files p routes document :=
  mem_files_data p routes document
    (List.mem_append_right _ (List.mem_map.mpr ⟨m, member, rfl⟩))

theorem index_mem (rest : p.settings.layout = .rest) :
    File.ofModule ["src", "routes", "index.ts"] (Router.index
        ((Router.groups (registrations p.settings.engine (namedModels p) routes)).map (·.1))) ∈
      files p routes document := by
  refine mem_files_routers p routes document ?_
  rw [rest]
  exact List.mem_append_right _ (List.mem_singleton_self _)

theorem router_mem (rest : p.settings.layout = .rest) {group : String × List Registration}
    (grouped : group ∈ Router.groups (registrations p.settings.engine (namedModels p) routes)) :
    File.ofModule ["src", "routes", group.1 ++ ".routes.ts"]
        (Router.toModule ⟨Router.nameOf group.1, true, group.2⟩) ∈ files p routes document := by
  refine mem_files_routers p routes document ?_
  rw [rest]
  refine List.mem_append_left _ ?_
  rw [Router.ofLayout, List.zip_map', List.map_map]
  exact List.mem_map_of_mem grouped

theorem errors_mem :
    File.ofModule ["src", "middleware", "errors.ts"] Support.Errors.toModule ∈
      files p routes document :=
  mem_files_support p routes document (by simp [supportFiles])

theorem validation_mem :
    File.ofModule ["src", "middleware", "validate.ts"] Support.Validation.toModule ∈
      files p routes document :=
  mem_files_support p routes document (by simp [supportFiles])

theorem authentication_mem (secured : routes.any (·.access.isSome) = true) :
    File.ofModule ["src", "middleware", "auth.ts"] Support.Authentication.toModule ∈
      files p routes document :=
  mem_files_support p routes document (by simp only [supportFiles, secured]; simp)

theorem rateLimits_mem (limited : routes.any (·.rateLimit.isSome) = true) :
    File.ofModule ["src", "middleware", "rate-limit.ts"] Support.RateLimits.toModule ∈
      files p routes document :=
  mem_files_support p routes document (by simp only [supportFiles, limited]; simp)

theorem filters_mem :
    File.ofModule ["src", "db", "filters.ts"]
        (if p.settings.engine.isSql then Support.Filters.forTables
          else Support.Filters.forCollections) ∈ files p routes document :=
  mem_files_support p routes document (by simp [supportFiles])

end

/-! ### Kinds of modules -/

/-- The paths of the files that hold no module. -/
def textPaths : List (List String) :=
  [["package.json"], ["tsconfig.json"], [".env.example"], [".gitignore"], ["README.md"],
   ["openapi.json"]]

/-- The files of a backend that hold modules. -/
inductive Emitted (p : Project) (routes : List Route) (document : OpenApi.Document) : File → Prop
  | entry : Emitted p routes document (.ofModule ["src", "index.ts"] (Server.entry p.settings))
  | document : Emitted p routes document
      (.ofModule ["src", "swagger.ts"] (Server.documentModule document))
  | interfaces : Emitted p routes document (.ofModule ["src", "types", "models.ts"]
      (Interface.toModule ((namedModels p).map .ofModel)))
  | connection : Emitted p routes document
      (.ofModule ["src", "db", "client.ts"] (Connection.toModule p))
  | tables (sql : p.settings.engine.isSql = true) : Emitted p routes document
      (.ofModule ["src", "db", "schema.ts"]
        (Table.toModule ((namedModels p).map (Table.ofModel p.settings.engine))))
  | collection {m : NamedModel} (member : m ∈ namedModels p)
      (notSql : p.settings.engine.isSql = false) : Emitted p routes document
      (.ofModule ["src", "models", m.names.stem ++ ".model.ts"] (Collection.ofModel m).toModule)
  | repository {m : NamedModel} (member : m ∈ namedModels p) : Emitted p routes document
      (.ofModule ["src", "repositories", m.names.stem ++ ".repository.ts"]
        (Repository.ofModel p.settings.engine m).toModule)
  | router {f : File} (member : f ∈ Router.files p.settings.layout
      (registrations p.settings.engine (namedModels p) routes)) : Emitted p routes document f
  | validation : Emitted p routes document
      (.ofModule ["src", "middleware", "validate.ts"] Support.Validation.toModule)
  | errors : Emitted p routes document
      (.ofModule ["src", "middleware", "errors.ts"] Support.Errors.toModule)
  | authentication (secured : routes.any (·.access.isSome) = true) : Emitted p routes document
      (.ofModule ["src", "middleware", "auth.ts"] Support.Authentication.toModule)
  | rateLimits (limited : routes.any (·.rateLimit.isSome) = true) : Emitted p routes document
      (.ofModule ["src", "middleware", "rate-limit.ts"] Support.RateLimits.toModule)
  | filters : Emitted p routes document (.ofModule ["src", "db", "filters.ts"]
      (if p.settings.engine.isSql then Support.Filters.forTables
        else Support.Filters.forCollections))

section

variable {p : Project} {routes : List Route} {document : OpenApi.Document} {f : File}
  {m : Source.Module}

theorem emitted_data (member : f ∈ dataFiles p (namedModels p)) : Emitted p routes document f := by
  simp only [dataFiles, List.mem_append, List.mem_cons, List.not_mem_nil, or_false] at member
  rcases member with ((rfl | rfl) | store) | stored
  · exact .interfaces
  · exact .connection
  · unfold storeFiles at store
    split at store
    · rename_i sql
      rw [List.mem_singleton.mp store]
      exact .tables sql
    · rename_i notSql
      obtain ⟨m, present, rfl⟩ := List.mem_map.mp store
      exact .collection present (eq_false_of_ne_true notSql)
  · obtain ⟨m, present, rfl⟩ := List.mem_map.mp stored
    exact .repository present

theorem emitted_support (member : f ∈ supportFiles p.settings.engine routes) :
    Emitted p routes document f := by
  simp only [supportFiles, List.mem_append, List.mem_cons, List.not_mem_nil, or_false] at member
  rcases member with (((rfl | rfl) | secured) | limited) | rfl
  · exact .validation
  · exact .errors
  · split at secured
    · rename_i some
      rw [List.mem_singleton.mp secured]
      exact .authentication some
    · exact absurd secured List.not_mem_nil
  · split at limited
    · rename_i some
      rw [List.mem_singleton.mp limited]
      exact .rateLimits some
    · exact absurd limited List.not_mem_nil
  · exact .filters

theorem emitted_or_text (member : f ∈ files p routes document) :
    Emitted p routes document f ∨ f.path ∈ textPaths ∧ ∃ s, f.content = .text s := by
  simp only [files, List.mem_append] at member
  rcases member with ((around | data) | router) | support
  · simp only [scaffold, List.mem_cons, List.not_mem_nil, or_false] at around
    rcases around with rfl | rfl | rfl | rfl | rfl | rfl | rfl | rfl
    · exact .inr ⟨(by decide : ["package.json"] ∈ textPaths), _, rfl⟩
    · exact .inr ⟨(by decide : ["tsconfig.json"] ∈ textPaths), _, rfl⟩
    · exact .inr ⟨(by decide : [".env.example"] ∈ textPaths), _, rfl⟩
    · exact .inr ⟨(by decide : [".gitignore"] ∈ textPaths), _, rfl⟩
    · exact .inr ⟨(by decide : ["README.md"] ∈ textPaths), _, rfl⟩
    · exact .inr ⟨(by decide : ["openapi.json"] ∈ textPaths), _, rfl⟩
    · exact .inl .entry
    · exact .inl .document
  · exact .inl (emitted_data data)
  · exact .inl (.router router)
  · exact .inl (emitted_support support)

theorem emitted_of_mem (member : f ∈ files p routes document) (content : f.content = .source m) :
    Emitted p routes document f := by
  refine (emitted_or_text member).elim id fun ⟨_, s, text⟩ => ?_
  rw [text] at content
  cases content

end

end ApiGraph.Backend
