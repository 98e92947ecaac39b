import ApiGraph.Proofs.Backend.Links

/-!
# Route modules

The route modules of a backend are routers of its registrations, and in the layout with one router
per resource an index. Their imports find their modules (`links_routers`), and they import what
their code refers to (`imports_routers`).
-/

namespace ApiGraph.Backend

open Source

namespace Router

/-- A file of a router in the folder of routes. -/
structure FileOf (r : Router) (f : File) : Prop where
  folder : f.path.dropLast = ["src", "routes"]
  content : f.content = .source r.toModule

def indexPath : List String := ["src", "routes", "index.ts"]

/-- A file of the routers holds a router, or it is the index of the routers of all stems. -/
theorem mem_files {layout : Layout} {gs : List Registration} {f : File}
    (member : f ∈ files layout gs) :
    (∃ r ∈ ofLayout layout gs, r.FileOf f) ∨
      layout = .rest ∧ f = File.ofModule indexPath (index ((groups gs).map (·.1))) := by
  cases layout with
  | minimal =>
    obtain ⟨r, present, rfl⟩ := List.mem_map.mp member
    exact Or.inl ⟨r, present, rfl, rfl⟩
  | rest =>
    rcases List.mem_append.mp member with grouped | last
    · obtain ⟨⟨stem, r⟩, pair, rfl⟩ := List.mem_map.mp grouped
      exact Or.inl ⟨r, (List.of_mem_zip pair).2, rfl, rfl⟩
    · exact Or.inr ⟨rfl, List.mem_singleton.mp last⟩

theorem exists_module {layout : Layout} {gs : List Registration} {f : File}
    (member : f ∈ files layout gs) : ∃ m, f.content = .source m := by
  rcases mem_files member with ⟨r, -, file⟩ | ⟨-, rfl⟩
  · exact ⟨_, file.content⟩
  · exact ⟨_, rfl⟩

theorem folder_of_mem {layout : Layout} {gs : List Registration} {f : File}
    (member : f ∈ files layout gs) : f.path.dropLast = ["src", "routes"] := by
  rcases mem_files member with ⟨r, -, file⟩ | ⟨-, rfl⟩
  · exact file.folder
  · rfl

theorem among_of_mem {layout : Layout} {gs : List Registration} {r : Router}
    (member : r ∈ ofLayout layout gs) : ∀ g ∈ r.registrations, g ∈ gs := by
  cases layout with
  | minimal =>
    rw [List.mem_singleton.mp member]
    exact fun g present => present
  | rest =>
    obtain ⟨group, grouped, rfl⟩ := List.mem_map.mp member
    intro g present
    rw [mem_group grouped] at present
    exact List.mem_of_mem_filter present

theorem stem_clean {gs : List Registration} {stem : String}
    (member : stem ∈ (groups gs).map (·.1)) : '/' ∉ stem.toList := by
  rw [groups, groupBy_keys, mem_firsts_iff] at member
  obtain ⟨g, -, rfl⟩ := List.mem_map.mp member
  intro slash
  rcases Naming.mem_kebabOr slash with (alnum | joint) | fallback
  · exact absurd alnum (by decide)
  · exact absurd joint (by decide)
  · exact absurd fallback (by decide)

theorem requested_someOf {names : List (String × Bool)} {source : String} {i : Import}
    (member : i ∈ someOf names source) :
    i.source = source ∧ (∃ n ∈ names, n.2 = true) ∧
      ∀ name ∈ i.clause.requested, name ∈ names.map (·.1) := by
  have requested : ∀ l : List (String × Bool),
      (Source.values (l.map (·.1)) source).clause.requested = l.map (·.1) := by
    intro l
    simp [Source.values, Clause.requested, Function.comp_def]
  unfold someOf at member
  split at member
  · exact absurd member List.not_mem_nil
  · rename_i nonempty
    rw [List.mem_singleton.mp member, requested]
    obtain ⟨n, more, form⟩ := List.exists_cons_of_ne_nil nonempty
    have first : n ∈ names.filter (·.2) := form ▸ List.mem_cons_self
    refine ⟨rfl, ⟨n, List.mem_filter.mp first⟩, fun name asked => ?_⟩
    obtain ⟨other, kept, rfl⟩ := List.mem_map.mp asked
    exact List.mem_map_of_mem (List.mem_of_mem_filter kept)

end Router

section

variable {p : Project} {routes : List Route} {document : OpenApi.Document}

theorem route_mem {g : Registration}
    (member : g ∈ registrations p.settings.engine (namedModels p) routes) : g.route ∈ routes := by
  obtain ⟨r, kept, rfl⟩ := List.mem_map.mp member
  exact mem_of_mem_firstsBy kept

theorem planned_of_among {gs : List Registration}
    (among : ∀ g ∈ gs, g ∈ registrations p.settings.engine (namedModels p) routes) :
    Registration.Planned (namedModels p) gs :=
  fun g present => Registration.planned_registrations _ _ _ g (among g present)

/-- The import of functions that are used links if their module is there. -/
theorem links_someOf {names : List (String × Bool)} {source : String} {path : List String}
    {m : Module} {i : Import} (member : i ∈ Router.someOf names source) {importer : File}
    (folder : importer.path.dropLast = ["src", "routes"])
    (present : File.ofModule path m ∈ files p routes document)
    (leads : modulePath (target ["src", "routes"] source) = path)
    (exported : names.map (·.1) ⊆ m.exports) : i.Links (files p routes document) importer := by
  obtain ⟨same, -, asked⟩ := Router.requested_someOf member
  exact links_of_mem (paths_nodup p routes document) folder present (same ▸ leads)
    fun name requested => exported (asked name requested)

/-- What registrations import is there for all routes of a project. -/
theorem links_imports {gs : List Registration}
    (among : ∀ g ∈ gs, g ∈ registrations p.settings.engine (namedModels p) routes) {importer : File}
    (folder : importer.path.dropLast = ["src", "routes"]) {i : Import}
    (imported : i ∈ Router.imports gs) (relative : isRelative i.source = true) :
    i.Links (files p routes document) importer := by
  have wider : ∀ {test : Route → Bool}, (gs.map (·.route)).any test = true →
      routes.any test = true := by
    intro test holds
    obtain ⟨r, present, passes⟩ := List.any_eq_true.mp holds
    obtain ⟨g, member, rfl⟩ := List.mem_map.mp present
    exact List.any_eq_true.mpr ⟨g.route, route_mem (among g member), passes⟩
  simp only [Router.imports, List.mem_append] at imported
  rcases imported with ((((express | secured) | refuses) | limited) | validated) | stored
  · rw [(Router.requested_someOf express).1] at relative
    exact absurd relative (by decide)
  · obtain ⟨-, ⟨n, listed, used⟩, -⟩ := Router.requested_someOf secured
    have access : routes.any (·.access.isSome) = true := by
      rcases List.mem_cons.mp listed with rfl | listed
      · exact wider used
      · rw [List.mem_singleton.mp listed] at used
        obtain ⟨r, present, roles⟩ := List.any_eq_true.mp used
        exact wider (List.any_eq_true.mpr ⟨r, present, Option.isSome_of_any roles⟩)
    exact links_someOf secured folder (authentication_mem p routes document access) (by decide)
      (by decide : ["authenticate", "requireRoles"] ⊆ Support.Authentication.toModule.exports)
  · exact links_someOf refuses folder (errors_mem p routes document) (by decide)
      (by decide : ["HttpError"] ⊆ Support.Errors.toModule.exports)
  · obtain ⟨-, ⟨n, listed, used⟩, -⟩ := Router.requested_someOf limited
    rw [List.mem_singleton.mp listed] at used
    exact links_someOf limited folder (rateLimits_mem p routes document (wider used)) (by decide)
      (by decide : ["rateLimit"] ⊆ Support.RateLimits.toModule.exports)
  · exact links_someOf validated folder (validation_mem p routes document) (by decide)
      (by decide : ["validateBody"] ⊆ Support.Validation.toModule.exports)
  · obtain ⟨n, called, rfl⟩ := List.mem_map.mp stored
    have repositories : Part "repositories" := ⟨by decide, by decide, by decide⟩
    have planned := planned_of_among among
    obtain ⟨g, present, found⟩ := (Router.mem_repositories_iff planned).mp called
    obtain ⟨m, member, rfl⟩ := planned.model present found
    refine links_of_mem (paths_nodup p routes document) folder
      (repository_mem p routes document member) ?_ ?_
    · exact path_beside repositories rfl (stem_no_slash member) (by decide) (by decide)
        (by decide) _
    · intro name asked
      rw [List.mem_singleton.mp asked]
      exact mem_exports_repository _

/-- The index imports the router of each stem from its file. -/
theorem links_index {gs : List Registration}
    (present : ∀ f ∈ Router.files .rest gs, f ∈ files p routes document) {importer : File}
    (folder : importer.path.dropLast = ["src", "routes"]) {i : Import}
    (imported : i ∈ (Router.index ((Router.groups gs).map (·.1))).imports)
    (relative : isRelative i.source = true) : i.Links (files p routes document) importer := by
  rcases List.mem_cons.mp imported with rfl | imported
  · exact absurd relative (by decide)
  · obtain ⟨stem, listed, rfl⟩ := List.mem_map.mp imported
    obtain ⟨group, grouped, rfl⟩ := List.mem_map.mp listed
    have member : File.ofModule ["src", "routes", group.1 ++ ".routes.ts"]
        (Router.toModule ⟨Router.nameOf group.1, true, group.2⟩) ∈ files p routes document := by
      refine present _ (List.mem_append_left _ ?_)
      rw [Router.ofLayout, List.zip_map', List.map_map]
      exact List.mem_map_of_mem grouped
    refine links_of_mem (paths_nodup p routes document) folder member ?_ ?_
    · exact path_here (Router.stem_clean listed) (by decide) (by decide) (by decide) _
    · rw [exports_router]
      exact fun name asked => asked

theorem links_routers {f : File} (member : f ∈ Router.files p.settings.layout
      (registrations p.settings.engine (namedModels p) routes)) {m : Module}
    (content : f.content = .source m) : LinksFrom p routes document ["src", "routes"] m := by
  intro importer folder i imported relative
  rcases Router.mem_files member with ⟨r, present, file⟩ | ⟨rest, rfl⟩
  · rw [file.content] at content
    cases content
    exact links_imports (Router.among_of_mem present) folder imported relative
  · cases content
    refine links_index (fun f listed => ?_) folder imported relative
    rw [← rest] at listed
    exact mem_files_routers p routes document listed

/-- The folder of routes has an index, whose default export is a router. -/
theorem exists_index (p : Project) (routes : List Route) (document : OpenApi.Document) :
    ∃ m, File.ofModule Router.indexPath m ∈ files p routes document ∧ m.exports = ["default"] := by
  have member := fun f => @mem_files_routers p routes document f
  cases layout : p.settings.layout with
  | minimal =>
    rw [layout] at member
    exact ⟨_, member _ (List.mem_singleton_self _), exports_router _⟩
  | rest =>
    rw [layout] at member
    exact ⟨_, member _ (List.mem_append_right _ (List.mem_singleton_self _)), exports_index _⟩

theorem links_entry : LinksFrom p routes document ["src"] (Server.entry p.settings) := by
  intro importer folder i imported relative
  have distinct := paths_nodup p routes document
  have imported : i ∈ Server.imports p.settings := imported
  simp only [Server.imports, List.mem_append, List.mem_cons, List.not_mem_nil, or_false] at imported
  rcases imported with (((((rfl | rfl) | cors) | docs) | rfl) | schema) | rfl | rfl
  · exact absurd relative (by decide)
  · exact absurd relative (by decide)
  · split at cors
    · rw [List.mem_singleton.mp cors] at relative
      exact absurd relative (by decide)
    · exact absurd cors List.not_mem_nil
  · split at docs
    · rcases List.mem_cons.mp docs with rfl | docs
      · exact absurd relative (by decide)
      · rw [List.mem_singleton.mp docs]
        exact links_of_mem distinct folder (document_mem p routes document) (by decide)
          fun name asked => asked
    · exact absurd docs List.not_mem_nil
  · refine links_of_mem distinct folder (connection_mem p routes document) (by decide) ?_
    rw [exports_connection]
    split <;> decide
  · split at schema
    · rename_i sql
      rw [List.mem_singleton.mp schema]
      exact links_of_mem distinct folder (table_mem p routes document sql) (by decide)
        fun name asked => asked
    · exact absurd schema List.not_mem_nil
  · exact links_of_mem distinct folder (errors_mem p routes document) (by decide) (by decide)
  · obtain ⟨m, member, exported⟩ := exists_index p routes document
    have indexed : File.ofModule (["src", "routes"] ++ ["index.ts"]) m ∈
      files p routes document := member
    refine links_of_index distinct folder indexed (by decide) ?_ ?_
    · intro present
      exact absurd ((placed_files p routes document).within _ present) (by decide)
    · rw [exported]
      exact fun name asked => asked

theorem imports_link {f : File} (member : f ∈ files p routes document) {m : Module}
    (content : f.content = .source m) {i : Import} (imported : i ∈ m.imports)
    (relative : isRelative i.source = true) : i.Links (files p routes document) f := by
  have packages : (∀ i ∈ m.imports, isRelative i.source = false) →
      i.Links (files p routes document) f :=
    fun each => linksFrom_of_packages each f rfl i imported relative
  cases emitted_of_mem member content with
  | entry =>
    cases content
    exact links_entry _ rfl i imported relative
  | document | interfaces =>
    cases content
    exact absurd imported List.not_mem_nil
  | connection =>
    cases content
    exact links_connection _ rfl i imported relative
  | tables sql =>
    cases content
    exact links_table sql _ _ rfl i imported relative
  | collection modeled =>
    cases content
    exact links_collection modeled _ rfl i imported relative
  | repository modeled =>
    cases content
    exact links_repository modeled _ rfl i imported relative
  | router routed => exact links_routers routed content f (Router.folder_of_mem routed) i imported relative
  | validation | errors | authentication | rateLimits =>
    cases content
    exact packages (by decide)
  | filters =>
    cases content
    refine packages ?_
    split <;> decide

end

end ApiGraph.Backend
