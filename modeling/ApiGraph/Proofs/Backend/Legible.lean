import ApiGraph.Proofs.Backend.DocumentText
import ApiGraph.Proofs.Backend.LegibleData
import ApiGraph.Proofs.Backend.RouteModules

namespace ApiGraph.Backend

open Source

/-- The modules whose text is the same for all projects. -/
def supportModules : List Module :=
  [Support.Validation.toModule, Support.Errors.toModule, Support.Authentication.toModule,
   Support.RateLimits.toModule, Support.Filters.forTables, Support.Filters.forCollections]

theorem legible_support : ∀ m ∈ supportModules, m.Legible := by
  unfold supportModules
  repeat' first
    | exact importFree_literal (by decide)
    | refine List.forall_mem_cons.mpr ⟨?_, ?_⟩
    | exact List.forall_mem_nil _
    | exact trivial
    | refine Or.inl (Declaration.legible_literal rfl (by decide) (by decide) (by decide) ?_)
    | refine Module.Legible.mk ?_ (by decide) ?_

section

variable {p : Project}

theorem Server.imports_legible : ∀ i ∈ imports p.settings, i.Legible := by
  have first : ∀ i ∈ [⟨.effect, "dotenv/config"⟩, defaultOf "express" "express"], i.Legible := by
    decide
  have cors : (defaultOf "cors" "cors").Legible := by decide
  have docs : ∀ i ∈ [defaultOf "swaggerUi" "swagger-ui-express", defaultOf "openapi" "./swagger"],
    i.Legible := by decide
  have connect : (values ["connectDatabase"] "./db/client").Legible := by decide
  have schema : (values ["ensureSchema"] "./db/schema").Legible := by decide
  have last : ∀ i ∈ [values ["errorHandler", "notFoundHandler"] "./middleware/errors",
    defaultOf "routes" "./routes"], i.Legible := by decide
  simp only [imports, List.forall_mem_append]
  refine ⟨⟨⟨⟨⟨first, ?_⟩, ?_⟩, List.forall_mem_singleton.mpr connect⟩, ?_⟩, last⟩
  · split
    · exact List.forall_mem_singleton.mpr cors
    · exact List.forall_mem_nil _
  · split
    · exact docs
    · exact List.forall_mem_nil _
  · split
    · exact List.forall_mem_singleton.mpr schema
    · exact List.forall_mem_nil _

theorem Server.importFree_corsLine : ImportFree (corsLine p.settings) := by
  have cors : Unbroken (corsLine p.settings) := by
    unfold corsLine
    split
    · decide
    · simp +decide
  have origins : Starts isOrdinary (corsLine p.settings) := by
    unfold corsLine
    split
    · decide
    · exact (Starts.append (by decide) _).append _
  exact importFree_of_starts cors origins

theorem Server.setup_free : ∀ line ∈ setup p.settings, ImportFree line := by
  have docs : ∀ line ∈ docsLines, ImportFree line :=
    List.forall_mem_append.mpr ⟨importFree_block (by decide) (by decide) (by decide) (by decide),
      List.forall_mem_singleton.mpr (importFree_literal (by decide))⟩
  simp only [setup, List.forall_mem_append]
  refine ⟨⟨?_, ?_⟩, by decide⟩
  · split
    · exact List.forall_mem_singleton.mpr importFree_corsLine
    · exact List.forall_mem_nil _
  · split
    · exact docs
    · exact List.forall_mem_nil _

theorem Server.start_legible : (start p.settings).Legible := by
  have listens : ∀ line ∈ block "app.listen(port, () => "
      ["console.log(`Server listening on http://localhost:$\x7bport\x7d`);"] ");",
      Unbroken line :=
    unbroken_block (by decide) (List.forall_mem_singleton.mpr
      (unbroken_literal (by decide))) (by decide)
  refine Declaration.legible_ofBlock (by decide) (by decide) (by decide) (by decide) ?_ (by decide)
  refine List.forall_mem_append.mpr ⟨List.forall_mem_append.mpr ⟨by decide, ?_⟩, listens⟩
  split <;> decide

theorem legible_entry : (Server.entry p.settings).Legible where
  header := generated_free
  imports := Server.imports_legible
  items := by
    have const : "const" ++ " " ∈ declarators := by decide
    have app : Declaration.Legible { name := "app", rest := " = express();" } := by decide
    have port : Declaration.Legible
        { name := "port", rest := s!" = Number(process.env.PORT ?? {p.settings.port});" } := by
      refine ⟨const, (by decide : IsName "port"), ?_, ?_, List.forall_mem_nil _⟩
      · exact stops_of_starts ((Starts.append (by decide) _).append _)
      · have opens : Unbroken " = Number(process.env.PORT ?? " := unbroken_literal (by decide)
        exact unbroken_append.mpr ⟨unbroken_append.mpr ⟨opens, unbroken_repr _⟩, by decide⟩
    have runs : ∀ line ∈ block "main().catch((err) => " ["console.error(err);", "process.exit(1);"]
        ");", ImportFree line :=
      importFree_block (by decide) (by decide) (by decide) (by decide)
    simp only [Server.entry, List.forall_mem_cons]
    exact ⟨trivial, .inl app, trivial, Server.setup_free, trivial, .inl port, trivial,
      .inl Server.start_legible, trivial, runs, List.forall_mem_nil _⟩

end

theorem Router.someOf_legible {names : List (String × Bool)} {source : String}
    (each : ∀ n ∈ names, IsName n.1) : ∀ i ∈ someOf names source, i.Legible := by
  unfold someOf
  split
  · exact List.forall_mem_nil _
  · refine List.forall_mem_singleton.mpr fun name bound => ?_
    simp only [Source.values, Clause.bindings, List.map_map, List.mem_map] at bound
    obtain ⟨n, kept, rfl⟩ := bound
    exact each n (List.mem_of_mem_filter kept)

theorem Router.imports_legible {models : List Model} {gs : List Registration}
    (planned : Registration.Planned (nameModels models) gs) : ∀ i ∈ imports gs, i.Legible := by
  have fixed {names : List (String × Bool)} {source : String}
      (each : ∀ name ∈ names.map (·.1), IsName name) : ∀ i ∈ someOf names source, i.Legible :=
    someOf_legible fun n member => each n.1 (List.mem_map_of_mem member)
  have stored : ∀ i ∈ (repositories gs).map fun n =>
      Source.values [n.repository] ("../repositories/" ++ n.stem ++ ".repository"), i.Legible := by
    refine List.forall_mem_map.mpr fun n called => List.forall_mem_singleton.mpr ?_
    obtain ⟨g, present, found⟩ := (mem_repositories_iff planned).mp called
    obtain ⟨m, member, rfl⟩ := planned.model present found
    exact repository_isName member
  simp only [imports, List.forall_mem_append]
  exact ⟨⟨⟨⟨⟨fixed (by decide : ∀ name ∈ ["Router", "json"], IsName name),
    fixed (by decide : ∀ name ∈ ["authenticate", "requireRoles"], IsName name)⟩,
    fixed (by decide : ∀ name ∈ ["HttpError"], IsName name)⟩,
    fixed (by decide : ∀ name ∈ ["rateLimit"], IsName name)⟩,
    fixed (by decide : ∀ name ∈ ["validateBody"], IsName name)⟩, stored⟩

theorem Registration.readImport?_lines {router : String} (g : Registration)
    (plain : Text.isPlainIdent router.toList = true) (other : router ≠ "import") :
    ∀ line ∈ g.lines router, readImport? line = none := by
  have call : readImport? (router ++ "." ++ g.route.method.lowercase ++ "(") = none := by
    have marks : "import ".toList = "import".toList ++ ' ' :: [] := rfl
    have apart : Text.after? "import "
        (router.toList ++ '.' :: (g.route.method.lowercase ++ "(").toList) = none :=
      after?_of_word marks (Text.forall_of_all (by decide)) (Text.identRest_of_plain plain).2 other
        (by rintro c ⟨⟩; decide)
    have text : (router ++ "." ++ g.route.method.lowercase ++ "(").toList =
        router.toList ++ '.' :: (g.route.method.lowercase ++ "(").toList := by simp
    rw [readImport?, text, apart]
    rfl
  have comment : readImport? (comment g.route) = none := by
    rw [comment_eq]
    exact readImport?_of_head (by simp)
  rw [lines_eq, Registration.call]
  refine List.forall_mem_cons.mpr ⟨comment, List.forall_mem_cons.mpr ⟨call,
    List.forall_mem_append.mpr ⟨List.forall_mem_map.mpr fun line _ => readImport?_of_head ?_, by decide⟩⟩⟩
  rw [String.toList_append]
  simp

namespace Router

theorem name_isName {r : Router} (named : r.Named) : IsName r.name := by
  refine isName_of_plain named.bound.plain fun same => ?_
  exact absurd (same ▸ named.ends) (by decide)

theorem declaration_legible {r : Router} (named : r.Named) :
    (declaration r.exported r.name).Legible :=
  Declaration.legible_literal rfl (by decide) (by decide : "const" ++ " " ∈ declarators)
    (name_isName named) (List.forall_mem_nil _)

/-- What a router is written as. -/
theorem item_cases {r : Router} {item : Item} (present : item ∈ r.toModule.items) :
    item = .gap ∨ item = .declare (declaration r.exported r.name) ∨
      (∃ g ∈ r.registrations, item = .code (g.lines r.name)) ∨ item = .exportDefault r.name := by
  rcases List.mem_append.mp present with own | last
  · simp only [items, List.mem_cons, List.mem_flatMap, List.not_mem_nil, or_false] at own
    obtain rfl | rfl | ⟨g, registered, rfl | rfl⟩ := own
    · exact .inl rfl
    · exact .inr (.inl rfl)
    · exact .inl rfl
    · exact .inr (.inr (.inl ⟨g, registered, rfl⟩))
  · split at last
    · exact absurd last List.not_mem_nil
    · simp only [List.mem_cons, List.not_mem_nil, or_false] at last
      obtain rfl | rfl := last
      · exact .inl rfl
      · exact .inr (.inr (.inr rfl))

/-- A router whose registrations stand below comments that end with their lines. -/
structure Clean (models : List Model) (r : Router) : Prop where
  named : r.Named
  planned : Registration.Planned (nameModels models) r.registrations
  closed : ∀ g ∈ r.registrations, Registration.Closes g.route

variable {models : List Model} {r : Router} (clean : r.Clean models)
include clean

theorem Clean.registration {g : Registration} (registered : g ∈ r.registrations) {line : String}
    (inside : line ∈ g.lines r.name) : linesOf line = [line] ∧ readImport? line = none := by
  have plain := clean.named.bound.plain
  have bound : ∀ names model action status, g.handler = .run names model action status →
      Text.isPlainIdent names.repository.toList = true := by
    intro names model action status handler
    obtain ⟨m, modeled, rfl⟩ := clean.planned g registered names model action status handler
    exact repository_plain modeled
  have other : r.name ≠ "import" := fun same => absurd (same ▸ clean.named.ends) (by decide)
  exact ⟨Registration.linesOf_lines (clean.closed g registered) plain bound line inside,
    g.readImport?_lines plain other line inside⟩

/-- Each line of the code of a router is one of its text, and no import. -/
theorem Clean.code {line : String} (member : line ∈ r.toModule.items.flatMap (·.lines)) :
    linesOf line = [line] ∧ readImport? line = none := by
  obtain ⟨item, present, inside⟩ := List.mem_flatMap.mp member
  obtain rfl | rfl | ⟨g, registered, rfl⟩ | rfl := item_cases present
  · have gap : linesOf "" = [""] ∧ readImport? "" = none := by decide
    rw [List.mem_singleton.mp inside]
    exact gap
  · have declared := declaration_legible clean.named
    rw [List.mem_singleton.mp inside]
    exact ⟨declared.whole, declared.silent⟩
  · exact clean.registration registered inside
  · rw [List.mem_singleton.mp inside]
    exact ⟨linesOf_exportDefault (name_isName clean.named).unbroken,
      readImport?_exportDefault r.name⟩

theorem Clean.legible : r.toModule.Legible where
  header := generated_free
  imports := imports_legible clean.planned
  items item present := by
    obtain rfl | rfl | ⟨g, registered, rfl⟩ | rfl := item_cases present
    · trivial
    · exact .inl (declaration_legible clean.named)
    · intro line inside
      obtain ⟨whole, silent⟩ := clean.registration registered inside
      exact importFree_of_silent whole silent
    · exact (name_isName clean.named).unbroken

omit clean

theorem nameOf_isName (stem : String) : IsName (nameOf stem) :=
  isName_append (Text.identRest_of_plain (Naming.identifier_plain stem)).2 (by decide) (by decide)

theorem index_code {stems : List String} {line : String}
    (member : line ∈ (index stems).items.flatMap (·.lines)) :
    linesOf line = [line] ∧ readImport? line = none := by
  have declared : (declaration false "router").Legible := by decide
  have gap : linesOf "" = [""] ∧ readImport? "" = none := by decide
  have last := linesOf_exportDefault (by decide : Unbroken "router")
  simp only [index, List.flatMap_cons, List.flatMap_nil, List.append_nil, List.mem_append] at member
  rcases member with blank | own | used | blank | shown
  · rw [List.mem_singleton.mp blank]
    exact gap
  · rw [List.mem_singleton.mp own]
    exact ⟨declared.whole, declared.silent⟩
  · obtain ⟨stem, -, rfl⟩ := List.mem_map.mp used
    have name := (nameOf_isName stem).unbroken
    have text : Unbroken ("router.use(" ++ nameOf stem ++ ");") := by simp +decide [name]
    have begins : Begins ("router.use(" ++ nameOf stem ++ ");") :=
      (Starts.append (by decide) _).append _
    exact ⟨linesOf_of_unbroken text begins.not_comment, readImport?_of_head (by simp)⟩
  · rw [List.mem_singleton.mp blank]
    exact gap
  · rw [List.mem_singleton.mp shown]
    exact ⟨last, readImport?_exportDefault "router"⟩

theorem legible_index (stems : List String) : (index stems).Legible where
  header := generated_free
  imports := by
    have express : (Source.values ["Router"] "express").Legible := by decide
    refine List.forall_mem_cons.mpr ⟨express, List.forall_mem_map.mpr fun stem _ => ?_⟩
    exact List.forall_mem_singleton.mpr (nameOf_isName stem)
  items := by
    have declared : (declaration false "router").Legible := by decide
    have uses : ∀ line ∈ stems.map fun s => "router.use(" ++ nameOf s ++ ");", ImportFree line := by
      intro line member
      have used : line ∈ (index stems).items.flatMap (·.lines) := by simp [index, Item.lines, member]
      obtain ⟨whole, silent⟩ := index_code used
      exact importFree_of_silent whole silent
    have name : Unbroken "router" := by decide
    simp only [index, List.forall_mem_cons]
    exact ⟨trivial, .inl declared, uses, trivial, name, List.forall_mem_nil _⟩

end Router

section

variable {p : Project} {routes : List Route} {document : OpenApi.Document}
  (closed : ∀ r ∈ keptRoutes routes, Registration.Closes r)
include closed

theorem clean_of_mem {r : Router} (member : r ∈ Router.ofLayout p.settings.layout
      (registrations p.settings.engine (namedModels p) routes)) : r.Clean p.emittedModels where
  named := Router.named_of_mem member
  planned := planned_of_among (Router.among_of_mem member)
  closed g registered := by
    obtain ⟨route, kept, rfl⟩ := List.mem_map.mp (Router.among_of_mem member g registered)
    exact closed route kept

theorem plain_of_routers {f : File} (member : f ∈ Router.files p.settings.layout
      (registrations p.settings.engine (namedModels p) routes)) {m : Module}
    (content : f.content = .source m) : m.Plain := by
  rcases Router.mem_files member with ⟨r, present, file⟩ | ⟨-, rfl⟩
  · rw [file.content] at content
    cases content
    have clean := clean_of_mem closed present
    exact ⟨rfl, clean.legible.imports, fun line => clean.code⟩
  · cases content
    exact ⟨rfl, (Router.legible_index _).imports, fun line => Router.index_code⟩

/-- Where the comments above routes end with their lines, what the modules of a backend import and
export can be read off their texts. -/
theorem legible_of_mem {f : File} (member : f ∈ files p routes document) {m : Module}
    (content : f.content = .source m) : m.Legible := by
  have support : ∀ m ∈ supportModules, m.Legible := legible_support
  cases emitted_of_mem member content with
  | entry =>
    cases content
    exact legible_entry
  | document =>
    cases content
    exact legible_document document
  | interfaces =>
    cases content
    exact legible_interfaces
  | connection =>
    cases content
    exact legible_connection
  | tables =>
    cases content
    exact legible_tables
  | collection modeled =>
    cases content
    exact legible_collection modeled
  | repository modeled =>
    cases content
    exact legible_repository modeled
  | router routed =>
    rcases Router.mem_files routed with ⟨r, present, file⟩ | ⟨-, rfl⟩
    · rw [file.content] at content
      cases content
      exact (clean_of_mem closed present).legible
    · cases content
      exact Router.legible_index _
  | validation | errors | authentication | rateLimits =>
    cases content
    exact support _ (by simp [supportModules])
  | filters =>
    cases content
    split <;> exact support _ (by simp [supportModules])

end

end ApiGraph.Backend
