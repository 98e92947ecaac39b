import ApiGraph.Proofs.Backend.RouteModules

namespace ApiGraph.Backend

open Source

namespace Router

/-- The code of the index refers to routers only. -/
theorem references_index {stems : List String} {ref : Reference}
    (member : ref ∈ (index stems).references) : "outer".toList <:+ ref.name.toList := by
  have router : Handler.Binding "router" := ⟨by decide, by decide, by decide⟩
  have opens : Reads "router.use(" [⟨"router", some "use"⟩] := by decide
  have closes : Reads ");" [] := by decide
  have line : ∀ stem, Source.references ("router.use(" ++ nameOf stem ++ ");") =
      [⟨"router", some "use"⟩, ⟨nameOf stem, none⟩] := by
    intro stem
    have bound := nameOf_bound stem
    have name := phrase_name bound.plain bound.notKeyword
    have begins : Begins ("router.use(" ++ nameOf stem ++ ");") :=
      (Starts.append (by decide) _).append _
    exact references_of_reads ((opens.then name).then closes (by decide)) begins
  have code : (index stems).references =
      [] ++ ((declaration false "router").lines.flatMap Source.references ++
        ((stems.map fun s => "router.use(" ++ nameOf s ++ ");").flatMap Source.references ++
          ([] ++ (Item.exportDefault "router").lines.flatMap Source.references))) := by
    have gap : Source.references "" = [] := by decide
    simp [Module.references, index, Item.lines, gap]
  rw [code, references_declaration router, references_exportDefault router, List.flatMap_map] at member
  simp only [line, List.nil_append, List.mem_append, List.mem_flatMap, List.mem_cons,
    List.not_mem_nil, or_false] at member
  rcases member with (rfl | rfl) | ⟨stem, -, rfl | rfl⟩ | rfl
  · decide
  · decide
  · decide
  · exact ends_nameOf stem
  · decide

theorem bindings_index {stems : List String} {name : String}
    (member : name ∈ (index stems).imports.flatMap (·.clause.bindings)) :
    "outer".toList <:+ name.toList := by
  rw [List.mem_flatMap] at member
  obtain ⟨i, imported, bound⟩ := member
  rcases List.mem_cons.mp imported with rfl | imported
  · rw [List.mem_singleton.mp bound]
    decide
  · obtain ⟨stem, -, rfl⟩ := List.mem_map.mp imported
    rw [List.mem_singleton.mp bound]
    exact ends_nameOf stem

end Router

section

variable {p : Project} {routes : List Route}

/-- A route module imports a name exactly when its code refers to it, unless the name is local or
one of a router. -/
theorem imported_iff_referred_routers {f : File} (member : f ∈ Router.files p.settings.layout
      (registrations p.settings.engine (namedModels p) routes)) {m : Module}
    (content : f.content = .source m) {name : String} (outside : Router.Outside name) :
    name ∈ m.imports.flatMap (·.clause.bindings) ↔ ∃ ref ∈ m.references, ref.name = name := by
  rcases Router.mem_files member with ⟨r, present, file⟩ | ⟨-, rfl⟩
  · rw [file.content] at content
    cases content
    exact Router.imported_iff_referred (Router.named_of_mem present)
      (planned_of_among (Router.among_of_mem present)) outside
  · cases content
    constructor
    · intro imported
      exact absurd (Router.bindings_index imported) outside.notRouter
    · rintro ⟨ref, referred, rfl⟩
      exact absurd (Router.references_index referred) outside.notRouter

end

/-- The functions of a repository are those that it offers. -/
theorem declared_functions (r : Repository) :
    r.functions.filterMap (fun
      | .declare d => some (d.exported, d.keyword, d.name)
      | _ => none) = r.methods.map fun name => (false, "async function", name) := by
  obtain ⟨names, engine, columns, key⟩ := r
  cases engine <;> cases key <;> rfl

theorem Registration.run_of_called {g : Registration} {name method : String}
    (called : ⟨name, some method⟩ ∈ g.references) :
    ∃ names model action status, g.handler = .run names model action status ∧
      names.repository = name ∧ action.method = method := by
  rcases List.mem_append.mp called with chained | handled
  · obtain ⟨m, -, same⟩ := List.mem_map.mp chained
    cases same
  · cases handler : g.handler with
    | stub =>
      rw [handler] at handled
      exact absurd handled List.not_mem_nil
    | run names model action status =>
      rw [handler] at handled
      rcases List.mem_cons.mp handled with same | refused
      · cases same
        exact ⟨names, model, action, status, rfl, rfl, rfl⟩
      · split at refused
        · cases List.mem_singleton.mp refused
        · exact absurd refused List.not_mem_nil

section

variable {p : Project} {routes : List Route}

theorem routers_call_offered {f : File} (member : f ∈ Router.files p.settings.layout
      (registrations p.settings.engine (namedModels p) routes)) {m : Module}
    (content : f.content = .source m) {n : NamedModel} (modeled : n ∈ namedModels p)
    {method : String} (called : ⟨n.names.repository, some method⟩ ∈ m.references) :
    method ∈ (Repository.ofModel p.settings.engine n).methods := by
  have outside := Router.repository_outside modeled
  rcases Router.mem_files member with ⟨r, present, file⟩ | ⟨-, rfl⟩
  · rw [file.content] at content
    cases content
    have among := Router.among_of_mem present
    obtain ⟨g, registered, referred⟩ := (Router.mem_references_toModule
      (Router.named_of_mem present) (planned_of_among among) outside).mp called
    obtain ⟨names, model, action, status, handler, name, rfl⟩ := Registration.run_of_called referred
    obtain ⟨route, -, rfl⟩ := List.mem_map.mp (among g registered)
    obtain ⟨other, alsoModel, rfl, offered⟩ := Handler.exists_model handler
    obtain rfl := eq_of_repository_eq alsoModel modeled name
    exact offered
  · cases content
    exact absurd (Router.references_index called) outside.notRouter

end

end ApiGraph.Backend
