import ApiGraph.Proofs.Access
import ApiGraph.Proofs.Backend.SearchCalls
import ApiGraph.Proofs.ModelReferences

namespace ApiGraph

open Backend Backend.Source

namespace Model

def fieldNames (m : Model) : List String := m.fields.map (·.name)

theorem hasField_iff {m : Model} {name : String} :
    m.hasField name = true ↔ name ∈ m.fieldNames := by
  simp [hasField, fieldNames]

theorem hasField_eq (m : Model) (name : String) :
    m.hasField name = decide (name ∈ m.fieldNames) := by
  rw [Bool.eq_iff_iff, hasField_iff, decide_eq_true_iff]

end Model

/-- The entries of a search that name no field of a model, with their use. -/
def DataAccess.lacking (d : DataAccess) (m : Model) : List (String × FieldUse) :=
  ((d.filters.filter fun f => f.field ∉ m.fieldNames).map fun f => (f.field, .filter)) ++
    ((d.select.filter fun field => field ∉ m.fieldNames).map fun field => (field, .select)) ++
    ((d.orderBy.toList.filter fun o => o.field ∉ m.fieldNames).map fun o => (o.field, .orderBy))

namespace Backend

def SearchOptions.fieldNames (o : SearchOptions) : List String :=
  o.filters.map (·.field) ++ o.select ++ o.orderBy.toList.map (·.field)

/-- The options are those of a database node, without what names no field of the model. -/
structure SearchOptions.Restricts (o : SearchOptions) (d : DataAccess) (m : Model) : Prop where
  known : ∀ name ∈ o.fieldNames, name ∈ m.fieldNames
  filters : o.filters = d.filters.filter fun f => f.field ∈ m.fieldNames
  select : o.select = d.select.filter fun field => field ∈ m.fieldNames
  orderBy : o.orderBy = d.orderBy.filter fun order => order.field ∈ m.fieldNames

namespace Handler

theorem restricts_searchOptions (d : DataAccess) (m : Model) :
    (searchOptions m (Resolve.query d)).Restricts d m where
  known := by
    intro name named
    simp only [SearchOptions.fieldNames, List.mem_append, List.mem_map, Option.mem_toList] at named
    rcases named with (⟨f, kept, rfl⟩ | kept) | ⟨o, kept, rfl⟩
    · exact Model.hasField_iff.mp (List.mem_filter.mp kept).2
    · exact Model.hasField_iff.mp (List.mem_filter.mp kept).2
    · exact Model.hasField_iff.mp (Option.filter_eq_some_iff.mp kept).2
  filters := List.filter_congr fun f _ => m.hasField_eq f.field
  select := List.filter_congr fun field _ => m.hasField_eq field
  orderBy := by
    show d.orderBy.filter _ = _
    simp only [Model.hasField_eq]

theorem unknownFields_eq_lacking (d : DataAccess) (m : Model) :
    unknownFields m (Resolve.query d) = d.lacking m := by
  simp only [unknownFields, DataAccess.lacking, Resolve.query, List.filter_append, List.filter_map,
    Model.hasField_eq, decide_not, Function.comp_def]

example : DataAccess.lacking
    { filters := [{ field := "size" }, { field := "id" }], select := ["age", "id"],
      orderBy := some { field := "size" } }
    { name := "Item", fields := [{ name := "id", type := .string }] } =
      [("size", .filter), ("age", .select), ("size", .orderBy)] := by decide

end Handler

end Backend

def Warning.isUnknownField : Warning → Bool
  | .unknownField .. => true
  | _ => false

namespace Project

variable {p : Project} {r : Route} {m : Model} {d : DataAccess}

/-- A route lists the records of a model that gets artifacts, as its database node asks for. -/
structure Searches (p : Project) (r : Route) (m : Model) (d : DataAccess) : Prop where
  chosen : ∃ n, Resolve.FirstDatabase p r.node n d
  lists : d.operation = .list
  emitted : m ∈ p.emittedModels
  named : m.name = d.model

namespace Searches

theorem query_eq (search : p.Searches r m d) (kept : r ∈ keptRoutes (Resolve.routes p)) :
    r.query = some (Resolve.query d) := by
  obtain ⟨e, -, rfl⟩ := endpoint_of_kept kept
  obtain ⟨n, before, after, first⟩ := search.chosen
  exact Resolve.query_of_firstAccess ⟨before, n, after, first⟩

theorem exists_named (search : p.Searches r m d) :
    ∃ n ∈ namedModels p, n.model = m ∧ Text.isBlank d.model = false ∧
      (namedModels p).find? (·.model.name == d.model) = some n := by
  have emitted := search.emitted
  rw [← nameModels_models p.emittedModels] at emitted
  obtain ⟨n, member, rfl⟩ := List.mem_map.mp emitted
  rw [← search.named]
  exact ⟨n, member, rfl, find_namedModels_of_mem member⟩

/-- The handler of a search calls the repository of its model, with what the model can answer. -/
theorem calls (search : p.Searches r m d) (kept : r ∈ keptRoutes (Resolve.routes p)) :
    ∃ n ∈ namedModels p, n.model = m ∧ searchCalls ((p.registrationOf r).handler.lines r) =
      [⟨n.names.repository, Handler.searchOptions m (Resolve.query d)⟩] := by
  obtain ⟨n, member, rfl, named, found⟩ := search.exists_named
  have possible : Handler.action? p.settings.engine n.model r (Resolve.query d) =
      some (.list (Handler.searchOptions n.model (Resolve.query d))) := by
    have lists : (Resolve.query d).operation = .list := search.lists
    rw [Handler.action?, lists]
  have plan : (p.registrationOf r).handler = _ :=
    Handler.plan_eq_run (search.query_eq kept) named found possible
  refine ⟨n, member, rfl, ?_⟩
  rw [plan, Handler.searchCalls_lines (repository_plain member)]
  rfl

theorem warnings_eq (search : p.Searches r m d) (kept : r ∈ keptRoutes (Resolve.routes p)) :
    Handler.warnings (namedModels p) [] r =
      (d.lacking m).map fun f => .unknownField r.node m.name f.1 f.2 := by
  obtain ⟨n, -, rfl, named, found⟩ := search.exists_named
  have query : Handler.namedQuery? r = some (Resolve.query d) := by
    rw [Handler.namedQuery?, search.query_eq kept, Option.filter_some, if_pos]
    simpa [Resolve.query] using named
  have lists : (Resolve.query d).operation = .list := search.lists
  have same : (Resolve.query d).model = d.model := rfl
  simp only [Handler.warnings, query, same, found, if_pos lists,
    Handler.unknownFields_eq_lacking]

end Searches

/-- A query that lists the records of a named model is a search. -/
theorem exists_searches {q : Query} {n : NamedModel} (kept : r ∈ keptRoutes (Resolve.routes p))
    (query : r.query = some q) (lists : q.operation = .list) (member : n ∈ namedModels p)
    (name : n.model.name = q.model) : ∃ m d, p.Searches r m d := by
  obtain ⟨e, -, rfl⟩ := endpoint_of_kept kept
  obtain ⟨node, d, first, rfl⟩ := Resolve.firstDatabase_of_query query
  exact ⟨n.model, d, ⟨node, first⟩, lists, model_mem_of_named member, name⟩

/-- Only a search warns of fields. -/
theorem searches_of_unknownField {w : Warning} (kept : r ∈ keptRoutes (Resolve.routes p))
    (warned : w ∈ Handler.warnings (namedModels p) [] r) (field : w.isUnknownField = true) :
    ∃ m d, p.Searches r m d := by
  unfold Handler.warnings at warned
  split at warned
  · cases warned
  · rename_i q query
    split at warned
    · cases List.mem_singleton.mp (List.mem_of_mem_filter warned)
      cases field
    · rename_i n found
      split at warned
      · rename_i lists
        have name : n.model.name = q.model := by simpa using List.find?_some found
        exact exists_searches kept (Option.filter_eq_some_iff.mp query).1 lists
          (List.mem_of_find?_eq_some found) name
      · cases warned

/-- Only the handler of a search calls for many records. -/
theorem searchCalls_eq_nil (kept : r ∈ keptRoutes (Resolve.routes p))
    (none : ∀ m d, ¬ p.Searches r m d) :
    searchCalls ((p.registrationOf r).handler.lines r) = [] := by
  by_cases works : (p.registrationOf r).handler = .stub
  · rw [works]
    exact Handler.searchCalls_stub r
  · obtain ⟨q, n, action, query, member, name, possible, plan⟩ :=
      Handler.exists_action_of_plan works
    have handler : (p.registrationOf r).handler = _ := plan
    rw [handler, Handler.searchCalls_lines (repository_plain member)]
    cases action with
    | list options =>
      have lists := (Handler.operation_of_action possible).symm
      obtain ⟨m, d, search⟩ := exists_searches kept query lists member name
      exact absurd search (none m d)
    | create | read | update | delete => rfl

theorem filter_unknownField_report (models : List NamedModel) (noted : List Warning) (r : Route) :
    (Handler.report models noted r).filter Warning.isUnknownField =
      noted.filter Warning.isUnknownField ++
        (Handler.warnings models [] r).filter Warning.isUnknownField := by
  rw [Handler.report, List.filter_append]
  congr 1
  unfold Handler.warnings
  split
  · rfl
  · split
    · -- the report of a model, new or not, is none of a field
      have none : ∀ l : List Warning, ∀ id model,
          (([.unknownModel id model].filter (· ∉ l)).filter Warning.isUnknownField) = [] := by
        intro l id model
        refine List.filter_eq_nil_iff.mpr fun w member => ?_
        rw [List.mem_singleton.mp (List.mem_of_mem_filter member)]
        exact Bool.false_ne_true
      rw [none, none]
    · rfl

theorem filter_unknownField_warnings (p : Project) :
    (Backend.warnings p (Resolve.routes p)).filter Warning.isUnknownField =
      (keptRoutes (Resolve.routes p)).flatMap fun r =>
        (Handler.warnings (namedModels p) [] r).filter Warning.isUnknownField := by
  have clashes : ((namedModels p).filterMap (·.warning?)).filter Warning.isUnknownField = [] := by
    refine List.filter_eq_nil_iff.mpr fun w member => ?_
    obtain ⟨n, -, clash⟩ := List.mem_filterMap.mp member
    obtain ⟨other, -, rfl⟩ := Option.map_eq_some_iff.mp clash
    exact Bool.false_ne_true
  have each : ∀ (routes : List Route) (noted : List Warning),
      (routes.foldl (Handler.report (namedModels p)) noted).filter Warning.isUnknownField =
        noted.filter Warning.isUnknownField ++ routes.flatMap fun r =>
          (Handler.warnings (namedModels p) [] r).filter Warning.isUnknownField := by
    intro routes
    induction routes with
    | nil => simp
    | cons r routes ih =>
      intro noted
      rw [List.foldl_cons, ih, filter_unknownField_report, List.flatMap_cons, List.append_assoc]
  rw [Backend.warnings, each, clashes, List.nil_append]

/-- No query names a field that its model lacks. The handler of a search makes one call, whose
filters, selection and order are those of the database node, without what names no field. Each entry
that is left out is reported once, with its use: filters, then the selection, then the order. Routes
that do not search make no such call and report no field. -/
theorem unknown_fields_left_out (p : Project) :
    (∀ r ∈ keptRoutes (Resolve.routes p), ∀ m d, p.Searches r m d →
      p.RegistersBehind r (Middleware.chain r) ∧
      ∃ n ∈ namedModels p, n.model = m ∧ ∃ options,
        searchCalls ((p.registrationOf r).handler.lines r) = [⟨n.names.repository, options⟩] ∧
          options.Restricts d m) ∧
    ∃ share : Route → List Warning,
      (Backend.warnings p (Resolve.routes p)).filter Warning.isUnknownField =
        (keptRoutes (Resolve.routes p)).flatMap share ∧
      ∀ r ∈ keptRoutes (Resolve.routes p),
        (∀ m d, p.Searches r m d →
          share r = (d.lacking m).map fun f => .unknownField r.node m.name f.1 f.2) ∧
        ((∀ m d, ¬ p.Searches r m d) →
          share r = [] ∧ searchCalls ((p.registrationOf r).handler.lines r) = []) := by
  refine ⟨fun r kept m d search => ⟨registersBehind_chain kept, ?_⟩,
    _, filter_unknownField_warnings p, fun r kept => ⟨fun m d search => ?_, fun none => ⟨?_, ?_⟩⟩⟩
  · obtain ⟨n, member, model, calls⟩ := search.calls kept
    exact ⟨n, member, model, _, calls, Handler.restricts_searchOptions d m⟩
  · rw [search.warnings_eq kept, List.filter_eq_self, List.forall_mem_map]
    exact fun _ _ => rfl
  · refine List.filter_eq_nil_iff.mpr fun w warned field => ?_
    obtain ⟨m, d, search⟩ := searches_of_unknownField kept warned field
    exact none m d search
  · exact searchCalls_eq_nil kept none

def sizedItems : DataAccess where
  operation := .list
  model := "Item"
  filters := [{ field := "size", value := "XL" }, { field := "id", value := "7" }]
  select := ["age", "id"]
  orderBy := some { field := "size" }

def itemSearch : Project where
  nodes :=
    [{ id := "search", content := .endpoint { path := "/items" } },
     { id := "items", content := .database sizedItems }]
  edges := [⟨"reads", "search", "items", none, none⟩]
  models := [{ name := "Item", fields := [{ name := "id", type := .string, isId := true }] }]

/-- A search that keeps one filter and one selected field, and reports three fields. -/
theorem itemSearch_restricted :
    let r := itemSearch.routeOf ("search", { path := "/items" })
    (∃ options, searchCalls ((itemSearch.registrationOf r).handler.lines r) =
        [⟨"itemRepository", options⟩] ∧
      options.filters = [{ field := "id", value := "7" }] ∧ options.select = ["id"] ∧
      options.orderBy = none) ∧
    (Backend.warnings itemSearch (Resolve.routes itemSearch)).filter Warning.isUnknownField =
      [.unknownField "search" "Item" "size" .filter, .unknownField "search" "Item" "age" .select,
       .unknownField "search" "Item" "size" .orderBy] := by
  intro r
  let item : Model := itemSearch.models[0]
  have routes : keptRoutes (Resolve.routes itemSearch) = [r] := by decide +kernel
  have kept : r ∈ keptRoutes (Resolve.routes itemSearch) := by
    rw [routes]
    exact List.mem_singleton_self r
  have search : itemSearch.Searches r item sizedItems :=
    { chosen := ⟨itemSearch.nodes[1], [itemSearch.nodes[0]], [], rfl, rfl, by decide, by decide⟩
      lists := rfl
      emitted := by decide +kernel
      named := rfl }
  obtain ⟨calls, share, reported, shares⟩ := unknown_fields_left_out itemSearch
  obtain ⟨-, n, member, -, options, made, restricts⟩ := calls r kept item sizedItems search
  refine ⟨⟨options, ?_, restricts.filters, restricts.select, restricts.orderBy⟩, ?_⟩
  · have named : ∀ n ∈ namedModels itemSearch, n.names.repository = "itemRepository" := by
      decide +kernel
    rw [made, named n member]
  · rw [reported, routes, List.flatMap_singleton, (shares r kept).1 item sizedItems search]
    rfl

end Project

end ApiGraph
