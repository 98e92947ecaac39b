import ApiGraph.Proofs.Success
import ApiGraph.Proofs.Backend.SearchCalls
import ApiGraph.Proofs.Backend.StoreCalls

/-!
# Quiet compilations

What follows from a compilation that warns of nothing (`Quiet`). The lines of the handler of a kept
route do what its database node says, except where they would address a record and the path has no
parameter. They pass on the options of a search, and those of any other operation are dropped
(`quiet_routes_perform`).
-/

namespace ApiGraph

open Backend Source

namespace Lint

theorem primaryKey_of_quiet {index : Nat} {before : List String} {ms : List Model}
    (quiet : modelsFrom index before ms = []) : ∀ m ∈ ms, m.primaryKey ≠ [] := by
  induction ms generalizing index before with
  | nil => exact fun m member => absurd member List.not_mem_nil
  | cons first rest ih =>
    rw [modelsFrom, List.append_eq_nil_iff] at quiet
    obtain ⟨shape, later⟩ := quiet
    intro m member
    rcases List.mem_cons.mp member with rfl | member
    · intro none
      rw [Option.toList_eq_nil_iff, modelShape] at shape
      split at shape
      · cases shape
      · split at shape
        · cases shape
        · rw [primaryKey, none] at shape
          cases shape
    · exact ih later m member

theorem database_of_quiet {p : Project} {n : Node} {d : DataAccess}
    (found : n.content.database? = some d) (quiet : database p n = []) :
    Text.isBlank d.model = false ∧ (d.limit.isSome → d.recordLimit.isSome) := by
  simp only [database, found, List.append_eq_nil_iff, Option.toList_eq_nil_iff] at quiet
  obtain ⟨reference, limited⟩ := quiet
  constructor
  · by_contra blank
    rw [modelReference, if_pos (by simpa using blank)] at reference
    cases reference
  · intro given
    by_contra unusable
    obtain ⟨l, written⟩ := Option.isSome_iff_exists.mp given
    rw [limit, if_neg unusable, written] at limited
    cases limited

end Lint

/-- What a compilation without warnings says about a project. -/
structure Quiet (p : Project) : Prop where
  models : ∀ m ∈ p.models, m.primaryKey ≠ []
  databases : ∀ n ∈ p.nodes, ∀ d, n.content.database? = some d →
    Text.isBlank d.model = false ∧ (d.limit.isSome → d.recordLimit.isSome)
  handlers : ∀ r ∈ keptRoutes (Resolve.routes p), Handler.warnings (namedModels p) [] r = []

theorem quiet_of_warnings {p : Project} (none : p.compile.warnings = []) : Quiet p := by
  have stages : Lint.lint p ++ Resolve.warnings p ++
      OpenApi.Document.warnings p (Resolve.routes p) ++
        Backend.warnings p (Resolve.routes p) = [] := by
    refine List.eq_nil_iff_forall_not_mem.mpr fun w member => ?_
    have warned : w ∈ p.compile.warnings := mem_firsts_iff.mpr member
    rw [none] at warned
    exact List.not_mem_nil warned
  simp only [List.append_eq_nil_iff, Lint.lint, List.flatMap_eq_nil_iff] at stages
  obtain ⟨⟨⟨⟨⟨-, models⟩, databases⟩, -⟩, -⟩, server⟩ := stages
  refine ⟨Lint.primaryKey_of_quiet models,
    fun n member d found => Lint.database_of_quiet found (databases n member), fun r kept => ?_⟩
  refine List.eq_nil_iff_forall_not_mem.mpr fun w warned => ?_
  have reported : w ∈ Backend.warnings p (Resolve.routes p) :=
    Handler.mem_foldl_report_iff.mpr (.inr ⟨r, kept, warned⟩)
  rw [server] at reported
  exact List.not_mem_nil reported

/-! ### Handlers -/

namespace Resolve

/-- The data access is that of the first in node order among the database nodes that an edge joins
to an id. -/
def FirstAccess (p : Project) (id : String) (d : DataAccess) : Prop :=
  ∃ before n after, p.nodes = before ++ n :: after ∧ n.content.database? = some d ∧
    Graph.Joins p.edges id n.id ∧
    ∀ m ∈ before, m.content.database?.isSome → ¬ Graph.Joins p.edges id m.id

theorem firstAccess_iff {p : Project} {id : String} {d : DataAccess} :
    FirstAccess p id d ↔ ((surroundings p id).databases.map (·.2)).head? = some d := by
  have databases : (surroundings p id).databases.map (·.2) =
      (Graph.connected p.edges p.nodes id).filterMap (·.content.database?) := by
    simp [surroundings, List.map_filterMap, Function.comp_def]
  rw [databases, Graph.head_connected_iff]
  rfl

theorem query_of_firstAccess {p : Project} {e : String × Endpoint} {d : DataAccess}
    (first : FirstAccess p e.1 d) : (p.routeOf e).query = some (query d) := by
  show ((surroundings p e.1).databases.head?.map (·.2)).map query = _
  rw [← List.head?_map, firstAccess_iff.mp first]
  rfl

end Resolve

def recordOperations : List DataOperation := [.read, .update, .delete]

/-- The method of a repository that carries an operation out. -/
def DataOperation.method : DataOperation → String
  | list => "findMany"
  | create => "create"
  | read => "findById"
  | update => "update"
  | delete => "remove"

/-- The lines of a handler carry an operation out: they make one call of a repository, and answer
with a success. What is written is the body of the request, and a record is addressed by one of its
parameters. -/
structure CarriesOut (repository : String) (operation : DataOperation) (lines : List String) :
    Prop where
  call : ∃ arguments, storeCalls lines = [⟨repository, operation.method, arguments⟩] ∧
    (operation ∈ [.create, .update] → "req.body ?? \x7b\x7d);".toList <:+ arguments.toList)
  record : operation ∈ recordOperations →
    ∃ access, recordCalls lines = [⟨repository, operation.method, access⟩]
  answer : ∃ status, sentStatuses lines = [status] ∧ status < 300

/-- The lines of a handler do what a database node says, with its model. -/
def Performs (p : Project) (d : DataAccess) (lines : List String) : Prop :=
  ∃ m ∈ namedModels p, m.model.name = d.model ∧ CarriesOut m.names.repository d.operation lines

/-- The options that the lines of a handler pass on: those of their search. -/
def passedOptions (lines : List String) : SearchOptions :=
  ((searchCalls lines).head?.map (·.options)).getD {}

/-- Some options are all that a database node has. -/
structure Carries (d : DataAccess) (o : SearchOptions) : Prop where
  filters : o.filters = d.filters
  select : o.select = d.select
  orderBy : o.orderBy = d.orderBy
  limit : o.limit = d.recordLimit ∧ o.limit.isSome = d.limit.isSome

/-- A database node has no options. -/
structure DataAccess.Bare (d : DataAccess) : Prop where
  filters : d.filters = []
  select : d.select = []
  orderBy : d.orderBy = none
  limit : d.limit = none

theorem carries_nothing_iff {d : DataAccess} : Carries d {} ↔ d.Bare := by
  constructor
  · intro carried
    have limit : d.limit.isSome = false := carried.limit.2.symm
    exact ⟨carried.filters.symm, carried.select.symm, carried.orderBy.symm, by simpa using limit⟩
  · intro bare
    have recorded : d.recordLimit = none := by rw [DataAccess.recordLimit, bare.limit]; rfl
    exact ⟨bare.filters.symm, bare.select.symm, bare.orderBy.symm, recorded.symm,
      by rw [bare.limit]; rfl⟩

namespace Backend.Handler

variable {names : ModelNames} {model : String} {action : Action} {status : Nat}

theorem carriesOut_run (bound : Text.isPlainIdent names.repository.toList = true)
    (model : String) (action : Action) (success : status < 300) (r : Route) :
    CarriesOut names.repository action.operation ((run names model action status).lines r) := by
  have method : action.method = action.operation.method := by cases action <;> rfl
  refine ⟨⟨passed action, ?_, ?_⟩, ?_, status, sent_lines r _, success⟩
  · rw [storeCalls_lines bound, storeCall, method]
  · intro writes
    cases action with
    | list | read | delete => simp [Action.operation] at writes
    | create => exact List.suffix_rfl
    | update param =>
      rw [passed, String.append_assoc, String.toList_append]
      exact List.suffix_append ..
  · intro record
    rw [recordCalls_lines bound, called?, method]
    cases action with
    | list | create => simp [Action.operation, recordOperations] at record
    | read param | update param | delete param => exact ⟨_, rfl⟩

theorem not_carriesOut_stub (repository : String) (operation : DataOperation) (r : Route) :
    ¬ CarriesOut repository operation (stub.lines r) := by
  rintro ⟨⟨arguments, made, -⟩, -, -⟩
  rw [storeCalls_stub] at made
  cases made

theorem passedOptions_run (bound : Text.isPlainIdent names.repository.toList = true) (r : Route) :
    passedOptions ((run names model action status).lines r) = action.options := by
  rw [passedOptions, searchCalls_lines bound]
  cases action <;> rfl

theorem passedOptions_stub (r : Route) : passedOptions (stub.lines r) = {} := by
  rw [passedOptions, searchCalls_stub]
  rfl

end Backend.Handler

namespace Quiet

variable {p : Project} {e : String × Endpoint} {d : DataAccess}

theorem access_of_first (quiet : Quiet p) (first : Resolve.FirstAccess p e.1 d) :
    Text.isBlank d.model = false ∧ (d.limit.isSome → d.recordLimit.isSome) := by
  obtain ⟨before, n, after, split, found, -⟩ := first
  exact quiet.databases n (by simp [split]) d found

theorem primaryKey_of_named (quiet : Quiet p) {m : NamedModel} (member : m ∈ namedModels p) :
    m.model.primaryKey ≠ [] :=
  quiet.models m.model (List.mem_filter.mp (mem_of_mem_firstsBy (model_mem_of_named member))).1

/-- The handler runs an action on the model of the database node. That of a search has all of its
options. -/
theorem exists_run (quiet : Quiet p) (kept : p.routeOf e ∈ keptRoutes (Resolve.routes p))
    (first : Resolve.FirstAccess p e.1 d)
    (addressable : d.operation ∈ recordOperations → (p.routeOf e).pathParams ≠ []) :
    ∃ m ∈ namedModels p, m.model.name = d.model ∧ ∃ action, action.operation = d.operation ∧
      (p.registrationOf (p.routeOf e)).handler =
        .run m.names m.model.name action (p.routeOf e).successStatus ∧
      (d.operation = .list → Carries d action.options) := by
  obtain ⟨named, limited⟩ := quiet.access_of_first first
  have query := Resolve.query_of_firstAccess first
  obtain ⟨m, found, known⟩ :=
    Handler.exists_model_of_quiet query named (quiet.handlers _ kept)
  have member : m ∈ namedModels p := List.mem_of_find?_eq_some found
  have name : m.model.name = d.model := by simpa [Resolve.query] using List.find?_some found
  obtain ⟨action, possible, operation, searches⟩ :=
    Handler.exists_action p.settings.engine (p.routeOf e) (Resolve.query d)
      (quiet.primaryKey_of_named member) addressable
  refine ⟨m, member, name, action, operation, Handler.plan_eq_run query named found possible,
    fun list => ?_⟩
  rw [searches list, Handler.searchOptions_complete (known list)]
  refine ⟨rfl, rfl, rfl, rfl, Bool.eq_iff_iff.mpr ⟨fun counted => ?_, limited⟩⟩
  cases written : d.limit with
  | some l => rfl
  | none =>
    have none : (Resolve.query d).limit = none := by
      simp [Resolve.query, DataAccess.recordLimit, written]
    exact absurd counted (by simp [Action.options, none])

/-- An operation on a record is not carried out where the path has no parameter. -/
theorem handler_eq_stub (quiet : Quiet p) (kept : p.routeOf e ∈ keptRoutes (Resolve.routes p))
    (first : Resolve.FirstAccess p e.1 d) (record : d.operation ∈ recordOperations)
    (unaddressed : (p.routeOf e).pathParams = []) :
    (p.registrationOf (p.routeOf e)).handler = .stub := by
  have query := Resolve.query_of_firstAccess first
  have named := (quiet.access_of_first first).1
  obtain ⟨m, found, -⟩ := Handler.exists_model_of_quiet query named (quiet.handlers _ kept)
  exact (Handler.plan_eq_stub_iff query named found).mpr
    (Handler.action?_eq_none_iff.mpr ⟨record, .inl unaddressed⟩)

end Quiet

/-- Where a compilation warns of nothing, the lines of the handler of every kept route that is wired
to a database node perform the operation of the first such node, exactly if the path has a parameter
where the operation is on a record. They carry the options of that node exactly if the operation is
a search, or there are none. -/
theorem quiet_routes_perform (p : Project) (quiet : p.compile.warnings = []) :
    ∀ e ∈ p.endpoints, p.routeOf e ∈ keptRoutes (Resolve.routes p) →
      ∀ d, Resolve.FirstAccess p e.1 d →
        ∃ arguments, p.RegistersWith (p.routeOf e) arguments ∧
          (Performs p d (handlerLines arguments) ↔
            (d.operation ∈ recordOperations → (p.routeOf e).pathParams ≠ [])) ∧
          (Carries d (passedOptions (handlerLines arguments)) ↔
            d.operation = .list ∨ d.Bare) := by
  intro e _ kept d first
  have silent := quiet_of_warnings quiet
  have handler : handlerLines (p.registrationOf (p.routeOf e)).arguments =
      (p.registrationOf (p.routeOf e)).handler.lines (p.routeOf e) :=
    (p.registrationOf (p.routeOf e)).stepLines_arguments.2
  refine ⟨_, Project.registersWith_kept kept, ?_⟩
  rw [handler]
  by_cases addressable : d.operation ∈ recordOperations → (p.routeOf e).pathParams ≠ []
  · obtain ⟨m, member, name, action, operation, runs, searches⟩ :=
      silent.exists_run kept first addressable
    have bound := repository_plain member
    have performs := Handler.carriesOut_run bound m.model.name action
      (p.routeOf e).successStatus_lt (p.routeOf e)
    rw [operation] at performs
    rw [runs, Handler.passedOptions_run bound]
    refine ⟨iff_of_true ⟨m, member, name, performs⟩ addressable, ?_⟩
    by_cases list : d.operation = .list
    · exact iff_of_true (searches list) (.inl list)
    · have none : action.options = {} := by
        rw [← operation] at list
        cases action with
        | list o => exact absurd rfl list
        | _ => rfl
      rw [none, carries_nothing_iff, or_iff_right list]
  · obtain ⟨record, unaddressed⟩ := Classical.not_imp.mp addressable
    rw [silent.handler_eq_stub kept first record (not_not.mp unaddressed),
      Handler.passedOptions_stub, carries_nothing_iff]
    refine ⟨iff_of_false (fun ⟨m, _, _, performs⟩ => ?_) addressable, ?_⟩
    · exact Handler.not_carriesOut_stub _ _ _ performs
    · refine (or_iff_right fun list => ?_).symm
      rw [list] at record
      exact absurd record (by decide)

def wholeSearch : DataAccess :=
  { operation := .list, model := "Item",
    filters := [{ field := "kind", value := "kind", source := .query }], select := ["id"],
    orderBy := some { field := "kind", direction := .desc }, limit := some (.str " +20") }

/-- A read that has options of a search. -/
def narrowRead : DataAccess :=
  { operation := .read, model := "Item",
    filters := [{ field := "kind", value := "kind", source := .query }], limit := some (.str "1") }

/-- A search, a read without a parameter and a read with one. Nothing in it is warned about. -/
def quietProject : Project where
  nodes :=
    [{ id := "search", content := .endpoint { path := "/items" } },
     { id := "latest", content := .endpoint { path := "/items/latest" } },
     { id := "one", content := .endpoint { path := "/items/:id" } },
     { id := "all", content := .database wholeSearch },
     { id := "record", content := .database narrowRead }]
  edges :=
    [{ id := "a", source := "search", target := "all" },
     { id := "b", source := "latest", target := "record" },
     { id := "c", source := "record", target := "one" }]
  models :=
    [{ name := "Item",
       fields := [{ name := "id", type := .string, isId := true },
         { name := "kind", type := .string }] }]

theorem quietProject_quiet : quietProject.compile.warnings = [] := by decide +kernel

theorem quietProject_kept :
    ∀ e ∈ quietProject.endpoints,
      quietProject.routeOf e ∈ keptRoutes (Resolve.routes quietProject) := by decide +kernel

/-- The search does all that was asked for. The other two fall short of it, and no warning says so:
the read without a parameter is not carried out, and the one with a parameter drops the options. -/
theorem quietProject_shortfall :
    quietProject.compile.warnings = [] ∧
      (∀ e ∈ quietProject.endpoints,
        quietProject.routeOf e ∈ keptRoutes (Resolve.routes quietProject)) ∧
      (Resolve.FirstAccess quietProject "search" wholeSearch ∧ ∃ arguments,
        quietProject.RegistersWith
          (quietProject.routeOf ("search", { path := "/items" })) arguments ∧
        Performs quietProject wholeSearch (handlerLines arguments) ∧
        Carries wholeSearch (passedOptions (handlerLines arguments))) ∧
      (Resolve.FirstAccess quietProject "latest" narrowRead ∧ ∃ arguments,
        quietProject.RegistersWith
          (quietProject.routeOf ("latest", { path := "/items/latest" })) arguments ∧
        ¬ Performs quietProject narrowRead (handlerLines arguments)) ∧
      Resolve.FirstAccess quietProject "one" narrowRead ∧ ∃ arguments,
        quietProject.RegistersWith
          (quietProject.routeOf ("one", { path := "/items/:id" })) arguments ∧
        Performs quietProject narrowRead (handlerLines arguments) ∧
        ¬ Carries narrowRead (passedOptions (handlerLines arguments)) := by
  have search : Resolve.FirstAccess quietProject "search" wholeSearch :=
    Resolve.firstAccess_iff.mpr rfl
  have latest : Resolve.FirstAccess quietProject "latest" narrowRead :=
    Resolve.firstAccess_iff.mpr rfl
  have one : Resolve.FirstAccess quietProject "one" narrowRead := Resolve.firstAccess_iff.mpr rfl
  have limited : ¬ narrowRead.Bare := fun bare => Option.some_ne_none _ bare.limit
  have each := quiet_routes_perform quietProject quietProject_quiet
  obtain ⟨whole, whole_registered, whole_performs, whole_carries⟩ :=
    each ("search", { path := "/items" }) (by decide) (quietProject_kept _ (by decide)) _ search
  obtain ⟨none, none_registered, none_performs, -⟩ := each ("latest", { path := "/items/latest" })
    (by decide) (quietProject_kept _ (by decide)) _ latest
  obtain ⟨record, record_registered, record_performs, record_carries⟩ :=
    each ("one", { path := "/items/:id" }) (by decide) (quietProject_kept _ (by decide)) _ one
  refine ⟨quietProject_quiet, quietProject_kept,
    ⟨search, whole, whole_registered, whole_performs.mpr (by decide),
      whole_carries.mpr (.inl rfl)⟩,
    ⟨latest, none, none_registered, fun performs => ?_⟩,
    one, record, record_registered, record_performs.mpr fun _ => by decide, fun carried => ?_⟩
  · exact none_performs.mp performs (by decide) rfl
  · exact (record_carries.mp carried).elim (by decide) limited

end ApiGraph
