import ApiGraph.Backend.Files
import ApiGraph.Proofs.Backend.Names
import ApiGraph.Proofs.FirstUse

namespace ApiGraph.Backend

namespace Action

def operation : Action → DataOperation
  | list _ => .list
  | create => .create
  | read _ => .read
  | update _ => .update
  | delete _ => .delete

def options : Action → SearchOptions
  | list o => o
  | _ => {}

end Action

theorem model_mem_of_named {p : Project} {m : NamedModel} (member : m ∈ namedModels p) :
    m.model ∈ p.emittedModels := by
  rw [← nameModels_models p.emittedModels]
  exact List.mem_map_of_mem member

theorem names_namedModels (p : Project) :
    (namedModels p).map (·.model.name) = p.emittedModels.map (·.name) := by
  rw [← nameModels_models p.emittedModels, List.map_map]
  rfl

/-- The models that handlers find by a name are those of the project, except under a blank name. -/
theorem find_namedModels_isSome_iff {p : Project} {name : String} :
    ((namedModels p).find? (·.model.name == name)).isSome ↔
      Text.isBlank name = false ∧ (p.model? name).isSome := by
  have emitted : ((namedModels p).find? (·.model.name == name)).isSome ↔
      name ∈ p.emittedModels.map (·.name) := by
    rw [← names_namedModels, List.mem_map, List.find?_isSome]
    exact exists_congr fun m => and_congr_right fun _ => beq_iff_eq
  rw [emitted, Project.emittedModels, mem_keys_firstsBy_iff, List.mem_map, Project.model?,
    List.find?_isSome]
  constructor
  · rintro ⟨m, member, rfl⟩
    obtain ⟨present, named⟩ := List.mem_filter.mp member
    exact ⟨by simpa using named, m, present, beq_self_eq_true _⟩
  · rintro ⟨named, m, present, same⟩
    obtain rfl := eq_of_beq same
    exact ⟨m, List.mem_filter.mpr ⟨present, by simp [named]⟩, rfl⟩

/-- A named model is the one that handlers find by its name, which is not blank. -/
theorem find_namedModels_of_mem {p : Project} {m : NamedModel} (member : m ∈ namedModels p) :
    Text.isBlank m.model.name = false ∧
      (namedModels p).find? (·.model.name == m.model.name) = some m := by
  have present : ((namedModels p).find? (·.model.name == m.model.name)).isSome :=
    List.find?_isSome.mpr ⟨m, member, beq_self_eq_true _⟩
  refine ⟨(find_namedModels_isSome_iff.mp present).1, ?_⟩
  obtain ⟨n, found⟩ := Option.isSome_iff_exists.mp present
  have distinct : ((namedModels p).map (·.model.name)).Nodup := by
    rw [names_namedModels]
    exact firstsBy_keys_nodup
  have same : n.model.name = m.model.name := by simpa using List.find?_some found
  rw [found, List.inj_on_of_nodup_map distinct (List.mem_of_find?_eq_some found) member same]

theorem lookupField_of_primaryKey {m : Model} (keyed : m.primaryKey ≠ []) :
    m.lookupField.isSome := by
  obtain ⟨f, member⟩ := List.exists_mem_of_ne_nil _ keyed
  obtain ⟨present, isId⟩ := List.mem_filter.mp member
  have found : (m.fields.find? (·.isId)).isSome := List.find?_isSome.mpr ⟨f, present, isId⟩
  obtain ⟨g, first⟩ := Option.isSome_iff_exists.mp found
  rw [Model.lookupField, first]
  rfl

theorem recordKey_of_primaryKey {m : Model} (engine : Engine) (keyed : m.primaryKey ≠ []) :
    (recordKey engine m).isSome := by
  obtain ⟨f, found⟩ := Option.isSome_iff_exists.mp (lookupField_of_primaryKey keyed)
  rw [recordKey, found]
  rfl

namespace Handler

theorem recordParam_isSome {r : Route} (addressed : r.pathParams ≠ []) :
    (recordParam r).isSome := by
  have names : r.pathParams.map (·.param.name) ≠ [] := by simpa using addressed
  have last : (r.pathParams.map (·.param.name)).getLast?.isSome := List.getLast?_isSome.mpr names
  rw [recordParam]
  cases found : (r.pathParams.map (·.param.name)).find? (· == "id") with
  | some name => simp
  | none => simpa using last

/-- An operation can be carried out on a model with a primary key, on records of it where the route
has a path parameter. -/
theorem exists_action (engine : Engine) {m : Model} (r : Route) (q : Query)
    (keyed : m.primaryKey ≠ [])
    (addressable : q.operation ∈ [.read, .update, .delete] → r.pathParams ≠ []) :
    ∃ action, action? engine m r q = some action ∧ action.operation = q.operation ∧
      (q.operation = .list → action = .list (searchOptions m q)) := by
  have param : r.pathParams ≠ [] → ∃ name, addressed engine m r = some name := by
    intro addressable
    rw [addressed, if_pos (recordKey_of_primaryKey engine keyed)]
    exact Option.isSome_iff_exists.mp (recordParam_isSome addressable)
  unfold action?
  cases operation : q.operation with
  | list => exact ⟨_, rfl, rfl, fun _ => rfl⟩
  | create => exact ⟨_, rfl, rfl, nofun⟩
  | read =>
    obtain ⟨name, found⟩ := param (addressable (by simp [operation]))
    exact ⟨.read name, by rw [found]; rfl, rfl, nofun⟩
  | update =>
    obtain ⟨name, found⟩ := param (addressable (by simp [operation]))
    exact ⟨.update name, by rw [found]; rfl, rfl, nofun⟩
  | delete =>
    obtain ⟨name, found⟩ := param (addressable (by simp [operation]))
    exact ⟨.delete name, by rw [found]; rfl, rfl, nofun⟩

theorem addressed_eq_none_iff {engine : Engine} {m : Model} {r : Route} :
    addressed engine m r = none ↔ r.pathParams = [] ∨ recordKey engine m = none := by
  have param : recordParam r = none ↔ r.pathParams = [] := by
    constructor
    · intro none
      by_contra addressable
      have some := recordParam_isSome addressable
      rw [none] at some
      cases some
    · intro none
      rw [recordParam, none]
      rfl
  cases key : recordKey engine m with
  | none => simp [addressed, key]
  | some k => simp [addressed, key, param]

/-- What cannot be carried out: an operation on a record that the route or the model cannot
address. -/
theorem action?_eq_none_iff {engine : Engine} {m : Model} {r : Route} {q : Query} :
    action? engine m r q = none ↔ q.operation ∈ [.read, .update, .delete] ∧
      (r.pathParams = [] ∨ recordKey engine m = none) := by
  rw [← addressed_eq_none_iff]
  cases operation : q.operation <;> simp [action?, operation]

theorem searchOptions_complete {m : Model} {q : Query} (known : unknownFields m q = []) :
    searchOptions m q = ⟨q.filters, q.select, q.orderBy, q.limit⟩ := by
  simp only [unknownFields, List.filter_eq_nil_iff, List.mem_append, List.mem_map] at known
  have has : ∀ field use, ((∃ f ∈ q.filters, (f.field, FieldUse.filter) = (field, use)) ∨
      ∃ s ∈ q.select, (s, FieldUse.select) = (field, use)) ∨
      (∃ o ∈ q.orderBy.toList, (o.field, FieldUse.orderBy) = (field, use)) →
      m.hasField field = true := by
    intro field use named
    simpa using known (field, use) named
  have filters : (q.filters.filter fun f => m.hasField f.field) = q.filters :=
    List.filter_eq_self.mpr fun f member => has _ _ (.inl (.inl ⟨f, member, rfl⟩))
  have select : q.select.filter m.hasField = q.select :=
    List.filter_eq_self.mpr fun s member => has _ _ (.inl (.inr ⟨s, member, rfl⟩))
  have orderBy : (q.orderBy.filter fun o => m.hasField o.field) = q.orderBy := by
    cases order : q.orderBy with
    | none => rfl
    | some o => exact if_pos (has _ _ (.inr ⟨o, by simp [order], rfl⟩))
  rw [searchOptions, filters, select, orderBy]

/-- What was noted before changes nothing in what is reported as a whole. -/
theorem mem_report_iff {models : List NamedModel} {noted : List Warning} {r : Route} {w : Warning} :
    w ∈ report models noted r ↔ w ∈ noted ∨ w ∈ warnings models [] r := by
  rw [report, List.mem_append]
  unfold warnings
  split
  · rfl
  · split
    · by_cases known : w ∈ noted
      · simp [known]
      · simp [List.mem_filter, known]
    · rfl

theorem mem_foldl_report_iff {models : List NamedModel} {routes : List Route} {noted : List Warning}
    {w : Warning} :
    w ∈ routes.foldl (report models) noted ↔
      w ∈ noted ∨ ∃ r ∈ routes, w ∈ warnings models [] r := by
  induction routes generalizing noted with
  | nil => simp
  | cons r routes ih =>
    rw [List.foldl_cons, ih, mem_report_iff, List.exists_mem_cons_iff, or_assoc]

/-- A route whose plan warns of nothing has a model that it names. -/
theorem exists_model_of_quiet {models : List NamedModel} {r : Route} {q : Query}
    (query : r.query = some q) (named : Text.isBlank q.model = false)
    (quiet : warnings models [] r = []) :
    ∃ m, models.find? (·.model.name == q.model) = some m ∧
      (q.operation = .list → unknownFields m.model q = []) := by
  have names : namedQuery? r = some q := by simp [namedQuery?, query, named]
  simp only [warnings, names] at quiet
  cases found : models.find? (·.model.name == q.model) with
  | none => simp [found] at quiet
  | some m =>
    refine ⟨m, rfl, fun list => ?_⟩
    simpa [found, list] using quiet

theorem plan_eq_run {engine : Engine} {models : List NamedModel} {r : Route} {q : Query}
    {m : NamedModel} {action : Action} (query : r.query = some q)
    (named : Text.isBlank q.model = false)
    (found : models.find? (·.model.name == q.model) = some m)
    (possible : action? engine m.model r q = some action) :
    plan engine models r = .run m.names m.model.name action r.successStatus := by
  have names : namedQuery? r = some q := by simp [namedQuery?, query, named]
  simp only [plan, names, found, possible]

/-- Where the model is found, only an operation that cannot be carried out leaves a stub. -/
theorem plan_eq_stub_iff {engine : Engine} {models : List NamedModel} {r : Route} {q : Query}
    {m : NamedModel} (query : r.query = some q) (named : Text.isBlank q.model = false)
    (found : models.find? (·.model.name == q.model) = some m) :
    plan engine models r = .stub ↔ action? engine m.model r q = none := by
  cases possible : action? engine m.model r q with
  | some action => simp [plan_eq_run query named found possible]
  | none =>
    have names : namedQuery? r = some q := by simp [namedQuery?, query, named]
    simp [plan, names, found, possible]

theorem exists_action_of_plan {engine : Engine} {models : List NamedModel} {r : Route}
    (works : plan engine models r ≠ .stub) :
    ∃ q m action, r.query = some q ∧ m ∈ models ∧ m.model.name = q.model ∧
      action? engine m.model r q = some action ∧
      plan engine models r = .run m.names m.model.name action r.successStatus := by
  unfold plan at works ⊢
  split at works
  · exact absurd rfl works
  · rename_i q named
    split at works
    · exact absurd rfl works
    · rename_i m found
      split at works
      · exact absurd rfl works
      · rename_i action possible
        have query : r.query = some q := (Option.filter_eq_some_iff.mp named).1
        have name : m.model.name = q.model := by simpa using List.find?_some found
        exact ⟨q, m, action, query, List.mem_of_find?_eq_some found, name, possible, rfl⟩

theorem operation_of_action {engine : Engine} {m : Model} {r : Route} {q : Query} {action : Action}
    (possible : action? engine m r q = some action) : action.operation = q.operation := by
  unfold action? at possible
  cases operation : q.operation with
  | list =>
    simp only [operation, Option.some.injEq] at possible
    exact possible ▸ rfl
  | create =>
    simp only [operation, Option.some.injEq] at possible
    exact possible ▸ rfl
  | read | update | delete =>
    simp only [operation] at possible
    obtain ⟨param, -, rfl⟩ := Option.map_eq_some_iff.mp possible
    rfl

theorem param_of_action {engine : Engine} {m : Model} {r : Route} {q : Query} {action : Action}
    (possible : action? engine m r q = some action)
    (record : q.operation ∈ [.read, .update, .delete]) :
    ∃ param, action.param? = some param ∧ recordParam r = some param := by
  have found : ∀ {make : String → Action}, (addressed engine m r).map make = some action →
      ∃ param, action = make param ∧ recordParam r = some param := by
    intro make made
    obtain ⟨param, given, rfl⟩ := Option.map_eq_some_iff.mp made
    unfold addressed at given
    split at given
    · exact ⟨param, rfl, given⟩
    · cases given
  unfold action? at possible
  cases operation : q.operation with
  | list => simp [operation] at record
  | create => simp [operation] at record
  | read | update | delete =>
    simp only [operation] at possible
    obtain ⟨param, rfl, given⟩ := found possible
    exact ⟨param, rfl, given⟩

end Handler

end ApiGraph.Backend
