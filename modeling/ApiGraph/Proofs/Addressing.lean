import ApiGraph.Proofs.Backend.RecordCalls
import ApiGraph.Proofs.ModelReferences
import ApiGraph.Proofs.OpenApi.PathParameters

/-!
# Addressed records

Which record a handler asks for. It reads a parameter that its registered path provides
(`params_provided`): the token `id` of the template, or else the last parameter of the route, where
what is declared comes first. `record_addressed_iff` says when that is the last token.
-/

namespace ApiGraph

open Backend

namespace Path

def allTokens (template : String) : List String :=
  ((segments template).filterMap token?).map (·.name)

theorem mem_allTokens_iff {template n : String} :
    n ∈ allTokens template ↔ n ∈ tokenNames template :=
  List.mem_eraseDups.symm

end Path

namespace Resolve

variable {e : Endpoint} {t : String}

/-- A token is the last parameter of an endpoint: no token that is not declared comes up after it,
or all are declared and it is the last one of them. -/
def StaysLast (e : Endpoint) (t : String) : Prop :=
  (t ∉ declaredNames e ∧ ∃ before after, Path.tokenNames e.path = before ++ t :: after ∧
    ∀ u ∈ after, u ∈ declaredNames e) ∨
  ((∀ u ∈ Path.tokenNames e.path, u ∈ declaredNames e) ∧ (declaredNames e).getLast? = some t)

theorem getLast_undeclared_iff (names declared : List String) :
    (names.filter (· ∉ declared)).getLast? = some t ↔ t ∉ declared ∧
      ∃ before after, names = before ++ t :: after ∧ ∀ u ∈ after, u ∈ declared := by
  rw [List.getLast?_eq_some_iff]
  constructor
  · rintro ⟨kept, split⟩
    obtain ⟨first, rest, rfl, -, last⟩ := List.filter_eq_append_iff.mp split
    obtain ⟨skipped, after, rfl, -, undeclared, dropped⟩ := List.filter_eq_cons_iff.mp last
    refine ⟨of_decide_eq_true undeclared, first ++ skipped, after, by simp, fun u member => ?_⟩
    simpa using List.filter_eq_nil_iff.mp dropped u member
  · rintro ⟨undeclared, before, after, rfl, declares⟩
    have dropped : after.filter (· ∉ declared) = [] :=
      List.filter_eq_nil_iff.mpr fun u member => by simpa using declares u member
    refine ⟨before.filter (· ∉ declared), ?_⟩
    rw [List.filter_append, List.filter_cons_of_pos (by simpa using undeclared), dropped]

theorem getLast_pathParams_iff :
    ((pathParams e).map (·.param.name)).getLast? = some t ↔ StaysLast e t := by
  rw [pathParams_names, List.getLast?_append, StaysLast, ← getLast_undeclared_iff]
  -- what is inferred stands behind what is declared, and hides it unless there is nothing of it
  cases inferred : (Path.tokenNames e.path).filter (· ∉ declaredNames e) with
  | nil =>
    have all : ∀ u ∈ Path.tokenNames e.path, u ∈ declaredNames e := by
      intro u member
      simpa using List.filter_eq_nil_iff.mp inferred u member
    rw [List.getLast?_nil, Option.none_or]
    exact ⟨fun last => .inr ⟨all, last⟩, fun stays => (stays.resolve_left nofun).2⟩
  | cons u us =>
    have undeclared : u ∈ (Path.tokenNames e.path).filter (· ∉ declaredNames e) := by
      rw [inferred]
      exact List.mem_cons_self
    obtain ⟨token, absent⟩ := List.mem_filter.mp undeclared
    obtain ⟨last, found⟩ := Option.isSome_iff_exists.mp
      (List.getLast?_isSome.mpr (List.cons_ne_nil u us))
    rw [found, Option.some_or]
    exact ⟨.inl, fun stays => stays.resolve_right fun all =>
      of_decide_eq_true absent (all.1 u token)⟩

/-- Where nothing is declared and no token is repeated, the last token stays last. -/
theorem staysLast_of_undeclared (none : e.pathParams = [])
    (once : (Path.allTokens e.path).Nodup) (last : (Path.allTokens e.path).getLast? = some t) :
    StaysLast e t := by
  have undeclared : declaredNames e = [] := by simp [declaredNames, none]
  obtain ⟨before, split⟩ := List.getLast?_eq_some_iff.mp last
  refine .inl ⟨by simp [undeclared], before, [], ?_, fun u member => absurd member List.not_mem_nil⟩
  rw [← split]
  exact Path.eraseDups_of_nodup once

theorem recordParam_eq (r : Route) :
    Handler.recordParam r = if "id" ∈ r.pathParams.map (·.param.name) then some "id"
      else (r.pathParams.map (·.param.name)).getLast? := by
  rw [Handler.recordParam]
  by_cases named : "id" ∈ r.pathParams.map (·.param.name)
  · obtain ⟨name, first⟩ : ∃ name,
        (r.pathParams.map (·.param.name)).find? (· == "id") = some name :=
      Option.isSome_iff_exists.mp (List.find?_isSome.mpr ⟨"id", named, beq_self_eq_true _⟩)
    have same : name = "id" := eq_of_beq (List.find?_some (p := (· == "id")) first)
    rw [first, if_pos named, same]
    rfl
  · have missing : (r.pathParams.map (·.param.name)).find? (· == "id") = none := by
      refine List.find?_eq_none.mpr fun name member same => named ?_
      obtain rfl : name = "id" := by simpa using same
      exact member
    rw [missing, if_neg named]
    rfl

/-- The parameter that addresses a record is a token of the template. -/
theorem token_of_recordParam {p : Project} {e : String × Endpoint} {param : String}
    (given : Handler.recordParam (p.routeOf e) = some param) :
    param ∈ Path.tokenNames e.2.path := by
  rw [← mem_pathParams_iff]
  rw [recordParam_eq] at given
  split at given
  · rename_i named
    obtain rfl := Option.some.inj given
    exact named
  · exact List.mem_of_getLast? given

end Resolve

def DataOperation.recordMethod? : DataOperation → Option String
  | read => some "findById"
  | update => some "update"
  | delete => some "remove"
  | _ => none

namespace Project

open Source

variable {p : Project} {r : Route} {q : Query}

/-- A handler for an operation on a record makes one call, on the repository of its model. -/
theorem exists_recordCall (works : (p.registrationOf r).handler ≠ .stub) (asks : r.query = some q)
    (record : q.operation ∈ recordOperations) :
    ∃ m ∈ namedModels p, ∃ method param, m.model.name = q.model ∧
      q.operation.recordMethod? = some method ∧ Handler.recordParam r = some param ∧
      recordCalls ((p.registrationOf r).handler.lines r) =
        [⟨m.names.repository, method, .fitting param⟩] := by
  obtain ⟨q', m, action, query, present, name, possible, runs⟩ :=
    Handler.exists_action_of_plan works
  obtain rfl : q' = q := Option.some.inj (query.symm.trans asks)
  obtain ⟨param, takes, given⟩ := Handler.param_of_action possible record
  have method : q'.operation.recordMethod? = some action.method := by
    rw [← Handler.operation_of_action possible]
    cases action <;> first | rfl | cases takes
  refine ⟨m, present, action.method, param, name, method, given, ?_⟩
  have handler : (p.registrationOf r).handler =
      .run m.names m.model.name action r.successStatus := runs
  rw [handler, Handler.recordCalls_lines (repository_plain present), Handler.called?, takes]
  rfl

/-- The handler of a kept route for an operation on a record makes one call, which reads one
parameter of the request. The parameter is a token of a segment of the path under which the route
is registered, and it is read behind a dot exactly if it is an identifier. -/
theorem params_provided (p : Project) :
    ∀ r ∈ keptRoutes (Resolve.routes p), (p.registrationOf r).handler ≠ .stub →
      ∀ q, r.query = some q → q.operation ∈ recordOperations →
        p.RegistersBehind r (Middleware.chain r) ∧
          ∃ call, recordCalls ((p.registrationOf r).handler.lines r) = [call] ∧
            (∃ s ∈ Path.segments r.path, ∃ t, Path.token? s = some t ∧ t.name = call.access.name) ∧
            (call.access = .member call.access.name ↔
              Text.isPlainIdent call.access.name.toList = true) := by
  intro r kept works q asks record
  obtain ⟨m, -, method, param, -, -, given, calls⟩ := exists_recordCall works asks record
  obtain ⟨e, -, rfl⟩ := endpoint_of_kept kept
  refine ⟨registersBehind_chain kept, _, calls, ?_, ?_⟩
  · obtain ⟨s, segment, t, spelled, name⟩ :=
      Path.exists_token_underBase p.settings.basePath (Resolve.token_of_recordParam given)
    exact ⟨s, segment, t, spelled, name.trans (ParamAccess.fitting_name param).symm⟩
  · show ParamAccess.fitting param = _ ↔ _
    rw [ParamAccess.fitting_name]
    exact ParamAccess.fitting_eq_member_iff param

def numberedItem : Project where
  nodes :=
    [{ id := "item", content := .endpoint { path := "items/:2nd.json" } },
     { id := "one", content := .database { operation := .read, model := "Item" } }]
  edges := [{ id := "reads", source := "item", target := "one" }]
  models := [{ name := "Item", fields := [{ name := "id", type := .string, isId := true }] }]
  settings := { basePath := "/api/:tenant/" }

/-- A parameter that is no identifier is read from brackets, behind a base path with a token. -/
theorem numberedItem_read :
    let r := numberedItem.routeOf ("item", { path := "items/:2nd.json" })
    r ∈ keptRoutes (Resolve.routes numberedItem) ∧ r.path = "/api/:tenant/items/:2nd.json" ∧
      recordCalls ((numberedItem.registrationOf r).handler.lines r) =
        [⟨"itemRepository", "findById", .index "2nd"⟩] ∧
      ∃ s ∈ Path.segments r.path, ∃ t, Path.token? s = some t ∧ t.name = "2nd" := by
  intro r
  have kept : r ∈ keptRoutes (Resolve.routes numberedItem) := by decide +kernel
  have calls : recordCalls ((numberedItem.registrationOf r).handler.lines r) =
      [⟨"itemRepository", "findById", .index "2nd"⟩] := by decide +kernel
  obtain ⟨-, call, made, provided, -⟩ := params_provided numberedItem r kept (by decide +kernel) _
    (rfl : r.query = some (Resolve.query { operation := .read, model := "Item" })) (by decide)
  obtain rfl : ⟨"itemRepository", "findById", .index "2nd"⟩ = call :=
    (List.cons.inj (calls.symm.trans made)).1
  exact ⟨kept, by decide +kernel, calls, provided⟩

/-- The handler of a kept route for an operation on a record reads the token `id` of the template
where there is one. Otherwise it reads the last token exactly if what is declared leaves it the last
parameter, as it does where nothing is declared and no token repeated. -/
theorem record_addressed_iff (p : Project) :
    ∀ e ∈ p.endpoints, p.routeOf e ∈ keptRoutes (Resolve.routes p) →
      (p.registrationOf (p.routeOf e)).handler ≠ .stub →
      ∀ q, (p.routeOf e).query = some q → q.operation ∈ recordOperations →
        let tokens := Path.allTokens e.2.path
        p.RegistersBehind (p.routeOf e) (Middleware.chain (p.routeOf e)) ∧
          ∃ call, recordCalls ((p.registrationOf (p.routeOf e)).handler.lines (p.routeOf e)) =
              [call] ∧
            q.operation.recordMethod? = some call.method ∧
            ("id" ∈ tokens → call.access.name = "id") ∧
            ("id" ∉ tokens → ∃ last, tokens.getLast? = some last ∧
              (call.access.name = last ↔ Resolve.StaysLast e.2 last) ∧
              (e.2.pathParams = [] → tokens.Nodup → call.access.name = last)) := by
  intro e _ kept works q asks record tokens
  obtain ⟨m, -, method, param, -, calls, given, lines⟩ := exists_recordCall works asks record
  have token := Resolve.token_of_recordParam given
  rw [Resolve.recordParam_eq] at given
  have listed : "id" ∈ (p.routeOf e).pathParams.map (·.param.name) ↔ "id" ∈ tokens :=
    Resolve.mem_pathParams_iff.trans Path.mem_allTokens_iff.symm
  refine ⟨registersBehind_chain kept, _, lines, calls, ?_, ?_⟩
  · intro named
    rw [if_pos (listed.mpr named)] at given
    exact (ParamAccess.fitting_name param).trans (Option.some.inj given).symm
  · intro unnamed
    rw [if_neg (fun named => unnamed (listed.mp named))] at given
    -- there is a token, since the handler has found a parameter
    obtain ⟨last, ends⟩ := Option.isSome_iff_exists.mp (List.getLast?_isSome.mpr
      (List.ne_nil_of_mem (Path.mem_allTokens_iff.mpr token)))
    have last_eq : ((Resolve.pathParams e.2).map (·.param.name)).getLast? = some param := given
    have same : (ParamAccess.fitting param).name = last ↔ Resolve.StaysLast e.2 last := by
      rw [ParamAccess.fitting_name, ← Resolve.getLast_pathParams_iff, last_eq, Option.some.injEq]
    exact ⟨last, ends, same, fun none once =>
      same.mpr (Resolve.staysLast_of_undeclared none once ends)⟩

/-- Two operations on one record. The first one declares what the path ends in. -/
def userPosts : Project where
  nodes :=
    [{ id := "show", content := .endpoint
        { path := "/users/:user/posts/:post", pathParams := [{ name := "post" }] } },
     { id := "remove", content := .endpoint
        { method := .delete, path := "/users/:user/posts/:post" } },
     { id := "shown", content := .database { operation := .read, model := "Post" } },
     { id := "removed", content := .database { operation := .delete, model := "Post" } }]
  edges :=
    [{ id := "reads", source := "show", target := "shown" },
     { id := "deletes", source := "remove", target := "removed" }]
  models := [{ name := "Post", fields := [{ name := "id", type := .string, isId := true }] }]

/-- The token that is declared is not the one that is read, and nothing warns of it. -/
theorem userPosts_misread :
    let shown := userPosts.routeOf
      ("show", { path := "/users/:user/posts/:post", pathParams := [{ name := "post" }] })
    let removed := userPosts.routeOf
      ("remove", { method := .delete, path := "/users/:user/posts/:post" })
    userPosts.compile.warnings = [] ∧ shown.path = removed.path ∧
      (∃ call, recordCalls ((userPosts.registrationOf shown).handler.lines shown) = [call] ∧
        call.method = "findById" ∧ call.access.name ≠ "post") ∧
      ∃ call, recordCalls ((userPosts.registrationOf removed).handler.lines removed) = [call] ∧
        call.method = "remove" ∧ call.access.name = "post" := by
  intro shown removed
  refine ⟨by decide +kernel, rfl, ?_, ?_⟩
  · obtain ⟨-, call, made, method, -, unnamed⟩ := record_addressed_iff userPosts _ (by decide)
      (by decide +kernel : shown ∈ _) (by decide +kernel) _
      (rfl : shown.query = some (Resolve.query { operation := .read, model := "Post" })) (by decide)
    obtain ⟨last, ends, same, -⟩ := unnamed (by decide)
    obtain rfl : "post" = last := Option.some.inj ends
    refine ⟨call, made, (Option.some.inj method).symm, fun reads => ?_⟩
    rcases same.mp reads with ⟨undeclared, -⟩ | ⟨all, -⟩
    · exact undeclared (by decide)
    · exact absurd (all "user" (by decide)) (by decide)
  · obtain ⟨-, call, made, method, -, unnamed⟩ := record_addressed_iff userPosts _ (by decide)
      (by decide +kernel : removed ∈ _) (by decide +kernel) _
      (rfl : removed.query = some (Resolve.query { operation := .delete, model := "Post" }))
      (by decide)
    obtain ⟨last, ends, -, stays⟩ := unnamed (by decide)
    obtain rfl : "post" = last := Option.some.inj ends
    exact ⟨call, made, (Option.some.inj method).symm, stays rfl (by decide)⟩

end Project

end ApiGraph
