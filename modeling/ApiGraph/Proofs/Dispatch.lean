import ApiGraph.Proofs.Backend.Serving
import ApiGraph.Proofs.Exposure

/-!
# Dispatch

A request is answered by the endpoint of the first registration that matches it (`answering`),
whatever it means to match. Both layouts serve the same registrations, a single router in node order
and routers per resource in groups. `layouts_answer` says when this makes no difference.
-/

namespace ApiGraph

open Backend

/-- The resource of a route, which names its router where every resource has one. -/
def Route.resource (r : Route) : String := Naming.kebabOr "default" r.primaryTag

def Route.registered (r : Route) : Method × String := (r.method, r.path)

namespace Project

def inLayout (p : Project) (layout : Layout) : Project :=
  { p with settings := { p.settings with layout } }

def resources (p : Project) : List String :=
  firsts ((keptRoutes (Resolve.routes p)).map Route.resource)

/-- The endpoint of the first registration that matches. -/
def answering (p : Project) (matched : Method × String → Bool) : Option (String × Endpoint) :=
  ((served p.compile.files).find? matched).bind fun r =>
    p.firstEndpoint? (r.1, Path.placeholders r.2)

theorem served_minimal (p : Project) :
    served (p.inLayout .minimal).compile.files =
      (keptRoutes (Resolve.routes p)).map Route.registered := by
  refine (served_files (p.inLayout .minimal) _ _).trans ?_
  show (Router.arranged .minimal _).map _ = _
  rw [Router.arranged_minimal, registrations_eq, List.map_map]
  rfl

theorem served_rest (p : Project) :
    served (p.inLayout .rest).compile.files =
      ((groupBy Route.resource (keptRoutes (Resolve.routes p))).flatMap (·.2)).map
        Route.registered := by
  refine (served_files (p.inLayout .rest) _ _).trans ?_
  show (Router.arranged .rest _).map _ = _
  rw [Router.arranged_rest, registrations_eq, Router.groups, groupBy_map, List.flatMap_map,
    List.map_flatMap, List.map_flatMap]
  refine List.flatMap_congr fun group _ => ?_
  rw [List.map_map]
  rfl

def endpointOf? (p : Project) (r : Route) : Option (String × Endpoint) :=
  p.firstEndpoint? r.operationKey

theorem exists_endpoint {p : Project} {r : Route} (kept : r ∈ keptRoutes (Resolve.routes p)) :
    ∃ e, p.endpointOf? r = some e ∧ p.routeOf e = r := by
  obtain ⟨e, found, same, keeps⟩ :=
    exists_firstEndpoint (List.mem_map_of_mem (mem_of_mem_firstsBy kept))
  exact ⟨e, found, eq_of_mem_firstsBy keeps kept same⟩

section

variable {p : Project} {found other : Option Route}

theorem endpoint_isSome (kept : ∀ r ∈ found, r ∈ keptRoutes (Resolve.routes p)) :
    (found.bind p.endpointOf?).isSome = found.isSome := by
  cases found with
  | none => rfl
  | some r =>
    obtain ⟨e, stems, -⟩ := exists_endpoint (kept r rfl)
    rw [Option.bind_some, stems]
    rfl

theorem endpoint_eq_iff (kept : ∀ r ∈ found, r ∈ keptRoutes (Resolve.routes p))
    (keeps : ∀ r ∈ other, r ∈ keptRoutes (Resolve.routes p)) :
    found.bind p.endpointOf? = other.bind p.endpointOf? ↔ found = other := by
  refine ⟨fun same => ?_, fun same => same ▸ rfl⟩
  have both : found.isSome = other.isSome := by
    rw [← endpoint_isSome kept, ← endpoint_isSome keeps, same]
  cases found with
  | none =>
    have missing : other.isNone := Option.isSome_eq_false_iff.mp both.symm
    exact (Option.isNone_iff_eq_none.mp missing).symm
  | some r =>
    obtain ⟨s, rfl⟩ := Option.isSome_iff_exists.mp both.symm
    obtain ⟨e, stems, rfl⟩ := exists_endpoint (kept r rfl)
    obtain ⟨e', stems', rfl⟩ := exists_endpoint (keeps s rfl)
    rw [Option.bind_some, Option.bind_some, stems, stems'] at same
    exact congrArg (Option.map p.routeOf) same

end

theorem answering_eq {p : Project} {layout : Layout} {routes : List Route}
    (order : served (p.inLayout layout).compile.files = routes.map Route.registered)
    (matched : Method × String → Bool) :
    (p.inLayout layout).answering matched =
      (routes.find? fun r => matched r.registered).bind p.endpointOf? := by
  rw [answering, order, List.find?_map, Option.bind_map]
  rfl

/-- Layouts only arrange: the registrations are tried by resource where each has a router, and in
the order of the endpoints else. So every request that one layout answers is answered by the other,
and by the same endpoint exactly when no registration that matches belongs to a resource used before
that of the first one. -/
theorem layouts_answer (p : Project) (matched : Method × String → Bool) :
    let kept := keptRoutes (Resolve.routes p)
    let single := (p.inLayout .minimal).answering matched
    let grouped := (p.inLayout .rest).answering matched
    served (p.inLayout .minimal).compile.files = kept.map Route.registered ∧
      served (p.inLayout .rest).compile.files =
        (p.resources.flatMap fun s => kept.filter (·.resource = s)).map Route.registered ∧
      grouped.isSome = single.isSome ∧
      (grouped = single ↔ ∀ e, single = some e →
        ∃ before after, p.resources = before ++ (p.routeOf e).resource :: after ∧
          ∀ r ∈ kept, matched r.registered = true → r.resource ∉ before) := by
  intro kept single grouped
  let asks := fun r : Route => matched r.registered
  let regrouped := (groupBy Route.resource kept).flatMap (·.2)
  have one : single = (kept.find? asks).bind p.endpointOf? := answering_eq p.served_minimal matched
  have parted : grouped = (regrouped.find? asks).bind p.endpointOf? :=
    answering_eq p.served_rest matched
  have inKept : ∀ r ∈ kept.find? asks, r ∈ kept := fun r => List.mem_of_find?_eq_some
  have inGroups : ∀ r ∈ regrouped.find? asks, r ∈ kept := fun r first =>
    (groupBy_perm Route.resource kept).mem_iff.mp (List.mem_of_find?_eq_some first)
  refine ⟨p.served_minimal, ?_, ?_, ?_⟩
  · rw [served_rest, groupBy, List.flatMap_map]
    rfl
  · rw [one, parted, endpoint_isSome inKept, endpoint_isSome inGroups, find_groupBy_isSome]
  · rw [one, parted, endpoint_eq_iff inGroups inKept]
    -- Grouping can only move a route of another resource before the first one that matches.
    cases first : kept.find? asks with
    | none =>
      have missed : (regrouped.find? asks).isSome = false := by
        rw [find_groupBy_isSome, first]
        rfl
      simpa using missed
    | some r =>
      obtain ⟨e, stems, rfl⟩ := exists_endpoint (inKept r first)
      rw [find_groupBy_iff first, Option.bind_some, stems]
      simp only [Option.some.injEq, forall_eq']
      rfl

def overlapping : Project where
  nodes :=
    [{ id := "users", content := .endpoint { path := "/users" } },
     { id := "anyone", content := .endpoint { path := "/:kind/me" } },
     { id := "me", content := .endpoint { path := "/users/me" } }]

/-- A layout decides who answers `/api/users/me`: users come before other kinds, but the own page of
a user comes after that of anyone. -/
theorem layouts_differ :
    let matched := fun r => decide (r ∈ [(Method.get, "/api/:kind/me"), (.get, "/api/users/me")])
    ((overlapping.inLayout .minimal).answering matched).map (·.1) = some "anyone" ∧
      ((overlapping.inLayout .rest).answering matched).map (·.1) = some "me" := by
  decide +kernel

end Project

end ApiGraph
