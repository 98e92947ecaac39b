import ApiGraph.Proofs.Exposure
import ApiGraph.Proofs.Path

/-!
# Repetitions

The document and the server leave out the same routes: those whose path key and method were used
before. Such a route need not have the path of the one that is kept, for a literal segment in braces
has the key of a token. `repetitions_left_out` says when it has another one, and so which registered
paths are missing.
-/

namespace ApiGraph

open Backend

/-- The routes that are left out, each with the one that is kept in its place. -/
def repeatedRoutes (routes : List Route) : List (Route × Route) :=
  repeatsBy Route.operationKey routes

section

variable {routes : List Route} {x : Route × Route}

theorem operationKey_of_repeated (repeated : x ∈ repeatedRoutes routes) :
    x.1.operationKey = x.2.operationKey := by
  obtain ⟨earlier, later, -, first⟩ := mem_repeatsBy_iff.mp repeated
  simpa using List.find?_some first

theorem kept_of_repeated (repeated : x ∈ repeatedRoutes routes) : x.1 ∈ keptRoutes routes := by
  obtain ⟨earlier, later, split, first⟩ := mem_repeatsBy_iff.mp repeated
  refine mem_firstsBy_iff.mpr ?_
  rw [split, List.find?_append, operationKey_of_repeated repeated, first]
  rfl

theorem path_eq_iff_of_repeated (repeated : x ∈ repeatedRoutes routes) :
    x.1.path = x.2.path ↔ ¬ Path.Confused x.1.path x.2.path :=
  Path.eq_iff_not_confused (congrArg (·.2) (operationKey_of_repeated repeated))

theorem kept_or_repeated {r : Route} (member : r ∈ routes) :
    r ∈ keptRoutes routes ∨ ∃ x ∈ repeatedRoutes routes, x.2 = r := by
  have parts := (firstsBy_append_repeatsBy Route.operationKey routes).mem_iff.mpr member
  rcases List.mem_append.mp parts with kept | repeated
  · exact .inl kept
  · exact .inr (List.mem_map.mp repeated)

end

namespace Project

theorem registered_routerFiles (p : Project) :
    (p.routerFiles.flatMap File.registered).Perm
      ((keptRoutes (Resolve.routes p)).map fun r => (r.method, r.path)) := by
  refine (Router.registered_files _ _).trans (List.Perm.of_eq ?_)
  rw [registrations_eq, List.map_map]
  rfl

/-- What the files register is missing exactly where the route that was kept is confused with it. -/
theorem not_registered_iff {p : Project} {r : Route} (member : r ∈ Resolve.routes p) :
    (r.method, r.path) ∉ p.routerFiles.flatMap File.registered ↔
      ∃ x ∈ repeatedRoutes (Resolve.routes p), x.2 = r ∧ Path.Confused x.1.path x.2.path := by
  rw [(registered_routerFiles p).mem_iff]
  constructor
  · intro missing
    have dropped : r ∉ keptRoutes (Resolve.routes p) := fun kept =>
      missing (List.mem_map.mpr ⟨r, kept, rfl⟩)
    obtain ⟨x, repeated, rfl⟩ := (kept_or_repeated member).resolve_left dropped
    have method : x.1.method = x.2.method := congrArg (·.1) (operationKey_of_repeated repeated)
    refine ⟨x, repeated, rfl, ?_⟩
    by_contra clear
    have path : x.1.path = x.2.path := (path_eq_iff_of_repeated repeated).mpr clear
    exact missing (List.mem_map.mpr ⟨x.1, kept_of_repeated repeated, by rw [method, path]⟩)
  · rintro ⟨x, repeated, rfl, confused⟩ registered
    obtain ⟨k, kept, same⟩ := List.mem_map.mp registered
    obtain ⟨method, path⟩ := Prod.mk.inj same
    have key : k.operationKey = x.1.operationKey := by
      rw [operationKey_of_repeated repeated, Route.operationKey, Route.operationKey,
        Route.documentPath, Route.documentPath, method, path]
    obtain rfl : k = x.1 := eq_of_mem_firstsBy kept (kept_of_repeated repeated) key
    exact (path_eq_iff_of_repeated repeated).mp path confused

/-- The document reports the routes that it leaves out, in their order, and the server leaves out
the same ones. Each of them comes after a route that is kept, of the same method; it has the same
path unless the two paths are confused, and exactly then its own path is not registered. -/
theorem repetitions_left_out (p : Project) :
    let routes := Resolve.routes p
    let registered := p.routerFiles.flatMap File.registered
    (OpenApi.Document.warnings p routes).filter OpenApi.Document.isDuplicate =
        (repeatedRoutes routes).map (fun x =>
          .duplicateOperation x.2.method x.2.documentPath x.1.node x.2.node) ∧
      (p.compile.document.operationKeys ++ (repeatedRoutes routes).map (·.2.operationKey)).Perm
        (routes.map (·.operationKey)) ∧
      (registered ++ (repeatedRoutes routes).map fun x => (x.2.method, x.2.path)).Perm
        (routes.map fun r => (r.method, r.path)) ∧
      (∀ x ∈ repeatedRoutes routes, x.1 ∈ keptRoutes routes ∧
        (∃ earlier later, routes = earlier ++ x.2 :: later ∧ x.1 ∈ earlier) ∧
        x.1.method = x.2.method ∧ (x.1.path = x.2.path ↔ ¬ Path.Confused x.1.path x.2.path)) ∧
      ∀ r ∈ routes, (r.method, r.path) ∉ registered ↔
        ∃ x ∈ repeatedRoutes routes, x.2 = r ∧ Path.Confused x.1.path x.2.path := by
  intro routes registered
  have parts := firstsBy_append_repeatsBy Route.operationKey routes
  refine ⟨OpenApi.Document.filter_warnings p routes, ?_, ?_, fun x repeated => ?_,
    fun r member => not_registered_iff member⟩
  · have keys := parts.map Route.operationKey
    rw [List.map_append, List.map_map] at keys
    exact ((OpenApi.Document.operationKeys_assemble p routes).append_right _).trans keys
  · have pairs := parts.map fun r => (r.method, r.path)
    rw [List.map_append, List.map_map] at pairs
    exact ((registered_routerFiles p).append_right _).trans pairs
  · obtain ⟨earlier, later, split, first⟩ := mem_repeatsBy_iff.mp repeated
    exact ⟨kept_of_repeated repeated, ⟨earlier, later, split, List.mem_of_find?_eq_some first⟩,
      congrArg (·.1) (operationKey_of_repeated repeated), path_eq_iff_of_repeated repeated⟩

def bracedUsers : Project where
  nodes :=
    [{ id := "braced", content := .endpoint { path := "/users/{id}" } },
     { id := "one", content := .endpoint { path := "/users/:id" } }]

/-- A route that is left out although no other one has its path. -/
theorem bracedUsers_missing :
    (OpenApi.Document.warnings bracedUsers (Resolve.routes bracedUsers)).filter
        OpenApi.Document.isDuplicate =
      [.duplicateOperation .get "/api/users/{id}" "braced" "one"] ∧
    (∃ r ∈ Resolve.routes bracedUsers, r.node = "one" ∧ r.path = "/api/users/:id" ∧
      (.get, "/api/users/:id") ∉ bracedUsers.routerFiles.flatMap File.registered) ∧
    ∀ r ∈ keptRoutes (Resolve.routes bracedUsers), r.path = "/api/users/{id}" := by
  let braced := bracedUsers.routeOf ("braced", { path := "/users/\x7bid\x7d" })
  let one := bracedUsers.routeOf ("one", { path := "/users/:id" })
  have repeated : repeatedRoutes (Resolve.routes bracedUsers) = [(braced, one)] := by decide +kernel
  have confused : Path.Confused braced.path one.path :=
    ⟨3, "{id}".toList, ":id".toList, by decide +kernel, by decide +kernel,
      .inl ⟨⟨"id", ""⟩, by decide +kernel, by decide +kernel⟩⟩
  obtain ⟨reported, -, -, -, missing⟩ := repetitions_left_out bracedUsers
  refine ⟨?_, ⟨one, by decide +kernel, rfl, by decide +kernel, ?_⟩, by decide +kernel⟩
  · rw [reported, repeated]
    decide +kernel
  · have path : (one.method, one.path) = (Method.get, "/api/users/:id") := by decide +kernel
    rw [← path]
    refine (missing one (by decide +kernel)).mpr ⟨(braced, one), ?_, rfl, confused⟩
    rw [repeated]
    exact List.mem_singleton_self _

end Project

end ApiGraph
