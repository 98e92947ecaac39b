import Mathlib.Data.List.Pairwise
import ApiGraph.Compiler
import ApiGraph.Proofs.Backend.Registrations
import ApiGraph.Proofs.OpenApi.Operations

namespace ApiGraph

open Backend

namespace Project

def routeOf (p : Project) (e : String × Endpoint) : Route :=
  Resolve.route p.settings.basePath e.1 e.2 (Resolve.surroundings p e.1)

def registrationOf (p : Project) (r : Route) : Registration :=
  ⟨r, .plan p.settings.engine (namedModels p) r⟩

def routerFiles (p : Project) : List File :=
  Router.files p.settings.layout
    (registrations p.settings.engine (namedModels p) (Resolve.routes p))

/-- The first endpoint, in node order, whose route has an operation key. -/
def firstEndpoint? (p : Project) (key : Method × String) : Option (String × Endpoint) :=
  p.endpoints.find? fun e => (p.routeOf e).operationKey = key

theorem routes_eq (p : Project) : Resolve.routes p = p.endpoints.map p.routeOf := rfl

theorem registrations_eq (p : Project) :
    registrations p.settings.engine (namedModels p) (Resolve.routes p) =
      (keptRoutes (Resolve.routes p)).map p.registrationOf := rfl

/-- The route that is kept under a key is that of the first endpoint with the key. -/
theorem exists_firstEndpoint {p : Project} {key : Method × String}
    (asked : key ∈ (Resolve.routes p).map Route.operationKey) :
    ∃ e, p.firstEndpoint? key = some e ∧ (p.routeOf e).operationKey = key ∧
      p.routeOf e ∈ keptRoutes (Resolve.routes p) := by
  rw [routes_eq, List.map_map] at asked
  obtain ⟨e, present, same⟩ := List.mem_map.mp asked
  obtain ⟨first, found⟩ : ∃ first, p.firstEndpoint? key = some first :=
    Option.isSome_iff_exists.mp (List.find?_isSome.mpr ⟨e, present, decide_eq_true same⟩)
  have has : (p.routeOf first).operationKey = key := by simpa using List.find?_some found
  refine ⟨first, found, has, mem_firstsBy_iff.mpr ?_⟩
  rw [routes_eq, List.find?_map]
  have search : ((fun r : Route => decide (r.operationKey = (p.routeOf first).operationKey)) ∘
      p.routeOf) = fun e => decide ((p.routeOf e).operationKey = key) := by
    rw [has]
    rfl
  rw [search, ← firstEndpoint?, found, Option.map_some]

theorem registeredKeys_routerFiles (p : Project) :
    (p.routerFiles.flatMap File.registeredKeys).Perm
      ((keptRoutes (Resolve.routes p)).map Route.operationKey) := by
  refine (Router.registeredKeys_files _ _).trans (List.Perm.of_eq ?_)
  rw [registrations_eq, List.map_map]
  rfl

theorem registeredKeys_nodup (p : Project) : (p.routerFiles.flatMap File.registeredKeys).Nodup :=
  (registeredKeys_routerFiles p).nodup_iff.mpr firstsBy_keys_nodup

/-- No two files register one operation. -/
theorem registering_file_unique {p : Project} {f g : File} {key : Method × String}
    (left : f ∈ p.routerFiles) (right : g ∈ p.routerFiles) (inLeft : key ∈ f.registeredKeys)
    (inRight : key ∈ g.registeredKeys) : f = g := by
  by_contra different
  have apart := (List.nodup_flatMap.mp (registeredKeys_nodup p)).2
  have symmetric : Std.Symm (Function.onFun List.Disjoint File.registeredKeys) :=
    ⟨fun _ _ disjoint _ inRight inLeft => disjoint inLeft inRight⟩
  exact apart.forall left right different inLeft inRight

theorem exists_lines {p : Project} {r : Route} (kept : r ∈ keptRoutes (Resolve.routes p)) :
    ∃ f ∈ p.routerFiles, r.operationKey ∈ f.registeredKeys ∧ ∃ m, f.content = .source m ∧
      ∃ router ∈ m.routers, .code ((p.registrationOf r).lines router) ∈ m.items :=
  Router.exists_registration (List.mem_map.mpr ⟨r, kept, rfl⟩)

end Project

end ApiGraph
