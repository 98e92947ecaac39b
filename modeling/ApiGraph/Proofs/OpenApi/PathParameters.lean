import ApiGraph.Proofs.Exposure
import ApiGraph.Proofs.Path

/-!
# Path parameters

The path parameters of an operation are the tokens of its template. They are the placeholders of its
path key, each once, where nothing is declared twice and nothing else in the path makes a
placeholder (`pathNames_of_entry`).
-/

namespace ApiGraph

namespace Resolve

variable {e : Endpoint} {n : String}

/-- The names that are declared and that the template has. -/
def declaredNames (e : Endpoint) : List String :=
  (e.pathParams.map (·.name)).filter (· ∈ Path.tokenNames e.path)

theorem pathParams_names (e : Endpoint) :
    (pathParams e).map (·.param.name) =
      declaredNames e ++ (Path.tokenNames e.path).filter (· ∉ declaredNames e) := by
  rw [pathParams, List.map_append, List.map_map, List.map_map]
  have declared : (e.pathParams.filter (·.name ∈ Path.tokenNames e.path)).map
      (fun d => (PathParam.mk d false).param.name) = declaredNames e := by
    rw [declaredNames, List.filter_map]
    rfl
  have inferred : ((Path.tokenNames e.path).filter fun t => !e.pathParams.any (·.name == t)).map
      (fun t => (PathParam.mk (inferredParam t) true).param.name) =
        (Path.tokenNames e.path).filter (· ∉ declaredNames e) := by
    refine (List.map_id _).trans (List.filter_congr fun t token => ?_)
    have known : e.pathParams.any (·.name == t) = decide (t ∈ declaredNames e) := by
      rw [Bool.eq_iff_iff]
      simp [declaredNames, token]
    rw [known, decide_not]
  exact congrArg₂ (· ++ ·) declared inferred

theorem mem_pathParams_iff :
    n ∈ (pathParams e).map (·.param.name) ↔ n ∈ Path.tokenNames e.path := by
  rw [pathParams_names, List.mem_append, List.mem_filter, decide_eq_true_eq]
  have known : n ∈ declaredNames e → n ∈ Path.tokenNames e.path := fun declared =>
    of_decide_eq_true (List.mem_filter.mp declared).2
  tauto

theorem pathParams_nodup_iff :
    ((pathParams e).map (·.param.name)).Nodup ↔ (declaredNames e).Nodup := by
  rw [pathParams_names, List.nodup_append']
  refine ⟨And.left, fun distinct => ⟨distinct, (Path.tokenNames_nodup _).filter _, ?_⟩⟩
  intro n declared inferred
  exact of_decide_eq_true (List.mem_filter.mp inferred).2 declared

end Resolve

namespace OpenApi

def Operation.pathNames (o : Operation) : List String :=
  (o.parameters.filter (·.place = .path)).map (·.name)

theorem Operation.pathNames_ofRoute (p : Project) (r : Route) (id : String) :
    (ofRoute p r id).pathNames = r.pathParams.map (·.param.name) := by
  have kept : (r.pathParams.map fun q => Parameter.ofParam .path q.param).filter
      (·.place = .path) = r.pathParams.map fun q => .ofParam .path q.param :=
    List.filter_eq_self.mpr (by simp [Parameter.ofParam])
  have dropped : (r.queryParams.map (Parameter.ofParam .query)).filter (·.place = .path) = [] :=
    List.filter_eq_nil_iff.mpr (by simp [Parameter.ofParam])
  show (List.filter _ (_ ++ _)).map _ = _
  rw [List.filter_append, kept, dropped, List.append_nil, List.map_map]
  rfl

end OpenApi

namespace Project

theorem exists_documented {p : Project} {entry : (Method × String) × OpenApi.Operation}
    (member : entry ∈ p.compile.document.entries) :
    ∃ e, p.firstEndpoint? entry.1 = some e ∧ (p.routeOf e).operationKey = entry.1 ∧
      ∃ id, entry.2 = .ofRoute p (p.routeOf e) id := by
  have asked : entry.1 ∈ (Resolve.routes p).map Route.operationKey :=
    (OpenApi.Document.mem_operationKeys_iff p _ _).mp (List.mem_map_of_mem member)
  obtain ⟨e, first, same, kept⟩ := exists_firstEndpoint asked
  refine ⟨e, first, same, OpenApi.Document.entry_ofRoute kept ?_⟩
  rw [same]
  exact member

/-- The path parameters of an operation are the tokens of its template, each of which is a
placeholder of the path key. Nothing is wanting exactly if no name is declared twice, and the
tokens of the template cover the whole registered path, the base path and literal braces
included. -/
theorem pathNames_of_entry (p : Project) :
    ∀ entry ∈ p.compile.document.entries, ∃ e, p.firstEndpoint? entry.1 = some e ∧
      let tokens := Path.tokenNames e.2.path
      let names := entry.2.pathNames
      (∀ n, n ∈ names ↔ n ∈ tokens) ∧ (∀ n ∈ names, Path.IsPlaceholder entry.1.2 n) ∧
        (names.Nodup ∧ (∀ n, n ∈ names ↔ Path.IsPlaceholder entry.1.2 n) ↔
          (Resolve.declaredNames e.2).Nodup ∧
            ∀ s ∈ Path.segments (p.routeOf e).path, Path.Covered tokens s) := by
  intro entry member
  obtain ⟨e, first, key, id, documents⟩ := exists_documented member
  have path : Path.placeholders (p.routeOf e).path = entry.1.2 := congrArg (·.2) key
  have names : entry.2.pathNames = (Resolve.pathParams e.2).map (·.param.name) := by
    rw [documents, OpenApi.Operation.pathNames_ofRoute]
    rfl
  have listed : ∀ n, n ∈ entry.2.pathNames ↔ n ∈ Path.tokenNames e.2.path := fun n => by
    rw [names]
    exact Resolve.mem_pathParams_iff
  have held : ∀ n ∈ entry.2.pathNames, Path.IsPlaceholder entry.1.2 n := fun n named =>
    path ▸ Path.isPlaceholder_of_token ((listed n).mp named)
  refine ⟨e, first, listed, held, ?_⟩
  rw [names, Resolve.pathParams_nodup_iff, ← names]
  refine and_congr_right fun _ => ?_
  have covers := Path.covered_iff fun n => @Path.brace_free e.2.path n
  constructor
  · intro same s segment
    refine (covers s).mpr fun n begins => (listed n).mp ((same n).mpr ?_)
    exact path ▸ Path.isPlaceholder_placeholders_iff.mpr ⟨s, segment, begins⟩
  · intro covered n
    refine ⟨held n, fun placeholder => (listed n).mpr ?_⟩
    rw [← path, Path.isPlaceholder_placeholders_iff] at placeholder
    obtain ⟨s, segment, begins⟩ := placeholder
    exact (covers s).mp (covered s segment) n begins

def tenantOrders : Project where
  nodes :=
    [{ id := "orders", content := .endpoint { path := "/orders" } },
     { id := "order", content := .endpoint
        { path := "/api/:tenant/orders/:id",
          pathParams :=
            [{ name := "id", required := true }, { name := "id", required := true }] } }]
  settings := { basePath := "/api/:tenant" }

/-- A placeholder without a parameter, and a parameter that is there twice. -/
theorem tenantOrders_astray :
    (∃ o, ((.get, "/api/{tenant}/orders"), o) ∈ tenantOrders.compile.document.entries ∧
      o.pathNames = [] ∧ Path.IsPlaceholder "/api/{tenant}/orders" "tenant") ∧
    ∃ o, ((.get, "/api/{tenant}/orders/{id}"), o) ∈
        tenantOrders.compile.document.entries ∧ o.pathNames = ["id", "id", "tenant"] ∧
      ∀ n ∈ o.pathNames, Path.IsPlaceholder "/api/{tenant}/orders/{id}" n := by
  let exposed := fun e => ((tenantOrders.routeOf e).operationKey,
    (tenantOrders.routeOf e).pathParams.map (·.param.name))
  have kept : ∀ e ∈ tenantOrders.endpoints,
      tenantOrders.routeOf e ∈ keptRoutes (Resolve.routes tenantOrders) := by decide +kernel
  have documented : ∀ x ∈ tenantOrders.endpoints.map exposed,
      ∃ o, (x.1, o) ∈ tenantOrders.compile.document.entries ∧ o.pathNames = x.2 := by
    intro x member
    obtain ⟨e, present, rfl⟩ := List.mem_map.mp member
    obtain ⟨id, entry⟩ := OpenApi.Document.exists_entry (kept e present)
    exact ⟨_, entry, OpenApi.Operation.pathNames_ofRoute _ _ _⟩
  have both : tenantOrders.endpoints.map exposed =
      [((.get, "/api/\x7btenant\x7d/orders"), []),
       ((.get, "/api/\x7btenant\x7d/orders/\x7bid\x7d"), ["id", "id", "tenant"])] := by
    decide +kernel
  rw [both] at documented
  obtain ⟨first, here, none⟩ := documented _ List.mem_cons_self
  obtain ⟨second, there, names⟩ := documented _ (List.mem_cons_of_mem _ List.mem_cons_self)
  obtain ⟨e, -, -, held, -⟩ := pathNames_of_entry tenantOrders _ there
  exact ⟨⟨first, here, none, by decide⟩, second, there, names, held⟩

end Project

end ApiGraph
