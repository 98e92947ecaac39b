import ApiGraph.Proofs.Engines
import ApiGraph.Proofs.Naming.Stems

/-!
# Names of routers

The index of the routes imports the router of every resource. Two of these routers have the same
name exactly if the stems of their modules differ in dashes before digits only
(`Project.router_bindings`).
-/

namespace ApiGraph

namespace Backend.Router

theorem isStem_of_mem {gs : List Registration} {stem : String}
    (member : stem ∈ (groups gs).map (·.1)) : Naming.IsStem stem := by
  rw [groups, groupBy_keys, mem_firsts_iff] at member
  obtain ⟨g, -, rfl⟩ := List.mem_map.mp member
  refine Naming.isStem_kebabOr ⟨by decide, ?_, ?_⟩ _
  · exact List.all_eq_true.mp (by decide)
  · simp

theorem nameOf_eq_iff {s t : String} (left : Naming.IsStem s) (right : Naming.IsStem t) :
    nameOf s = nameOf t ↔ Naming.joinDigits s.toList = Naming.joinDigits t.toList := by
  rw [nameOf, nameOf, String.append_left_inj, Naming.identifier_stem_eq_iff left right]

theorem nameOf_ne_router (stem : String) : nameOf stem ≠ "router" := fun same =>
  not_mem_of_suffix (by decide) _ (List.mem_singleton.mpr same)

/-- Routers have names of their own exactly if their stems differ in more than dashes before
digits. -/
theorem names_nodup_iff {stems : List String} (each : ∀ s ∈ stems, Naming.IsStem s) :
    (stems.map nameOf).Nodup ↔ (stems.map fun s => Naming.joinDigits s.toList).Nodup := by
  rw [List.nodup_iff_pairwise_ne, List.nodup_iff_pairwise_ne, List.pairwise_map, List.pairwise_map]
  exact List.Pairwise.iff_of_mem fun {s t} left right =>
    not_congr (nameOf_eq_iff (each s left) (each t right))

theorem bindings_index_eq (stems : List String) :
    (index stems).bindings = "Router" :: stems.map nameOf ++ ["router"] := by
  have imported : (index stems).imports.flatMap (·.clause.bindings) =
      "Router" :: stems.map nameOf := by
    show "Router" :: (stems.map importOf).flatMap (·.clause.bindings) = _
    rw [List.flatMap_map, List.map_eq_flatMap]
    rfl
  rw [Source.Module.bindings, imported]
  rfl

end Backend.Router

namespace Project

open Backend

theorem groups_resources (p : Project) :
    (Router.groups (registrations p.settings.engine (namedModels p) (Resolve.routes p))).map (·.1) =
      p.resources := by
  rw [Router.groups, groupBy_keys, registrations, List.map_map, resources]
  refine congrArg firsts (List.map_congr_left fun r _ => ?_)
  rw [Function.comp_apply, Router.stemOf, Route.resource]

/-- Where each resource has a router, the index imports one for each module of a router, under the
name that the module exports, and none of them is called like the other names of the index. They
have names of their own exactly if no two stems differ in dashes before digits only. -/
theorem router_bindings (p : Project) (rest : p.settings.layout = .rest) :
    let stems := p.resources
    stems.Nodup ∧
      (p.filesIn "routes").map (·.path) =
        stems.map (fun s => ["src", "routes", s ++ ".routes.ts"]) ++ [Router.indexPath] ∧
      (∀ s ∈ stems, ∃ m, p.moduleAt? ["src", "routes", s ++ ".routes.ts"] = some m ∧
        m.exports = [Router.nameOf s]) ∧
      (∃ m, p.moduleAt? Router.indexPath = some m ∧
        m.bindings = "Router" :: stems.map Router.nameOf ++ ["router"]) ∧
      (∀ s ∈ stems, Router.nameOf s ≠ "Router" ∧ Router.nameOf s ≠ "router") ∧
      (∀ s ∈ stems, ∀ t ∈ stems, Router.nameOf s = Router.nameOf t ↔
        Naming.joinDigits s.toList = Naming.joinDigits t.toList) ∧
      ((stems.map Router.nameOf).Nodup ↔
        (stems.map fun s => Naming.joinDigits s.toList).Nodup) := by
  intro stems
  have groups : (Router.groups (registrations p.settings.engine (namedModels p)
      (Resolve.routes p))).map (·.1) = stems := p.groups_resources
  have each : ∀ s ∈ stems, Naming.IsStem s := fun s member =>
    Router.isStem_of_mem (groups.symm ▸ member)
  refine ⟨firsts_nodup _, ?_, fun s member => ?_, ?_,
    fun s _ => ⟨Router.nameOf_ne_class s, Router.nameOf_ne_router s⟩,
    fun s left t right => Router.nameOf_eq_iff (each s left) (each t right),
    Router.names_nodup_iff each⟩
  · rw [filesIn_routes, routerFiles, router_paths, rest, ← groups, List.map_map]
    rfl
  · rw [← groups] at member
    obtain ⟨group, grouped, rfl⟩ := List.mem_map.mp member
    exact ⟨_, moduleAt_of_mem (router_mem p _ _ rest grouped), exports_router _⟩
  · refine ⟨_, moduleAt_of_mem (index_mem p _ _ rest), ?_⟩
    rw [groups, Router.bindings_index_eq]

def numberedTags : Project where
  nodes :=
    [{ id := "first", content := .endpoint { path := "/first", tags := ["Orders 2"] } },
     { id := "second", content := .endpoint { path := "/second", tags := ["Orders2"] } }]
  settings := { layout := .rest }

/-- An index that imports two routers under one name, and nothing warns of it. -/
theorem numberedTags_share :
    numberedTags.compile.warnings = [] ∧
      numberedTags.resources = ["orders-2", "orders2"] ∧
      ¬ (numberedTags.resources.map Router.nameOf).Nodup ∧
      ∃ m, numberedTags.moduleAt? Router.indexPath = some m ∧
        m.bindings = ["Router", "orders2Router", "orders2Router", "router"] := by
  obtain ⟨-, -, -, ⟨m, found, bindings⟩, -, -, distinct⟩ := router_bindings numberedTags rfl
  have stems : numberedTags.resources = ["orders-2", "orders2"] := by decide +kernel
  refine ⟨by decide +kernel, stems, ?_, m, found, ?_⟩
  · rw [distinct, stems]
    decide
  · rw [bindings, stems]
    decide +kernel

end Project

end ApiGraph
