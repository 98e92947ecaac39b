import ApiGraph.Proofs.Backend.Plans
import ApiGraph.Proofs.Dispatch
import ApiGraph.Proofs.Models

/-!
# Engines

What the storage engine of a project decides. The document and the interfaces are the same on every
engine. The routers are the same on all engines with tables, and also on the one with documents
unless a record of a model without a lookup field is asked for (`routers_shared_iff`).
-/

namespace ApiGraph

open Backend

theorem Model.lookupField_isSome_iff {m : Model} :
    m.lookupField.isSome ↔ ∃ f ∈ m.fields, f.isId = true ∨ f.name = "id" ∨ f.name = "_id" := by
  have either : m.lookupField = (m.fields.find? (·.isId)).or
      (m.fields.find? fun f => f.name == "id" || f.name == "_id") := Option.orElse_eq_or
  rw [either, Option.isSome_or, Bool.or_eq_true, List.find?_isSome, List.find?_isSome]
  simp only [Bool.or_eq_true, beq_iff_eq]
  rw [← exists_or]
  exact exists_congr fun f => and_or_left.symm

theorem Backend.recordKey_of_isSql {a b : Engine} (same : a.isSql = b.isSql) (m : Model) :
    recordKey a m = recordKey b m := by
  rw [recordKey, recordKey, same]

theorem Backend.recordKey_eq_none_iff {engine : Engine} {m : Model} :
    recordKey engine m = none ↔ engine.isSql = true ∧ m.lookupField = none := by
  cases found : m.lookupField <;> cases sql : engine.isSql <;> simp [recordKey, found, sql]

/-- The records that a route asks for can be looked up by a field of their model. -/
def Route.LooksUp (models : List NamedModel) (r : Route) : Prop :=
  ∀ q, r.query = some q → q.operation ∈ [.read, .update, .delete] → r.pathParams ≠ [] →
    ∀ m ∈ models, m.model.name = q.model →
      ∃ f ∈ m.model.fields, f.isId = true ∨ f.name = "id" ∨ f.name = "_id"

namespace Backend.Handler

variable {a b : Engine} {models : List NamedModel} {r : Route}

theorem plan_congr (same : ∀ q, r.query = some q → ∀ m ∈ models, m.model.name = q.model →
    action? a m.model r q = action? b m.model r q) : plan a models r = plan b models r := by
  unfold plan
  split
  · rfl
  · rename_i q named
    have query : r.query = some q := (Option.filter_eq_some_iff.mp named).1
    split
    · rfl
    · rename_i m found
      have name : m.model.name = q.model := by simpa using List.find?_some found
      rw [same q query m (List.mem_of_find?_eq_some found) name]

theorem addressed_congr {m : Model} (same : (recordKey a m).isSome = (recordKey b m).isSome) :
    addressed a m r = addressed b m r := by
  rw [addressed, addressed, same]

theorem action?_congr {m : Model} {q : Query}
    (same : q.operation ∈ [.read, .update, .delete] → addressed a m r = addressed b m r) :
    action? a m r q = action? b m r q := by
  unfold action?
  cases operation : q.operation with
  | list => rfl
  | create => rfl
  | read => rw [same (by simp [operation])]
  | update => rw [same (by simp [operation])]
  | delete => rw [same (by simp [operation])]

theorem plan_of_isSql (same : a.isSql = b.isSql) : plan a models r = plan b models r :=
  plan_congr fun _ _ m _ _ => action?_congr fun _ =>
    addressed_congr (congrArg _ (recordKey_of_isSql same m.model))

/-- A plan is the same on every engine where records are looked up by a field. -/
theorem plan_of_looksUp (keyed : r.LooksUp models) : plan a models r = plan b models r := by
  refine plan_congr fun q query m member name => action?_congr fun record => ?_
  by_cases addressable : r.pathParams = []
  · rw [addressed_eq_none_iff.mpr (.inl addressable), addressed_eq_none_iff.mpr (.inl addressable)]
  · have field := Model.lookupField_isSome_iff.mpr (keyed q query record addressable m member name)
    have key : ∀ e, (recordKey e m.model).isSome = true := by
      intro e
      rw [Option.isSome_iff_ne_none]
      intro none
      rw [(recordKey_eq_none_iff.mp none).2] at field
      cases field
    exact addressed_congr ((key a).trans (key b).symm)

theorem lines_run_ne {names : ModelNames} {model : String} {action : Action} {status : Nat} :
    (run names model action status).lines r ≠ stub.lines r := by
  intro same
  have first : "async (req, res, next) => \x7b" = "(_req, res) => \x7b" :=
    Option.some.inj (congrArg List.head? same)
  exact absurd first (by decide)

end Backend.Handler

namespace Backend

theorem indent_injective : Function.Injective indent :=
  List.map_injective_iff.mpr fun _ _ same => eq_of_prefixed same

theorem Registration.lines_inj {r : Route} {f g : Handler} {router : String}
    (same : Registration.lines router ⟨r, f⟩ = Registration.lines router ⟨r, g⟩) :
    f.lines r = g.lines r := by
  have inner := List.append_cancel_left (List.append_cancel_right same)
  exact List.append_cancel_left (indent_injective inner)

namespace Router

section

variable {routes : List Route} {f g : Route → Handler}

def withHandlers (f : Route → Handler) (routes : List Route) : List Registration :=
  routes.map fun r => ⟨r, f r⟩

theorem lines_of_toModule {name : String} {exported : Bool}
    (same : (Router.mk name exported (withHandlers f routes)).toModule =
      (Router.mk name exported (withHandlers g routes)).toModule) :
    ∀ r ∈ routes, (f r).lines r = (g r).lines r := by
  have codes := congrArg Source.Module.codes same
  rw [codes_toModule, codes_toModule, withHandlers, withHandlers, List.map_map, List.map_map] at codes
  intro r member
  exact Registration.lines_inj (List.map_inj_left.mp codes r member)

theorem groups_withHandlers :
    groups (withHandlers f routes) =
      (groupBy Route.resource routes).map fun k => (k.1, withHandlers f k.2) := groupBy_map _ _ _

theorem lines_of_files {layout : Layout}
    (same : files layout (withHandlers f routes) = files layout (withHandlers g routes)) :
    ∀ r ∈ routes, (f r).lines r = (g r).lines r := by
  cases layout with
  | minimal =>
    obtain ⟨file, -⟩ := List.cons.inj same
    injection file with _ content
    injection content with modules
    exact lines_of_toModule modules
  | rest =>
    -- the handlers do not decide on the groups, so both sides have the same ones
    simp only [files, ofLayout, List.zip_map', List.map_map, groups_withHandlers] at same
    have routers := (List.append_inj' same rfl).1
    intro r member
    obtain ⟨group, grouped, -, on⟩ := exists_group Route.resource member
    have file := List.map_inj_left.mp routers group grouped
    injection file with _ content
    injection content with modules
    exact lines_of_toModule modules r on

end

end Router

end Backend

namespace Backend

theorem filter_eq_nil_of_inFolder {folder : String} (files : List File)
    (elsewhere : inFolder folder (files.map (·.path)) = []) :
    (files.filter fun f => f.path.take 2 = ["src", folder]) = [] := by
  rw [inFolder, List.filter_map] at elsewhere
  exact List.map_eq_nil_iff.mp elsewhere

theorem inFolder_routerPaths (layout : Layout) (gs : List Registration) :
    ∀ path ∈ routerPaths layout gs, path.take 2 = ["src", "routes"] := by
  have index : ∀ path ∈ [["src", "routes", "index.ts"]], path.take 2 = ["src", "routes"] := by
    decide
  cases layout with
  | minimal => exact index
  | rest =>
    intro path member
    rcases List.mem_append.mp member with grouped | single
    · obtain ⟨g, -, rfl⟩ := List.mem_map.mp grouped
      rfl
    · exact index path single

end Backend

namespace Project

def filesIn (p : Project) (folder : String) : List File :=
  p.compile.files.filter fun f => f.path.take 2 = ["src", folder]

theorem filesIn_routes (p : Project) : p.filesIn "routes" = p.routerFiles := by
  let inRoutes : File → Bool := fun f => f.path.take 2 = ["src", "routes"]
  have around : (scaffold p (Resolve.routes p) p.compile.document).filter inRoutes = [] :=
    filter_eq_nil_of_inFolder _ (by rw [scaffold_paths]; rfl)
  have data : (dataFiles p (namedModels p)).filter inRoutes = [] :=
    filter_eq_nil_of_inFolder _ ((placed_data p _).none_in_folder (by decide) (by decide))
  have support : (supportFiles p.settings.engine (Resolve.routes p)).filter inRoutes = [] :=
    filter_eq_nil_of_inFolder _ ((placed_support _ _).none_in_folder (by decide) (by decide))
  have routers : p.routerFiles.filter inRoutes = p.routerFiles := by
    refine List.filter_eq_self.mpr fun f member => decide_eq_true ?_
    have path : f.path ∈ p.routerFiles.map (·.path) := List.mem_map_of_mem member
    rw [routerFiles, router_paths] at path
    exact inFolder_routerPaths _ _ f.path path
  show (scaffold p _ p.compile.document ++ dataFiles p _ ++ p.routerFiles ++
    supportFiles _ _).filter inRoutes = _
  rw [List.filter_append, List.filter_append, List.filter_append, around, data, support, routers,
    List.append_nil, List.nil_append, List.nil_append]

/-- The project on another storage engine. -/
def onEngine (p : Project) (engine : Engine) : Project := p.withOverrides { engine := some engine }

variable {p : Project} {a b : Engine}

theorem routerFiles_onEngine (p : Project) (a : Engine) :
    (p.onEngine a).routerFiles = Router.files p.settings.layout
      (Router.withHandlers (Handler.plan a (namedModels p)) (keptRoutes (Resolve.routes p))) := rfl

theorem document_onEngine (p : Project) (a : Engine) :
    (p.onEngine a).compile.document = p.compile.document := rfl

theorem interfaces_onEngine (p : Project) (a : Engine) :
    (p.onEngine a).moduleAt? ["src", "types", "models.ts"] =
      some (Interface.toModule ((namedModels p).map .ofModel)) :=
  moduleAt_of_mem (interface_mem (p.onEngine a) _ _)

theorem routerFiles_congr
    (same : ∀ r ∈ keptRoutes (Resolve.routes p),
      Handler.plan a (namedModels p) r = Handler.plan b (namedModels p) r) :
    (p.onEngine a).routerFiles = (p.onEngine b).routerFiles := by
  rw [routerFiles_onEngine, routerFiles_onEngine, Router.withHandlers, Router.withHandlers]
  exact congrArg _ (List.map_congr_left fun r kept => by rw [same r kept])

/-- A route that asks for a record of a model without a lookup field has a handler on the engine
with documents only. -/
theorem lines_ne_of_keyless {r : Route} (sql : a.isSql = true)
    (keyless : ¬ r.LooksUp (namedModels p)) :
    (Handler.plan a (namedModels p) r).lines r ≠
      (Handler.plan .mongodb (namedModels p) r).lines r := by
  simp only [Route.LooksUp, not_forall] at keyless
  obtain ⟨q, query, record, addressable, m, member, name, keyless⟩ := keyless
  have field : m.model.lookupField = none := by
    rw [← Option.not_isSome_iff_eq_none, Model.lookupField_isSome_iff]
    exact keyless
  obtain ⟨named, found⟩ := find_namedModels_of_mem member
  rw [name] at named found
  have stub : Handler.plan a (namedModels p) r = .stub :=
    (Handler.plan_eq_stub_iff query named found).mpr <|
      Handler.action?_eq_none_iff.mpr ⟨record, .inr (recordKey_eq_none_iff.mpr ⟨sql, field⟩)⟩
  cases works : Handler.plan .mongodb (namedModels p) r with
  | stub =>
    have impossible := (Handler.plan_eq_stub_iff query named found).mp works
    rcases (Handler.action?_eq_none_iff.mp impossible).2 with unaddressed | missing
    · exact absurd unaddressed addressable
    · exact absurd (recordKey_eq_none_iff.mp missing).1 (by decide)
  | run names model action status =>
    rw [stub]
    exact Handler.lines_run_ne.symm

/-- The engines share the document and the interfaces. Engines with tables share the routers, and
the engine with documents has the same routers exactly if all records that kept routes ask for can
be looked up by a field of their model. -/
theorem routers_shared_iff (p : Project) :
    (∀ a b, (p.onEngine a).compile.document = (p.onEngine b).compile.document) ∧
      (∃ types, ∀ a, (p.onEngine a).moduleAt? ["src", "types", "models.ts"] = some types) ∧
      (∀ a b, a.isSql = true → b.isSql = true →
        (p.onEngine a).filesIn "routes" = (p.onEngine b).filesIn "routes") ∧
      ∀ a, a.isSql = true →
        ((p.onEngine a).filesIn "routes" = (p.onEngine .mongodb).filesIn "routes" ↔
          ∀ r ∈ keptRoutes (Resolve.routes p), r.LooksUp (namedModels p)) := by
  simp only [filesIn_routes]
  refine ⟨fun a b => (document_onEngine p a).trans (document_onEngine p b).symm,
    ⟨_, interfaces_onEngine p⟩, fun a b left right => ?_, fun a sql => ?_⟩
  · exact routerFiles_congr fun r _ => Handler.plan_of_isSql (left.trans right.symm)
  · constructor
    · intro same r kept
      by_contra keyless
      rw [routerFiles_onEngine, routerFiles_onEngine] at same
      exact lines_ne_of_keyless sql keyless (Router.lines_of_files same r kept)
    · intro keyed
      exact routerFiles_congr fun r kept => Handler.plan_of_looksUp (keyed r kept)

def keylessRead : Project where
  nodes :=
    [{ id := "entry", content := .endpoint { path := "/logs/:id" } },
     { id := "log", content := .database { operation := .read, model := "Log" } }]
  edges := [{ id := "reads", source := "entry", target := "log" }]
  models := [{ name := "Log", fields := [{ name := "text", type := .string }] }]

/-- Routers that are not shared: a log has no field to look it up by. -/
theorem keylessRead_differs :
    (keylessRead.onEngine .sqlite).compile.document =
        (keylessRead.onEngine .mongodb).compile.document ∧
      (keylessRead.onEngine .sqlite).filesIn "routes" =
        (keylessRead.onEngine .mysql).filesIn "routes" ∧
      (keylessRead.onEngine .sqlite).filesIn "routes" ≠
        (keylessRead.onEngine .mongodb).filesIn "routes" := by
  obtain ⟨documents, -, tables, shared⟩ := routers_shared_iff keylessRead
  refine ⟨documents _ _, tables _ _ rfl rfl, fun same => ?_⟩
  let entry := keylessRead.routeOf ("entry", { path := "/logs/:id" })
  have kept : entry ∈ keptRoutes (Resolve.routes keylessRead) := by decide +kernel
  have keyed := (shared .sqlite rfl).mp same entry kept
  obtain ⟨f, field, lookup⟩ := keyed { operation := .read, model := "Log" } rfl (by decide)
    (by decide +kernel) _ List.mem_cons_self rfl
  obtain rfl := List.mem_singleton.mp field
  exact absurd lookup (by decide)

end Project

end ApiGraph
