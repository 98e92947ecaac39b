import ApiGraph.Proofs.Project.Change

/-!
# Cosmetic changes

The ids of nodes end with the routes: neither the document nor a file shows them
(`assemble_renamed`, `files_renamed`). So changes of the drawing leave the output of a compilation
as it is (`output_of_changes`).
-/

namespace ApiGraph

variable (f : String → String) (p : Project) (routes : List Route)

theorem keptRoutes_renamed :
    keptRoutes (routes.map (·.renamed f)) = (keptRoutes routes).map (·.renamed f) :=
  firstsBy_map _ Route.operationKey routes

namespace OpenApi

theorem operationIds_renamed (taken : List String) (routes : List Route) :
    operationIds taken (routes.map (·.renamed f)) = operationIds taken routes := by
  induction routes generalizing taken with
  | nil => rfl
  | cons r rs ih =>
    rw [List.map_cons, operationIds, operationIds, ih]
    rfl

namespace Document

theorem documented_renamed :
    documented (routes.map (·.renamed f)) = (documented routes).map (·.renamed f) :=
  firstsBy_map _ entryKey routes

theorem operations_renamed : operations p (routes.map (·.renamed f)) = operations p routes := by
  rw [operations, operations, documented_renamed, operationIds_renamed, List.zip_map_left,
    List.map_map]
  rfl

theorem assemble_renamed : assemble p (routes.map (·.renamed f)) = assemble p routes := by
  have tags : ((documented routes).map (·.renamed f)).flatMap (·.tags) =
      (documented routes).flatMap (·.tags) := List.flatMap_map ..
  rw [assemble, assemble, operations_renamed, documented_renamed, tags]

theorem assemble_face : assemble p.face routes = assemble p routes := rfl

end Document

end OpenApi

namespace Backend

namespace Guide

theorem environment_renamed : environment p (routes.map (·.renamed f)) = environment p routes := by
  rw [environment, environment, schemesInUse, schemesInUse, List.filterMap_map]
  rfl

theorem page_renamed : page p (routes.map (·.renamed f)) = page p routes := by
  have table : routeTable (routes.map (·.renamed f)) = routeTable routes := by
    rw [routeTable, routeTable, List.isEmpty_map, List.map_map]
    rfl
  rw [page, page, table]

end Guide

def Registration.renamed (g : Registration) : Registration := { g with route := g.route.renamed f }

theorem registrations_renamed (engine : Engine) (models : List NamedModel) :
    registrations engine models (routes.map (·.renamed f)) =
      (registrations engine models routes).map (·.renamed f) := by
  rw [registrations, registrations, keptRoutes_renamed, List.map_map, List.map_map]
  rfl

namespace Router

theorem imports_renamed (gs : List Registration) :
    imports (gs.map (·.renamed f)) = imports gs := by
  have called : repositories (gs.map (·.renamed f)) = repositories gs := by
    rw [repositories, repositories, List.filterMap_map]
    rfl
  simp only [imports, called, List.map_map, List.any_map]
  rfl

theorem toModule_renamed (name : String) (exported : Bool) (gs : List Registration) :
    (Router.mk name exported (gs.map (·.renamed f))).toModule =
      (Router.mk name exported gs).toModule := by
  simp only [toModule, items, imports_renamed, List.flatMap_map]
  rfl

theorem groups_renamed (gs : List Registration) :
    groups (gs.map (·.renamed f)) = (groups gs).map fun g => (g.1, g.2.map (·.renamed f)) :=
  groupBy_map _ stemOf gs

theorem files_renamed (layout : Layout) (gs : List Registration) :
    files layout (gs.map (·.renamed f)) = files layout gs := by
  cases layout with
  | minimal => simp [files, ofLayout, toModule_renamed]
  | rest =>
    simp [files, ofLayout, groups_renamed, List.zip_map', toModule_renamed, Function.comp_def]

end Router

theorem files_renamed (document : OpenApi.Document) :
    files p (routes.map (·.renamed f)) document = files p routes document := by
  have scaffolded : scaffold p (routes.map (·.renamed f)) document =
      scaffold p routes document := by
    simp only [scaffold, Guide.environment_renamed, Guide.page_renamed, Package.ofProject,
      List.any_map]
    rfl
  have supported : supportFiles p.settings.engine (routes.map (·.renamed f)) =
      supportFiles p.settings.engine routes := by
    simp only [supportFiles, List.any_map]
    rfl
  simp only [files, scaffolded, supported, registrations_renamed, Router.files_renamed]

theorem files_face (document : OpenApi.Document) :
    files p.face routes document = files p routes document := rfl

end Backend

namespace Alike

variable {f : String → String} {p q : Project}

theorem compile (alike : Alike f p q) :
    q.compile.document = p.compile.document ∧ q.compile.files = p.compile.files := by
  have document : q.compile.document = p.compile.document := by
    show OpenApi.Document.assemble q (Resolve.routes q) = _
    rw [alike.routes, OpenApi.Document.assemble_renamed, ← OpenApi.Document.assemble_face,
      alike.face]
    rfl
  refine ⟨document, ?_⟩
  show Backend.files q (Resolve.routes q) q.compile.document = _
  rw [document, alike.routes, Backend.files_renamed, ← Backend.files_face, alike.face]
  rfl

theorem withOverrides (alike : Alike f p q) (o : Overrides) :
    Alike f (p.withOverrides o) (q.withOverrides o) where
  face := by
    have given : ∀ r : Project, (r.withOverrides o).face = r.face.withOverrides o := fun _ => rfl
    rw [given, given, alike.face]
  cast := alike.cast
  wires := alike.wires

end Alike

namespace Project

/-- What a project shows to its editor only does not reach its output: after any run of changes of
the drawing, with any settings given for the compilation, the document and the files are the same,
and the routes are the same but for the ids of their nodes. -/
theorem output_of_changes {f : String → String} {p q : Project} (changes : Changes f p q)
    (o : Overrides) :
    (q.compileWith o).document = (p.compileWith o).document ∧
      (q.compileWith o).files = (p.compileWith o).files ∧
      (q.compileWith o).routes = (p.compileWith o).routes.map (·.renamed f) ∧
      Resolve.routes q = (Resolve.routes p).map (·.renamed f) := by
  have alike := changes.alike
  obtain ⟨document, files⟩ := (alike.withOverrides o).compile
  exact ⟨document, files, (alike.withOverrides o).routes, alike.routes⟩

/-- An endpoint that lists a model, with a response node beside it. -/
def drawing : Project where
  nodes :=
    [{ id := "items", content := .endpoint { path := "/items" } },
     { id := "shape", content := .response {} },
     { id := "store", content := .database { operation := .list, model := "Item" } }]
  edges := [{ id := "read", source := "items", target := "store" }]
  models := [{ name := "Item", fields := [{ name := "id", type := .string, isId := true }] }]

/-- The same, drawn anew: the edge leads the other way, another one leads nowhere, the response node
is gone and every id has changed. -/
def redrawing : Project where
  id := "copy"
  nodes :=
    [{ id := "new-items", content := .endpoint { path := "/items" } },
     { id := "new-store", content := .database { operation := .list, model := "Item" } }]
  edges :=
    [{ id := "read", source := "new-store", target := "new-items" },
     { id := "loose", source := "new-items", target := "new-nothing" }]
  models := [{ name := "Item", fields := [{ name := "id", type := .string, isId := true }] }]

theorem output_of_redrawing :
    Changes ("new-" ++ ·) drawing redrawing ∧ redrawing ≠ drawing ∧
      (redrawing.compileWith {}).document = (drawing.compileWith {}).document ∧
      (redrawing.compileWith {}).files = (drawing.compileWith {}).files ∧
      (Resolve.routes redrawing).map (·.node) = ["new-items"] := by
  have changes : Changes ("new-" ++ ·) drawing redrawing := by
    refine .step (.step (.step (.step (.step (.none _) (.label "copy" none none none))
      (.reverse [] rfl)) (.removeNode [_] rfl rfl))
      (.addEdge [_] [] ⟨"loose", "items", "nothing", none, none⟩ rfl ?_)) (.rename ?_)
    · rintro ⟨a, b, -, ⟨n, present, rfl, support⟩, joined⟩
      simp at present
      simp [Graph.Joins] at joined
      rcases present with rfl | rfl <;> simp_all [NodeContent.database?, NodeContent.auth?]
    · intro a _ b _ same
      simpa using same
  obtain ⟨document, files, -, routes⟩ := output_of_changes changes {}
  refine ⟨changes, by decide, document, files, ?_⟩
  rw [routes]
  rfl

end Project

end ApiGraph
