import ApiGraph.Proofs.Exposure
import ApiGraph.Proofs.Backend.RouterText

/-!
# The operations of documents and servers

The document and the texts of a server expose the same operations (`same_operations_exposed`), as
long as the comments above routes end with their lines: what stands behind the end of such a line
may register anything (`strayRegistration_undocumented`).
-/

namespace ApiGraph

open Backend Source

/-- The operations that the text of a file registers. -/
def Backend.File.exposedKeys (f : File) : List (Method × String) :=
  (registrationsIn f.lines).map fun r => (r.1, Path.placeholders r.2)

namespace Project

/-- Where the comments above routes end with their lines, the document and the texts of the server
expose the same operations: each is documented once and registered once, in one file, and stems from
the first endpoint with its method and path. The endpoints that are not documented are the ones that
are reported as repetitions. -/
theorem same_operations_exposed (p : Project)
    (closed : ∀ r ∈ keptRoutes (Resolve.routes p), Registration.Closes r) :
    let documented := p.compile.document.operationKeys
    let registered := p.routerFiles.flatMap File.exposedKeys
    (∀ key, key ∈ documented ↔ key ∈ registered) ∧ documented.Nodup ∧ registered.Nodup ∧
      (∀ key ∈ registered, ∃! f, f ∈ p.routerFiles ∧ key ∈ f.exposedKeys) ∧
      (∀ key ∈ documented, ∃ e, p.firstEndpoint? key = some e ∧
        (∃ id, (key, .ofRoute p (p.routeOf e) id) ∈ p.compile.document.entries) ∧
        ∃ f ∈ p.routerFiles, key ∈ f.exposedKeys ∧ ∃ router ∈ routersIn f.lines,
          (p.registrationOf (p.routeOf e)).lines router <:+: f.lines) ∧
      p.compile.document.operationCount +
          (OpenApi.Document.warnings p (Resolve.routes p)).countP OpenApi.Document.isDuplicate =
        p.endpoints.length := by
  intro documented registered
  have read : ∀ f ∈ p.routerFiles, f.exposedKeys = f.registeredKeys := fun f file => by
    rw [File.exposedKeys, registrationsIn_lines closed file, File.registeredKeys]
  have all : registered = p.routerFiles.flatMap File.registeredKeys := List.flatMap_congr read
  have asked : ∀ key, key ∈ documented ↔ key ∈ (Resolve.routes p).map Route.operationKey :=
    OpenApi.Document.mem_operationKeys_iff p _
  have served : ∀ key, key ∈ registered ↔ key ∈ (Resolve.routes p).map Route.operationKey := by
    intro key
    rw [all, (registeredKeys_routerFiles p).mem_iff, keptRoutes, mem_keys_firstsBy_iff]
  refine ⟨fun key => (asked key).trans (served key).symm,
    OpenApi.Document.operationKeys_nodup p _, all ▸ registeredKeys_nodup p, ?_, ?_, ?_⟩
  · intro key member
    obtain ⟨f, file, has⟩ := List.mem_flatMap.mp member
    refine ⟨f, ⟨file, has⟩, ?_⟩
    rintro g ⟨other, alsoHas⟩
    exact registering_file_unique other file (read g other ▸ alsoHas) (read f file ▸ has)
  · intro key member
    obtain ⟨e, first, rfl, kept⟩ := exists_firstEndpoint ((asked key).mp member)
    obtain ⟨f, file, listed, router, declared, lines⟩ := exists_text (p := p) closed kept
    exact ⟨e, first, OpenApi.Document.exists_entry kept, f, file,
      List.mem_map.mpr ⟨_, listed, rfl⟩, router, declared, lines⟩
  · rw [← p.endpoints.length_map p.routeOf]
    exact OpenApi.Document.operationCount_add_duplicates p _

def itemsAgain : Project where
  nodes :=
    [{ id := "items", content := .endpoint { path := "/items" } },
     { id := "again", content := .endpoint { path := "/api/items" } },
     { id := "one", content := .endpoint { path := "/items/:id" } }]

/-- Two endpoints with one operation: the first one has it, and the other one is reported. -/
theorem itemsAgain_exposed :
    let documented := itemsAgain.compile.document.operationKeys
    let registered := itemsAgain.routerFiles.flatMap File.exposedKeys
    let first := itemsAgain.routeOf ("items", { path := "/items" })
    (∀ r ∈ keptRoutes (Resolve.routes itemsAgain), Registration.Closes r) ∧
    (∀ key ∈ [(Method.get, "/api/items"), (.get, "/api/items/\x7bid\x7d")],
      key ∈ documented ∧ key ∈ registered) ∧
    (∃ id, ((.get, "/api/items"), .ofRoute itemsAgain first id) ∈
      itemsAgain.compile.document.entries) ∧
    (∃ f ∈ itemsAgain.routerFiles, ∃ router ∈ routersIn f.lines,
      (itemsAgain.registrationOf first).lines router <:+: f.lines) ∧
    itemsAgain.compile.document.operationCount = 2 := by
  intro documented registered first
  have closed : ∀ r ∈ keptRoutes (Resolve.routes itemsAgain), Registration.Closes r := by
    decide +kernel
  obtain ⟨same, -, -, -, stems, count⟩ := same_operations_exposed itemsAgain closed
  have served : ∀ key ∈ [(Method.get, "/api/items"), (.get, "/api/items/\x7bid\x7d")],
      key ∈ documented := by decide +kernel
  have both := fun key listed => And.intro (served key listed) ((same key).mp (served key listed))
  obtain ⟨e, found, entry, f, file, -, text⟩ := stems _ (both _ List.mem_cons_self).1
  have stem : itemsAgain.firstEndpoint? (.get, "/api/items") =
      some ("items", { path := "/items" }) := by decide +kernel
  obtain rfl := Option.some.inj (stem.symm.trans found)
  refine ⟨closed, both, entry, ⟨f, file, text⟩, ?_⟩
  have reported : (OpenApi.Document.warnings itemsAgain (Resolve.routes itemsAgain)).countP
      OpenApi.Document.isDuplicate = 1 := by decide +kernel
  have three : itemsAgain.endpoints.length = 3 := rfl
  rw [reported, three] at count
  exact Nat.add_right_cancel count

def strayRegistration : Project where
  nodes :=
    [{ id := "items", content := .endpoint
        { path := "/items\nitemsRouter.delete(\n  '/api/items',\n  (_req, res) => res.end());"
          summary := "", tags := ["Items"] } }]

/-- Where a path ends the line of its comment, the text may register what no document has. -/
theorem strayRegistration_undocumented :
    (∃ f ∈ strayRegistration.routerFiles, (.delete, "/api/items") ∈ f.exposedKeys) ∧
      (.delete, "/api/items") ∉ strayRegistration.compile.document.operationKeys := by
  refine ⟨?_, by decide +kernel⟩
  obtain ⟨g, registered, opened⟩ : ∃ g ∈ registrations strayRegistration.settings.engine
      (namedModels strayRegistration) (Resolve.routes strayRegistration),
      ["itemsRouter.delete(", "  '/api/items',"] <:+: linesOf (Registration.comment g.route) := by
    decide +kernel
  obtain ⟨r, present, on, path, file⟩ := Router.exists_router _ registered
  have named : r.Named := Router.named_of_mem present
  have router : r.name = "itemsRouter" := by
    have all : ∀ r ∈ Router.ofLayout strayRegistration.settings.layout
        (registrations strayRegistration.settings.engine (namedModels strayRegistration)
          (Resolve.routes strayRegistration)), r.name = "itemsRouter" := by decide +kernel
    exact all r present
  have declared := Router.declared_text named
  rw [router] at declared
  have listed : (.delete, "/api/items") ∈ registrationsIn (File.ofModule path r.toModule).lines := by
    rw [File.lines_source rfl]
    exact mem_registrationsIn declared (by decide +kernel : argument? "  '/api/items'," = _)
      (opened.trans (Router.infix_comment on))
  exact ⟨_, file, List.mem_map.mpr ⟨_, listed, by decide +kernel⟩⟩

end Project

end ApiGraph
