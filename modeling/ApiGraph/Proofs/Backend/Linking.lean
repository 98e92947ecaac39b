import ApiGraph.Compiler
import ApiGraph.Proofs.Backend.Calls
import ApiGraph.Proofs.Backend.Dependencies
import ApiGraph.Proofs.Backend.Legible
import ApiGraph.Proofs.Backend.Registrations

/-!
# Linking

The texts of a backend link (`files_linked`): relative imports find what they ask for, packages are
dependencies, and route modules import what they use and call what repositories offer. That holds
as long as the comments above routes end with their lines: what stands behind the end of such a line
may import anything (`strayImport_unlinked`).
-/

namespace ApiGraph.Backend

open Text Source

namespace Source

/-- What the code of a text refers to; the names in its imports do not count. -/
def referencesIn (lines : List String) : List Reference :=
  (lines.filter fun line => (readImport? line).isNone).flatMap references

/-- An exported record of names, with the name that it is exported under. -/
def offer? (line : String) : Option (String × List String) := do
  let cs ← after? "export const " line.toList
  let (name, rest) ← word? cs
  let inner ← after? " = \x7b" rest
  let (members, behind) ← parts? word? '\x7d' inner.length inner
  if behind = [';'] then return (name, members) else none

def function? (line : String) : Option String := do
  let cs ← after? "async function " line.toList
  return (← word? cs).1

theorem references_generated : ∀ line ∈ generated, references line = [] :=
  List.forall_mem_singleton.mpr (if_pos (by decide +kernel))

theorem referencesIn_text {m : Module} (plain : m.Plain) :
    referencesIn (linesOf (unlines m.lines)) = m.references := by
  have imports : (m.imports.map (·.write)).filter (fun line => (readImport? line).isNone) = [] := by
    rw [List.filter_eq_nil_iff]
    refine List.forall_mem_map.mpr fun i member => ?_
    rw [readImport?_write (plain.imports i member)]
    exact Bool.false_ne_true
  have items : (m.items.flatMap (·.lines)).filter (fun line => (readImport? line).isNone) =
      m.items.flatMap (·.lines) := by
    refine List.filter_eq_self.mpr fun line member => ?_
    rw [(plain.code line member).2]
    rfl
  have header : (m.comment.filter fun line => (readImport? line).isNone).flatMap references = [] := by
    refine List.flatMap_eq_nil_iff.mpr fun line kept => references_generated line ?_
    exact plain.header ▸ List.mem_of_mem_filter kept
  have last : ([""].filter fun line => (readImport? line).isNone).flatMap references = [] := by decide
  rw [referencesIn, plain.lines, Module.lines, List.filter_append, List.filter_append,
    List.filter_append, List.flatMap_append, List.flatMap_append, List.flatMap_append, header, imports,
    items, last]
  exact List.append_nil _

theorem offer?_write {name : String} (named : IsName name) {members : List String}
    (each : ∀ member ∈ members, IsName member) :
    offer? ("export const " ++ name ++ " = " ++ inBraces members ++ ";") = some (name, members) := by
  have spelled : ∀ member ∈ members, Spelled (fun _ => word?) (id member).toList member :=
    fun member listed => spelled_word_name (each member listed)
  obtain ⟨inner, form, read⟩ := parts?_inBraces spelled [';']
  rw [List.map_id] at form
  have chars : ("export const " ++ name ++ " = " ++ inBraces members ++ ";").toList =
      "export const ".toList ++ (name.toList ++ (" = \x7b".toList ++ inner)) := by
    have opens : " = \x7b".toList ++ inner = " = ".toList ++ '\x7b' :: inner := rfl
    rw [opens, ← form]
    simp
  have stops : ∀ c ∈ (" = \x7b".toList ++ inner).head?, isIdentRest c = false := by
    rintro c ⟨⟩
    decide
  rw [offer?, chars, after?_append, Option.bind_eq_bind, Option.bind_some, word?_append named stops]
  simp only [after?_append, read, Option.bind_eq_bind, Option.bind_some, if_pos]
  rfl

theorem function?_first {d : Declaration} (legible : d.Legible)
    (keyword : d.keyword = "async function") (own : d.exported = false) :
    function? d.first = some d.name := by
  have chars : d.first.toList = "async function ".toList ++ (d.name.toList ++ d.rest.toList) := by
    simp [Declaration.first, own, keyword]
  rw [function?, chars, after?_append, Option.bind_eq_bind, Option.bind_some,
    word?_append legible.named legible.stops]
  rfl

end Source

/-- Whether a path is one of a file of TypeScript. -/
def isSource (path : List String) : Bool :=
  path.getLast?.any fun name => ".ts".toList.isSuffixOf name.toList

/-- An import finds a file whose text exports all that it asks for. -/
def Source.Import.Finds (files : List File) (importer : File) (i : Import) : Prop :=
  ∃ found, resolve files importer i.source = some found ∧
    ∀ name ∈ i.clause.requested, name ∈ exportsIn found.lines

/-- A file exports a record under a name, with a function of its own as a member. -/
structure File.Offers (f : File) (binding method : String) : Prop where
  exported : ∃ line ∈ f.lines, ∃ members, offer? line = some (binding, members) ∧ method ∈ members
  declared : ∃ line ∈ f.lines, function? line = some method

/-- The functions that route modules may import. -/
def supportFunctions : List String :=
  ["json", "authenticate", "requireRoles", "HttpError", "rateLimit", "validateBody"]

/-- What it takes for the texts of a project to link. -/
structure Linked (p : Project) (files : List File) : Prop where
  /-- Paths tell files apart. -/
  distinct : (files.map (·.path)).Nodup
  /-- What is read off the text of a module are its imports. -/
  read : ∀ f ∈ files, ∀ m, f.content = .source m → importsIn f.lines = m.imports
  /-- A relative import finds a file that exports what the import asks for. -/
  links : ∀ f ∈ files, isSource f.path = true → ∀ i ∈ importsIn f.lines, isRelative i.source = true →
    i.Finds files f
  /-- Route modules import a function or a repository exactly when their code refers to it. -/
  uses : ∀ f ∈ files, f.path.dropLast = ["src", "routes"] →
    ∀ name ∈ supportFunctions ++ (namedModels p).map (·.names.repository),
      name ∈ (importsIn f.lines).flatMap (·.clause.bindings) ↔
        ∃ ref ∈ referencesIn f.lines, ref.name = name
  /-- What route modules call of a repository is declared and exported in its file. -/
  calls : ∀ f ∈ files, f.path.dropLast = ["src", "routes"] → ∀ n ∈ namedModels p, ∀ method,
    ⟨n.names.repository, some method⟩ ∈ referencesIn f.lines →
      ∃ found ∈ files, found.path = ["src", "repositories", n.names.stem ++ ".repository.ts"] ∧
        found.Offers n.names.repository method
  /-- The package file depends on every package that is imported. -/
  packages : ∃ package : Json, File.ofText ["package.json"] (package.pretty ++ "\n") ∈ files ∧
    ∀ f ∈ files, isSource f.path = true → ∀ i ∈ importsIn f.lines, isRelative i.source = false →
      isPlatform i.source = false → Package.Declares package (packageOf i.source)

section

variable {p : Project} {routes : List Route} {document : OpenApi.Document}

theorem outside_of_mem {name : String}
    (member : name ∈ supportFunctions ++ (namedModels p).map (·.names.repository)) :
    Router.Outside name := by
  rcases List.mem_append.mp member with function | repository
  · exact (by decide : ∀ name ∈ supportFunctions, Router.Outside name) name function
  · obtain ⟨n, modeled, rfl⟩ := List.mem_map.mp repository
    exact Router.repository_outside modeled

theorem Emitted.exists_module {f : File} (emitted : Emitted p routes document f) :
    ∃ m, f.content = .source m := by
  cases emitted with
  | router member => exact Router.exists_module member
  | _ => exact ⟨_, rfl⟩

theorem exists_module {f : File} (member : f ∈ files p routes document)
    (source : isSource f.path = true) : ∃ m, f.content = .source m := by
  refine (emitted_or_text member).elim Emitted.exists_module fun ⟨path, _⟩ => ?_
  exact absurd source ((by decide : ∀ path ∈ textPaths, ¬ isSource path = true) _ path)

/-- The files in the folder of routes are those of the routers. -/
theorem router_of_folder {f : File} (member : f ∈ files p routes document)
    (folder : f.path.dropLast = ["src", "routes"]) :
    f ∈ Router.files p.settings.layout
      (registrations p.settings.engine (namedModels p) routes) := by
  rcases emitted_or_text member with emitted | ⟨path, -⟩
  · cases emitted with
    | router routed => exact routed
    | _ => simp [File.ofModule] at folder
  · exact absurd folder
      ((by decide : ∀ path ∈ textPaths, path.dropLast ≠ ["src", "routes"]) _ path)

theorem referencesIn_lines (closed : ∀ r ∈ keptRoutes routes, Registration.Closes r) {f : File}
    (routed : f ∈ Router.files p.settings.layout
      (registrations p.settings.engine (namedModels p) routes)) {m : Module}
    (content : f.content = .source m) : referencesIn f.lines = m.references := by
  rw [File.lines_source content]
  exact referencesIn_text (plain_of_routers closed routed content)

/-- The file of a repository offers its methods. -/
theorem Repository.offers {r : Repository} (legible : r.toModule.Legible) (path : List String)
    {method : String} (listed : method ∈ r.methods) :
    (File.ofModule path r.toModule).Offers r.names.repository method := by
  constructor
  · let offer : Declaration :=
      { exported := true, name := r.names.repository, rest := " = " ++ inBraces r.methods ++ ";" }
    have present : .declare offer ∈ r.toModule.items :=
      List.mem_append_right _ (List.mem_singleton_self _)
    have shown : offer.Legible := (legible.items _ present).resolve_right (by simp [offer])
    have names : ∀ name ∈ r.methods, IsName name := by
      unfold Repository.methods
      split <;> decide
    have first : offer.first =
        "export const " ++ r.names.repository ++ " = " ++ inBraces r.methods ++ ";" := by
      have opens : "export " ++ "const" ++ " " = "export const " := by decide
      rw [Declaration.first, if_pos rfl, opens]
      simp only [offer, String.append_assoc]
    exact ⟨offer.first, first_mem_linesOf present shown, r.methods,
      first ▸ offer?_write shown.named names, listed⟩
  · have known : (false, "async function", method) ∈
        r.methods.map fun name => (false, "async function", name) := List.mem_map_of_mem listed
    rw [← declared_functions, List.mem_filterMap] at known
    obtain ⟨item, member, told⟩ := known
    have present : item ∈ r.toModule.items :=
      List.mem_append_left _ (List.mem_append_right _ member)
    cases item with
    | declare d =>
      simp only [Option.some.injEq, Prod.mk.injEq] at told
      obtain ⟨own, keyword, rfl⟩ := told
      have shown : d.Legible := (legible.items _ present).resolve_right (by simp [keyword])
      exact ⟨d.first, first_mem_linesOf present shown, function?_first shown keyword own⟩
    | _ => cases told

end

/-- Where the comments above routes end with their lines, the texts of a backend link. -/
theorem files_linked (p : Project) (routes : List Route) (document : OpenApi.Document)
    (closed : ∀ r ∈ keptRoutes routes, Registration.Closes r) :
    Linked p (files p routes document) := by
  have read {f : File} (member : f ∈ files p routes document) {m : Module}
      (content : f.content = .source m) : importsIn f.lines = m.imports := by
    rw [File.lines_source content]
    exact importsIn_text (legible_of_mem closed member content)
  constructor
  case distinct => exact paths_nodup p routes document
  case read => exact fun f member m content => read member content
  case links =>
    intro f member source i imported relative
    obtain ⟨m, content⟩ := exists_module member source
    rw [read member content] at imported
    obtain ⟨found, other, resolved, holds, exported⟩ := imports_link member content imported relative
    refine ⟨found, resolved, fun name requested => ?_⟩
    rw [File.lines_source holds]
    exact mem_exportsIn (legible_of_mem closed (mem_of_resolve resolved) holds)
      (exported name requested)
  case uses =>
    intro f member folder name listed
    have routed := router_of_folder member folder
    obtain ⟨m, content⟩ := Router.exists_module routed
    rw [read member content, referencesIn_lines closed routed content]
    exact imported_iff_referred_routers routed content (outside_of_mem listed)
  case calls =>
    intro f member folder n modeled method called
    have routed := router_of_folder member folder
    obtain ⟨m, content⟩ := Router.exists_module routed
    rw [referencesIn_lines closed routed content] at called
    exact ⟨_, repository_mem p routes document modeled, rfl, Repository.offers
      (legible_repository modeled) _ (routers_call_offered routed content modeled called)⟩
  case packages =>
    refine ⟨(Package.ofProject p routes).toJson, ?_, fun f member source i imported notPath other => ?_⟩
    · refine List.mem_append_left _ (List.mem_append_left _ (List.mem_append_left _ ?_))
      exact List.mem_cons_self
    · obtain ⟨m, content⟩ := exists_module member source
      rw [read member content] at imported
      exact Package.declares_of_mem (packages_listed member content i imported notPath other)

def shownItem : Project where
  nodes :=
    [{ id := "show", content := .endpoint { path := "/items/:id" } },
     { id := "item", content := .database { operation := .read, model := "Item" } }]
  edges := [⟨"reads", "show", "item", none, none⟩]
  models := [{ name := "Item", fields := [{ name := "id", type := .string, isId := true }] }]

def itemsFile : File :=
  .ofModule ["src", "routes", "items.routes.ts"] (Router.toModule ⟨"itemsRouter", true,
    registrations shownItem.settings.engine (namedModels shownItem) (Resolve.routes shownItem)⟩)

/-- A file that imports the error that it throws and the repository that it calls. -/
theorem shownItem_linked :
    (∀ r ∈ keptRoutes (Resolve.routes shownItem), Registration.Closes r) ∧
      itemsFile ∈ shownItem.compile.files ∧
      (importsIn itemsFile.lines).flatMap (·.clause.bindings) =
        ["Router", "HttpError", "itemRepository"] ∧
      (∃ ref ∈ referencesIn itemsFile.lines, ref.name = "HttpError") ∧
      (∀ ref ∈ referencesIn itemsFile.lines, ref.name ≠ "json") ∧
      (Source.values ["HttpError"] "../middleware/errors").Finds shownItem.compile.files itemsFile ∧
      ∃ found ∈ shownItem.compile.files, found.path = ["src", "repositories", "item.repository.ts"] ∧
        found.Offers "itemRepository" "findById" := by
  have closed : ∀ r ∈ keptRoutes (Resolve.routes shownItem), Registration.Closes r := by
    decide +kernel
  have linked : Linked shownItem shownItem.compile.files := files_linked shownItem _ _ closed
  have grouped : ("items", registrations shownItem.settings.engine (namedModels shownItem)
      (Resolve.routes shownItem)) ∈ Router.groups (registrations shownItem.settings.engine
        (namedModels shownItem) (Resolve.routes shownItem)) := by decide +kernel
  have member : itemsFile ∈ shownItem.compile.files := router_mem shownItem _ _ rfl grouped
  have folder : itemsFile.path.dropLast = ["src", "routes"] := rfl
  have read := linked.read itemsFile member _ rfl
  have bound : (importsIn itemsFile.lines).flatMap (·.clause.bindings) =
      ["Router", "HttpError", "itemRepository"] := by
    rw [read]
    decide +kernel
  have uses := linked.uses itemsFile member folder
  rw [bound] at uses
  have listed : ∀ name ∈ supportFunctions,
      name ∈ supportFunctions ++ (namedModels shownItem).map (·.names.repository) :=
    fun _ => List.mem_append_left _
  refine ⟨closed, member, bound, ?_, ?_, ?_, ?_⟩
  · exact (uses "HttpError" (listed _ (by decide))).mp (by decide)
  · intro ref referred json
    exact absurd ((uses "json" (listed _ (by decide))).mpr ⟨ref, referred, json⟩) (by decide)
  · refine linked.links itemsFile member (by decide) _ ?_ (by decide)
    rw [read]
    decide +kernel
  · have named : (namedModels shownItem).map (·.names) = [⟨"item", "Item", "item"⟩] := by
      decide +kernel
    have called : ⟨"itemRepository", some "findById"⟩ ∈ referencesIn itemsFile.lines := by
      rw [referencesIn_lines closed (router_of_folder member folder) rfl]
      decide +kernel
    obtain ⟨n, modeled, names⟩ := List.mem_map.mp (named ▸ List.mem_singleton_self _)
    have offered := linked.calls itemsFile member folder n modeled "findById"
    rw [names] at offered
    exact offered called

def strayImport : Project where
  nodes :=
    [{ id := "items", content := .endpoint { path := "/items\nimport './missing';", summary := "" } }]

def strayFile : File :=
  .ofModule ["src", "routes", "itemsimport.routes.ts"] (Router.toModule ⟨"itemsimportRouter", true,
    registrations strayImport.settings.engine (namedModels strayImport)
      (Resolve.routes strayImport)⟩)

/-- Where a path ends the line of its comment, an import may find nothing. -/
theorem strayImport_unlinked : ¬ Linked strayImport strayImport.compile.files := by
  intro linked
  have grouped : ("itemsimport", registrations strayImport.settings.engine (namedModels strayImport)
      (Resolve.routes strayImport)) ∈ Router.groups (registrations strayImport.settings.engine
        (namedModels strayImport) (Resolve.routes strayImport)) := by decide +kernel
  have member : strayFile ∈ strayImport.compile.files := router_mem strayImport _ _ rfl grouped
  obtain ⟨g, registered, opened⟩ : ∃ g ∈ registrations strayImport.settings.engine
      (namedModels strayImport) (Resolve.routes strayImport),
      "import './missing';" ∈ linesOf (Registration.comment g.route) := by decide +kernel
  have line : "import './missing';" ∈ strayFile.lines :=
    mem_linesOf_text (Router.code_mem_items registered) List.mem_cons_self opened
  have imported : ⟨.effect, "./missing"⟩ ∈ importsIn strayFile.lines :=
    List.mem_filterMap.mpr ⟨_, line, by decide +kernel⟩
  obtain ⟨found, resolved, -⟩ := linked.links strayFile member (by decide) _ imported (by decide)
  have lost : resolve strayImport.compile.files strayFile "./missing" = none := by decide +kernel
  rw [lost] at resolved
  cases resolved

end ApiGraph.Backend
