import ApiGraph.Compiler
import ApiGraph.Proofs.Backend.FileSet
import ApiGraph.Proofs.Backend.ListedTables
import ApiGraph.Proofs.Backend.Plans
import ApiGraph.Proofs.Backend.Resolution
import ApiGraph.Proofs.OpenApi.Components

namespace ApiGraph

namespace Lint

/-- The models, each with what lint finds about it. -/
def examinedFrom (index : Nat) (before : List String) : List Model → List (Model × Option Warning)
  | [] => []
  | m :: ms => (m, modelShape index before m) :: examinedFrom (index + 1) (m.name :: before) ms

def examined (p : Project) : List (Model × Option Warning) := examinedFrom 0 [] p.models

theorem modelsFrom_eq (index : Nat) (before : List String) (ms : List Model) :
    modelsFrom index before ms = (examinedFrom index before ms).filterMap (·.2) := by
  induction ms generalizing index before with
  | nil => rfl
  | cons m ms ih =>
    rw [modelsFrom, examinedFrom, ih]
    cases modelShape index before m <;> rfl

/-- Whether a finding says that a model is left out. -/
def leavesOut : Option Warning → Bool
  | some (.unnamedModel _) => true
  | some (.duplicateModel _) => true
  | _ => false

theorem leavesOut_modelShape (index : Nat) (before : List String) (m : Model) :
    leavesOut (modelShape index before m) = (Text.isBlank m.name || decide (m.name ∈ before)) := by
  unfold modelShape
  split
  · rename_i blank
    rw [blank]
    rfl
  · rename_i named
    split
    · rename_i known
      rw [decide_eq_true known, Bool.or_true]
      rfl
    · rename_i fresh
      rw [eq_false_of_ne_true named, decide_eq_false fresh]
      unfold primaryKey
      split <;> rfl

/-- The models that are not left out are the first ones of the names that are not blank. -/
theorem kept_examinedFrom {seen before : List String}
    (same : ∀ k, Text.isBlank k = false → (k ∈ seen ↔ k ∈ before)) (index : Nat) (ms : List Model) :
    ((examinedFrom index before ms).filter fun x => !leavesOut x.2).map (·.1) =
      firstsFrom Model.name seen (ms.filter fun m => !Text.isBlank m.name) := by
  induction ms generalizing seen before index with
  | nil => rfl
  | cons m ms ih =>
    -- `before` gains every name, `seen` only those that are kept: they differ in blank names
    have shape := leavesOut_modelShape index before m
    have grown : ∀ k, Text.isBlank k = false → (k ∈ m.name :: seen ↔ k ∈ m.name :: before) :=
      fun k named => by rw [List.mem_cons, List.mem_cons, same k named]
    rw [examinedFrom, List.filter_cons, shape]
    by_cases blank : Text.isBlank m.name = true
    · have passes : ∀ k, Text.isBlank k = false → (k ∈ seen ↔ k ∈ m.name :: before) := by
        intro k named
        have different : k ≠ m.name := fun eq => by simp [eq, blank] at named
        rw [List.mem_cons, or_iff_right different, same k named]
      simp [blank, ih passes]
    · have named := eq_false_of_ne_true blank
      rw [List.filter_cons_of_pos (by simp [named]), firstsFrom]
      by_cases known : m.name ∈ before
      · rw [if_pos ((same _ named).mpr known)]
        have passes : ∀ k, Text.isBlank k = false → (k ∈ seen ↔ k ∈ m.name :: before) := by
          intro k named'
          rw [same k named', List.mem_cons, iff_or_self]
          exact fun eq => eq ▸ known
        simp [known, ih passes]
      · rw [if_neg fun also => known ((same _ named).mp also)]
        simp [named, known, ih grown]

theorem kept_examined (p : Project) :
    ((examined p).filter fun x => !leavesOut x.2).map (·.1) = p.emittedModels :=
  kept_examinedFrom (fun _ _ => Iff.rfl) 0 p.models

end Lint

namespace Backend

def inFolder (folder : String) (paths : List (List String)) : List (List String) :=
  paths.filter (·.take 2 = ["src", folder])

theorem Placed.none_in_folder {areas : List (Option String)} {paths : List (List String)}
    (placed : Placed areas paths) {folder : String} (notStore : folder ≠ "db")
    (elsewhere : some folder ∉ areas) : inFolder folder paths = [] := by
  refine List.filter_eq_nil_iff.mpr fun path member inside => ?_
  have second : path[1]? = some folder := by
    have start := congrArg (·[1]?) (of_decide_eq_true inside)
    rwa [List.getElem?_take_of_lt (by decide)] at start
  have place : area path = some folder := by
    rw [area, second, if_neg fun store => notStore (Option.some.inj store)]
  exact elsewhere (place ▸ placed.within path member)

theorem all_in_folder {α : Type} (folder : String) (last : α → String) (l : List α) :
    inFolder folder (l.map fun a => ["src", folder] ++ [last a]) =
      l.map fun a => ["src", folder] ++ [last a] := by
  refine List.filter_eq_self.mpr fun path member => ?_
  obtain ⟨a, -, rfl⟩ := List.mem_map.mp member
  exact decide_eq_true rfl

theorem inFolder_append (folder : String) (l r : List (List String)) :
    inFolder folder (l ++ r) = inFolder folder l ++ inFolder folder r := List.filter_append ..

/-- The folders of models and repositories hold files about models only. -/
theorem inFolder_files (p : Project) (routes : List Route) (document : OpenApi.Document)
    {folder : String} (known : folder = "models" ∨ folder = "repositories") :
    inFolder folder ((files p routes document).map (·.path)) =
      inFolder folder ((if p.settings.engine.isSql then [] else modelPaths (namedModels p)) ++
        repositoryPaths (namedModels p)) := by
  have scaffold : inFolder folder ((scaffold p routes document).map (·.path)) = [] := by
    rw [scaffold_paths]
    rcases known with rfl | rfl <;> rfl
  have fixed :
      inFolder folder [["src", "types", "models.ts"], ["src", "db", "client.ts"]] = [] := by
    rcases known with rfl | rfl <;> rfl
  have routers : inFolder folder ((Router.files p.settings.layout
      (registrations p.settings.engine (namedModels p) routes)).map (·.path)) = [] := by
    rw [router_paths]
    rcases known with rfl | rfl <;>
      exact (placed_routers _ _).none_in_folder (by decide) (by decide)
  have support : inFolder folder ((supportFiles p.settings.engine routes).map (·.path)) = [] := by
    rcases known with rfl | rfl <;>
      exact (placed_support _ _).none_in_folder (by decide) (by decide)
  have tables : inFolder folder [["src", "db", "schema.ts"]] = [] := by
    rcases known with rfl | rfl <;> rfl
  simp only [files, List.map_append, inFolder_append, scaffold, routers, support, data_paths, fixed,
    List.nil_append, List.append_nil]
  split
  · rw [tables]
    rfl
  · rfl

theorem inFolder_repositories (p : Project) (routes : List Route) (document : OpenApi.Document) :
    inFolder "repositories" ((files p routes document).map (·.path)) =
      repositoryPaths (namedModels p) := by
  rw [inFolder_files p routes document (.inr rfl), inFolder_append, repositoryPaths, all_in_folder]
  have none : inFolder "repositories" (if p.settings.engine.isSql then [] else
      modelPaths (namedModels p)) = [] := by
    split
    · rfl
    · exact (placed_models _).none_in_folder (by decide) (by decide)
  rw [none, List.nil_append]

theorem inFolder_models (p : Project) (routes : List Route) (document : OpenApi.Document) :
    inFolder "models" ((files p routes document).map (·.path)) =
      if p.settings.engine.isSql then [] else modelPaths (namedModels p) := by
  have none : inFolder "models" (repositoryPaths (namedModels p)) = [] :=
    (placed_repositories _).none_in_folder (by decide) (by decide)
  rw [inFolder_files p routes document (.inl rfl), inFolder_append, none, List.append_nil]
  split
  · rfl
  · exact all_in_folder ..

end Backend

namespace Project

open Backend

def moduleAt? (p : Project) (path : List String) : Option Source.Module := do
  let f ← p.compile.files.find? (·.path = path)
  match f.content with
  | .source m => some m
  | .text _ => none

theorem moduleAt_of_mem {p : Project} {path : List String} {m : Source.Module}
    (member : File.ofModule path m ∈ p.compile.files) : p.moduleAt? path = some m := by
  have found : p.compile.files.find? (·.path = path) = some (File.ofModule path m) :=
    Source.find_path (paths_nodup p _ _) member
  rw [moduleAt?, found]
  rfl

/-- The artifacts of a backend that are about one model each, in their order. -/
structure ArtifactsOf (p : Project) (models : List NamedModel) : Prop where
  interfaces : ∃ m, p.moduleAt? ["src", "types", "models.ts"] = some m ∧
    (Interface.listed m).map (·.1) = models.map (·.names.type)
  repositories : inFolder "repositories" (p.compile.files.map (·.path)) = repositoryPaths models
  tables : p.settings.engine.isSql = true → ∃ m, p.moduleAt? ["src", "db", "schema.ts"] = some m ∧
    (Table.created m).map (·.1) = models.map (·.names.stem)
  collections : p.settings.engine.isSql = false →
    inFolder "models" (p.compile.files.map (·.path)) = modelPaths models

theorem artifactsOf_namedModels (p : Project) : ArtifactsOf p (namedModels p) where
  interfaces := by
    refine ⟨_, moduleAt_of_mem (interface_mem p _ _), ?_⟩
    rw [Interface.listed_toModule, List.map_map, List.map_map]
    rfl
  repositories := inFolder_repositories p _ _
  tables sql := by
    refine ⟨_, moduleAt_of_mem (table_mem p _ _ sql), ?_⟩
    rw [Table.created_toModule, List.map_map]
    rfl
  collections notSql := by
    refine (inFolder_models p _ _).trans ?_
    rw [notSql]
    rfl

theorem schemas_emitted (p : Project) :
    (OpenApi.Document.schemasOf p.models).filter (fun s => !Text.isBlank s.1) =
      (namedModels p).map fun n => (n.model.name, .ofModel n.model) := by
  have models : (firstsBy Model.name p.models).filter (fun m => !Text.isBlank m.name) =
      (namedModels p).map (·.model) :=
    (filter_firstsBy (!Text.isBlank ·) _ _).trans (nameModels_models p.emittedModels).symm
  rw [OpenApi.Document.schemasOf, List.filter_map]
  refine (congrArg _ models).trans ?_
  rw [List.map_map]
  rfl

theorem component_names_iff (p : Project) :
    firsts (p.models.map (·.name)) = (namedModels p).map (·.model.name) ↔
      ∀ m ∈ p.models, Text.isBlank m.name = false := by
  have names : (firsts (p.models.map (·.name))).filter (!Text.isBlank ·) =
      (namedModels p).map (·.model.name) := by
    rw [← OpenApi.Document.schemasOf_names, List.filter_map]
    refine (congrArg (List.map (·.1)) (schemas_emitted p)).trans ?_
    rw [List.map_map]
    rfl
  rw [← names, eq_comm, List.filter_eq_self]
  simp [mem_firsts_iff]

/-- The interfaces, repositories and tables or collections are those of the models that lint does
not leave out. With a name that is not blank exactly these models have components, in the same
order; so all components are theirs exactly if no model has a blank name. -/
theorem documented_models (p : Project) :
    let named := namedModels p
    ArtifactsOf p named ∧
      (∀ x ∈ Lint.examined p, ∀ w ∈ x.2, w ∈ p.compile.warnings) ∧
      named.map (·.model) =
        ((Lint.examined p).filter fun x => !Lint.leavesOut x.2).map (·.1) ∧
      ∃ components, p.compile.document.toJson.at? ["components", "schemas"] =
          some (.obj components) ∧
        components.filter (fun c => !Text.isBlank c.1) =
          named.map (fun n => (n.model.name, (OpenApi.Schema.ofModel n.model).toJson)) ∧
        (components.map (·.1) = named.map (·.model.name) ↔
          ∀ m ∈ p.models, Text.isBlank m.name = false) := by
  intro named
  have keys : (p.compile.document.schemas.map fun s => (s.1, s.2.toJson)).map (·.1) =
      firsts (p.models.map (·.name)) := by
    rw [← OpenApi.Document.schemasOf_names, List.map_map]
    rfl
  refine ⟨artifactsOf_namedModels p, ?_, ?_, _, OpenApi.Document.at_components _, ?_, ?_⟩
  · intro x member w found
    have reported : w ∈ Lint.modelsFrom 0 [] p.models := by
      rw [Lint.modelsFrom_eq]
      exact List.mem_filterMap.mpr ⟨x, member, found⟩
    refine mem_firsts_iff.mpr ?_
    simp [Lint.lint, reported]
  · exact (nameModels_models p.emittedModels).trans (Lint.kept_examined p).symm
  · rw [List.filter_map]
    refine (congrArg _ (schemas_emitted p)).trans ?_
    rw [List.map_map]
    rfl
  · rw [keys]
    exact component_names_iff p

def unnamedModel : Project where
  models := [{ name := "Tag" }, { name := " " }]

/-- A model that is reported as skipped, and has a component and no interface. -/
theorem unnamedModel_documented :
    .unnamedModel 1 ∈ unnamedModel.compile.warnings ∧
      (∃ m, unnamedModel.moduleAt? ["src", "types", "models.ts"] = some m ∧
        (Backend.Interface.listed m).map (·.1) = ["Tag"]) ∧
      ∃ components, unnamedModel.compile.document.toJson.at? ["components", "schemas"] =
          some (.obj components) ∧ components.map (·.1) = ["Tag", " "] := by
  obtain ⟨artifacts, reported, -, components, found, -, -⟩ := documented_models unnamedModel
  obtain ⟨m, present, listed⟩ := artifacts.interfaces
  refine ⟨reported ({ name := " " }, some (.unnamedModel 1)) (by decide) _ rfl,
    ⟨m, present, listed.trans (by decide +kernel)⟩, components, found, ?_⟩
  have same := found.symm.trans (OpenApi.Document.at_components _)
  cases same
  decide +kernel

end Project

end ApiGraph
