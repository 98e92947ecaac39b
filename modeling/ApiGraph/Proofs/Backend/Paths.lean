import ApiGraph.Compiler
import ApiGraph.Proofs.Backend.FileSet
import ApiGraph.Proofs.Path

/-!
# Paths of files

Where the files of a backend lie, whatever models, tags and projects are called: below the folder
they are written to, under names of plain characters, and apart from each other also where case does
not count (`Project.paths_apart`).
-/

namespace ApiGraph

open Text

namespace Text

theorem asciiLower_of_small {s : String} (small : ∀ c ∈ s.toList, c.toLower = c) :
    asciiLower s = s := by
  rw [asciiLower, List.map_congr_left small, List.map_id', String.ofList_toList]

end Text

namespace Backend

/-- A character that file systems take as it is. -/
def IsPlainChar (c : Char) : Prop := isAsciiAlnum c = true ∨ c ∈ ['_', '-', '.']

instance (c : Char) : Decidable (IsPlainChar c) := inferInstanceAs (Decidable (_ ∨ _))

/-- Characters that make up one part of a path, and neither the folder itself nor the one above. -/
structure IsComponent (cs : List Char) : Prop where
  nonempty : cs ≠ []
  notHere : cs ≠ ['.']
  notAbove : cs ≠ ['.', '.']
  plain : ∀ c ∈ cs, IsPlainChar c

instance (cs : List Char) : Decidable (IsComponent cs) :=
  decidable_of_iff (cs ≠ [] ∧ cs ≠ ['.'] ∧ cs ≠ ['.', '.'] ∧
      cs.all (fun c => decide (IsPlainChar c)) = true)
    ⟨fun ⟨a, b, c, d⟩ => ⟨a, b, c, forall_of_all d⟩,
      fun ⟨a, b, c, d⟩ => ⟨a, b, c, by simpa using d⟩⟩

theorem IsComponent.no_slash {cs : List Char} (component : IsComponent cs) : '/' ∉ cs := by
  intro slash
  have plain := component.plain '/' slash
  revert plain
  decide

/-- A name with a letter or digit is neither the folder itself nor the one above. -/
theorem isComponent_of_alnum {cs : List Char} (plain : ∀ c ∈ cs, IsPlainChar c) {d : Char}
    (member : d ∈ cs) (alnum : isAsciiAlnum d = true) : IsComponent cs where
  nonempty none := by simp [none] at member
  notHere here := by
    rw [here, List.mem_singleton] at member
    rw [member] at alnum
    exact absurd alnum (by decide)
  notAbove above := by
    have dot : d = '.' := by simpa [above] using member
    rw [dot] at alnum
    exact absurd alnum (by decide)
  plain := plain

def IsPlainText (s : String) : Prop := ∀ c ∈ s.toList, IsPlainChar c ∧ c.toLower = c

instance (s : String) : Decidable (IsPlainText s) :=
  decidable_of_iff (s.toList.all (fun c => decide (IsPlainChar c ∧ c.toLower = c)) = true)
    ⟨forall_of_all, fun plain => List.all_eq_true.mpr fun c member =>
      decide_eq_true (plain c member)⟩

/-- A part of a path that is the same in small letters. -/
structure IsPlainName (name : String) : Prop where
  component : IsComponent name.toList
  small : ∀ c ∈ name.toList, c.toLower = c

instance (name : String) : Decidable (IsPlainName name) :=
  decidable_of_iff (IsComponent name.toList ∧
      name.toList.all (fun c => decide (c.toLower = c)) = true)
    ⟨fun ⟨a, b⟩ => ⟨a, forall_of_all b⟩, fun ⟨a, b⟩ => ⟨a, by simpa using b⟩⟩

theorem isPlainName_append {stem suffix : String} (plain : IsPlainText stem)
    (ends : IsPlainName suffix) {d : Char} (member : d ∈ suffix.toList) (alnum : isAsciiAlnum d = true) :
    IsPlainName (stem ++ suffix) := by
  constructor
  · refine isComponent_of_alnum (fun c inside => ?_) (d := d) ?_ alnum
    · rw [String.toList_append, List.mem_append] at inside
      rcases inside with inStem | inSuffix
      · exact (plain c inStem).1
      · exact ends.component.plain c inSuffix
    · rw [String.toList_append]
      exact List.mem_append_right _ member
  · intro c inside
    rw [String.toList_append, List.mem_append] at inside
    rcases inside with inStem | inSuffix
    · exact (plain c inStem).2
    · exact ends.small c inSuffix

theorem isPlainText_numbered {base joint : String} {n : Nat} (plainBase : IsPlainText base)
    (plainJoint : IsPlainText joint) : IsPlainText (Naming.numbered base joint n) := by
  intro c member
  rcases mem_numbered member with inBase | inJoint | digit
  · exact plainBase c inBase
  · exact plainJoint c inJoint
  · exact ⟨Or.inl (by simp [isAsciiAlnum, digit]), Naming.toLower_digit digit⟩

theorem plain_stem {models : List Model} {m : NamedModel} (member : m ∈ nameModels models) :
    IsPlainText m.names.stem := by
  obtain ⟨n, names⟩ := exists_numbered member
  rw [names]
  refine isPlainText_numbered (fun c inside => ?_) (by decide)
  rcases Naming.mem_snake_identifier inside with ⟨alnum, small⟩ | rfl
  · exact ⟨Or.inl alnum, small⟩
  · decide

theorem plain_kebabOr {fallback : String} (plain : IsPlainText fallback) (s : String) :
    IsPlainText (Naming.kebabOr fallback s) := by
  intro c member
  rcases Naming.mem_kebabOr member with (⟨alnum, small⟩ | rfl) | inFallback
  · exact ⟨Or.inl alnum, small⟩
  · decide
  · exact plain c inFallback

/-! ### Paths of the file set -/

def rootPaths : List (List String) :=
  [["package.json"], ["tsconfig.json"], [".env.example"], [".gitignore"], ["README.md"],
   ["openapi.json"]]

/-- A path of the file set: that of a file outside of the sources, or one of plain names. -/
inductive IsPlainPath : List String → Prop
  | root {path : List String} (member : path ∈ rootPaths) : IsPlainPath path
  | source {names : List String} (plain : ∀ name ∈ names, IsPlainName name) :
      IsPlainPath ("src" :: names)

theorem plain_of_stems {α : Type} {l : List α} {stem : α → String} {folder suffix : String}
    (plain : ∀ a ∈ l, IsPlainText (stem a)) (folderPlain : IsPlainName folder)
    (suffixPlain : IsPlainName suffix) {d : Char} (member : d ∈ suffix.toList) (alnum : isAsciiAlnum d = true) :
    ∀ path ∈ l.map (fun a => ["src", folder] ++ [stem a ++ suffix]), IsPlainPath path := by
  intro path inside
  obtain ⟨a, present, rfl⟩ := List.mem_map.mp inside
  refine .source (List.forall_mem_cons.mpr ⟨folderPlain, List.forall_mem_singleton.mpr ?_⟩)
  exact isPlainName_append (plain a present) suffixPlain member alnum

theorem plain_source {paths : List (List String)}
    (plain : ∀ path ∈ paths, path.head? = some "src" ∧ ∀ name ∈ path.tail, IsPlainName name) :
    ∀ path ∈ paths, IsPlainPath path := by
  intro path member
  obtain ⟨source, names⟩ := plain path member
  obtain ⟨rest, rfl⟩ := List.head?_eq_some_iff.mp source
  exact .source names

theorem plain_scaffold (p : Project) (routes : List Route) (document : OpenApi.Document) :
    ∀ path ∈ (scaffold p routes document).map (·.path), IsPlainPath path := by
  rw [scaffold_paths]
  intro path member
  by_cases root : path ∈ rootPaths
  · exact .root root
  · have sources : path ∈ [["src", "index.ts"], ["src", "swagger.ts"]] := by
      simp [rootPaths] at member root ⊢
      tauto
    exact plain_source (by decide) path sources

theorem plain_data (p : Project) :
    ∀ path ∈ (dataFiles p (namedModels p)).map (·.path), IsPlainPath path := by
  rw [data_paths]
  intro path member
  simp only [List.mem_append] at member
  rcases member with (fixed | store) | repository
  · exact plain_source (by decide) path fixed
  · split at store
    · exact plain_source (by decide) path store
    · exact plain_of_stems (fun _ => plain_stem) (by decide) (by decide) (d := 'm') (by decide)
        (by decide) path store
  · exact plain_of_stems (fun _ => plain_stem) (by decide) (by decide) (d := 'r') (by decide)
      (by decide) path repository

theorem plain_routers (layout : Layout) (gs : List Registration) :
    ∀ path ∈ (Router.files layout gs).map (·.path), IsPlainPath path := by
  rw [router_paths]
  intro path member
  cases layout with
  | minimal =>
    have fixed : path ∈ [["src", "routes", "index.ts"]] := member
    exact plain_source (by decide) path fixed
  | rest =>
    rcases List.mem_append.mp member with grouped | index
    · refine plain_of_stems (fun g group => ?_) (by decide) (by decide) (d := 'r') (by decide)
        (by decide) path grouped
      have stem : g.1 ∈ (Router.groups gs).map (·.1) := List.mem_map_of_mem group
      rw [Router.groups, groupBy_keys, mem_firsts_iff] at stem
      obtain ⟨r, -, same⟩ := List.mem_map.mp stem
      rw [← same]
      exact plain_kebabOr (by decide) _
    · exact plain_source (by decide) path index

theorem plain_support (engine : Engine) (routes : List Route) :
    ∀ path ∈ (supportFiles engine routes).map (·.path), IsPlainPath path := by
  rw [support_paths]
  split <;> split <;> exact plain_source (by decide)

theorem plain_files (p : Project) (routes : List Route) (document : OpenApi.Document) :
    ∀ f ∈ files p routes document, IsPlainPath f.path := by
  intro f member
  simp only [files, List.mem_append] at member
  rcases member with ((around | data) | router) | support
  · exact plain_scaffold p routes document _ (List.mem_map_of_mem around)
  · exact plain_data p _ (List.mem_map_of_mem data)
  · exact plain_routers _ _ _ (List.mem_map_of_mem router)
  · exact plain_support _ _ _ (List.mem_map_of_mem support)

/-! ### Names of paths -/

theorem map_asciiLower_of_plain {names : List String} (plain : ∀ name ∈ names, IsPlainName name) :
    names.map asciiLower = names := by
  refine (List.map_congr_left fun name member => ?_).trans (List.map_id' _)
  exact asciiLower_of_small (plain name member).small

theorem IsPlainPath.components {path : List String} (plain : IsPlainPath path) :
    path ≠ [] ∧ (∀ name ∈ path, IsComponent name.toList) ∧
      ∀ name ∈ path.map asciiLower, IsComponent name.toList := by
  cases plain with
  | root member =>
    revert path
    decide
  | source plain =>
    have all : ∀ name ∈ "src" :: _, IsPlainName name :=
      List.forall_mem_cons.mpr ⟨by decide, plain⟩
    rw [map_asciiLower_of_plain all]
    exact ⟨List.cons_ne_nil _ _, fun name member => (all name member).component,
      fun name member => (all name member).component⟩

theorem segments_intercalate {path : List String} (some : path ≠ [])
    (components : ∀ name ∈ path, IsComponent name.toList) :
    Path.segments ("/".intercalate path) = path.map (·.toList) := by
  have solid : ∀ s ∈ path.map (·.toList), '/' ∉ s := by
    intro s member
    obtain ⟨name, present, rfl⟩ := List.mem_map.mp member
    exact (components name present).no_slash
  rw [Path.segments_eq, String.toList_intercalate]
  exact List.splitOn_intercalate '/' solid (by simpa using some)

theorem asciiLower_append (a b : String) : asciiLower (a ++ b) = asciiLower a ++ asciiLower b := by
  simp [asciiLower, String.ofList_append]

theorem asciiLower_intercalate (path : List String) :
    asciiLower ("/".intercalate path) = "/".intercalate (path.map asciiLower) := by
  induction path with
  | nil => decide
  | cons name rest ih =>
    cases rest with
    | nil => simp
    | cons next rest =>
      have slash : asciiLower "/" = "/" := by decide
      rw [String.intercalate_cons_cons, asciiLower_append, asciiLower_append, ih, slash,
        List.map_cons, List.map_cons, List.map_cons, String.intercalate_cons_cons]

theorem IsPlainPath.eq_of_lower {a b : List String} (left : IsPlainPath a) (right : IsPlainPath b)
    (same : a.map asciiLower = b.map asciiLower) : a = b := by
  -- outside of the sources there are capitals, but no two paths that differ in them only
  have outside : ∀ path ∈ rootPaths, (path.map asciiLower).head? ≠ some "src" := by decide
  have roots : ∀ a ∈ rootPaths, ∀ b ∈ rootPaths, a.map asciiLower = b.map asciiLower → a = b := by
    decide
  cases left with
  | root member =>
    cases right with
    | root other => exact roots _ member _ other same
    | source plain =>
      have source := congrArg List.head? same
      exact absurd source (outside _ member)
  | source plain =>
    cases right with
    | root other =>
      have source := congrArg List.head? same
      exact absurd source.symm (outside _ other)
    | source also =>
      rw [List.map_cons, List.map_cons, map_asciiLower_of_plain plain,
        map_asciiLower_of_plain also] at same
      injection same with _ names
      rw [names]

theorem IsPlainPath.eq_of_name {a b : List String} (left : IsPlainPath a) (right : IsPlainPath b)
    (same : asciiLower ("/".intercalate a) = asciiLower ("/".intercalate b)) : a = b := by
  obtain ⟨someLeft, -, lowerLeft⟩ := left.components
  obtain ⟨someRight, -, lowerRight⟩ := right.components
  rw [asciiLower_intercalate, asciiLower_intercalate] at same
  have parts := congrArg Path.segments same
  rw [segments_intercalate (by simpa using someLeft) lowerLeft,
    segments_intercalate (by simpa using someRight) lowerRight] at parts
  have injective : Function.Injective String.toList := fun _ _ => String.toList_inj.mp
  exact left.eq_of_lower right (injective.list_map parts)

theorem isComponent_nameOf (projectName : String) :
    IsComponent (Package.nameOf projectName).toList := by
  have plain : IsPlainText (Package.nameOf projectName) := plain_kebabOr (by decide) projectName
  have noDot : '.' ∉ (Package.nameOf projectName).toList := by
    intro dot
    rcases Naming.mem_kebabOr dot with (alnum | joint) | inFallback
    · exact absurd alnum (by decide)
    · exact absurd joint (by decide)
    · exact absurd inFallback (by decide)
  refine ⟨?_, fun here => noDot (by simp [here]), fun above => noDot (by simp [above]),
    fun c member => (plain c member).1⟩
  unfold Package.nameOf Naming.kebabOr
  split
  · decide
  · rename_i some
    simpa using some

end Backend

namespace Project

open Backend

/-- No two files of a backend share a path, even where case does not count. Every path leads down
from the folder of the project, through names of plain characters, and the folder in an archive has
such a name. -/
theorem paths_apart (p : Project) :
    (p.compile.files.map fun f => asciiLower f.name).Nodup ∧
      (∀ f ∈ p.compile.files, ∀ part ∈ Path.segments f.name, IsComponent part) ∧
      IsComponent (Package.nameOf p.name).toList := by
  have plain : ∀ f ∈ p.compile.files, IsPlainPath f.path := plain_files p _ _
  refine ⟨?_, ?_, isComponent_nameOf p.name⟩
  · have distinct : (p.compile.files.map (·.path)).Nodup := paths_nodup p _ _
    rw [List.nodup_iff_pairwise_ne, List.pairwise_map] at distinct ⊢
    refine distinct.imp_of_mem ?_
    intro f g left right different same
    exact different ((plain f left).eq_of_name (plain g right) same)
  · intro f member part inside
    obtain ⟨some, components, -⟩ := (plain f member).components
    rw [File.name, segments_intercalate some components] at inside
    obtain ⟨name, present, rfl⟩ := List.mem_map.mp inside
    exact components name present

def climbing : Project where
  name := "../Läden"
  nodes := [{ id := "up", content := .endpoint { path := "/up", tags := ["../../UP"] } }]
  models := [{ name := "..", fields := [] }]

/-- Names that would lead up, and do not. -/
theorem climbing_placed :
    ∃ f ∈ climbing.compile.files, f.name = "src/repositories/unnamed.repository.ts" ∧
      (∀ part ∈ Path.segments f.name, IsComponent part) ∧
      Package.nameOf climbing.name = "l-den" ∧
      IsComponent (Package.nameOf climbing.name).toList := by
  obtain ⟨-, plain, folder⟩ := paths_apart climbing
  have named : (namedModels climbing).map (·.names.stem) = ["unnamed"] := by decide +kernel
  obtain ⟨n, modeled, stem⟩ := List.mem_map.mp (named ▸ List.mem_singleton_self _)
  have member := repository_mem climbing (Resolve.routes climbing)
    (OpenApi.Document.assemble climbing (Resolve.routes climbing)) modeled
  rw [stem] at member
  exact ⟨_, member, rfl, plain _ member, by decide +kernel, folder⟩

end Project

end ApiGraph
