import Mathlib.Data.List.Nodup
import ApiGraph.Backend.Source
import ApiGraph.Proofs.Naming

/-!
# Resolution of imports

What a relative import means among the files of a project: the path behind its source, counted from
the folder of the importing file, with the extension of a module or as a folder with an index. Any
other import is of a package, or of the platform.
-/

namespace ApiGraph.Backend

open Text

namespace Source

/-- Whether a source is a path from the importing file. -/
def isRelative (source : String) : Bool := source.toList.head? = some '.'

/-- Whether a source is part of the platform. -/
def isPlatform (source : String) : Bool := "node:".toList.isPrefixOf source.toList

def parts (source : String) : List (List Char) := splitOn (· == '/') source.toList

/-- The package of a source: its first part, and the second one inside of a scope. -/
def packageOf (source : String) : String :=
  match parts source with
  | [] => ""
  | [name] => String.ofList name
  | first :: second :: _ =>
    if first.head? = some '@' then String.ofList (first ++ '/' :: second) else String.ofList first

/-- The path after one more part. -/
def walk (path : List String) (part : List Char) : List String :=
  if part = ['.'] then path
  else if part = ['.', '.'] then path.dropLast
  else path ++ [String.ofList part]

/-- The path of a source, counted from a folder. -/
def target (folder : List String) (source : String) : List String :=
  (parts source).foldl walk folder

def modulePath : List String → List String
  | [] => []
  | [name] => [name ++ ".ts"]
  | folder :: rest => folder :: modulePath rest

/-- The file that a source means in a file: a module, else the index of a folder. -/
def resolve (files : List File) (importer : File) (source : String) : Option File :=
  let path := target importer.path.dropLast source
  files.find? (·.path = modulePath path) <|> files.find? (·.path = path ++ ["index.ts"])

/-- An import finds a module that exports all it asks for. -/
def Import.Links (files : List File) (importer : File) (i : Import) : Prop :=
  ∃ file m, resolve files importer i.source = some file ∧ file.content = .source m ∧
    ∀ name ∈ i.clause.requested, name ∈ m.exports

/-- A name that is one part of a path. -/
structure Part (name : String) : Prop where
  noSlash : '/' ∉ name.toList
  notHere : name.toList ≠ ['.']
  notAbove : name.toList ≠ ['.', '.']

theorem Part.solid {name : String} (part : Part name) :
    ∀ c ∈ name.toList, (c == '/') = false := by
  intro c member
  refine beq_eq_false_iff_ne.mpr fun same => part.noSlash ?_
  exact same ▸ member

theorem walk_part {name : String} (part : Part name) (path : List String) :
    walk path name.toList = path ++ [name] := by
  rw [walk, if_neg part.notHere, if_neg part.notAbove, String.ofList_toList]

theorem target_here {name : String} (part : Part name) (folder : List String) :
    target folder ("./" ++ name) = folder ++ [name] := by
  have chars : ("./" ++ name).toList = ['.'] ++ '/' :: name.toList := by
    rw [String.toList_append]
    rfl
  rw [target, parts, chars, splitOn_solid_cons (by simp) rfl, splitOn_solid part.solid,
    List.foldl_cons, List.foldl_cons, walk_part part]
  rfl

theorem target_beside {sibling name : String} (beside : Part sibling) (part : Part name)
    (folder : List String) :
    target folder ("../" ++ sibling ++ "/" ++ name) = folder.dropLast ++ [sibling, name] := by
  have chars : ("../" ++ sibling ++ "/" ++ name).toList =
      ['.', '.'] ++ '/' :: (sibling.toList ++ '/' :: name.toList) := by
    simp [String.toList_append]
  rw [target, parts, chars, splitOn_solid_cons (by simp) rfl, splitOn_solid_cons beside.solid rfl,
    splitOn_solid part.solid, List.foldl_cons, List.foldl_cons, List.foldl_cons, walk_part beside,
    walk_part part, List.foldl_nil, List.append_assoc]
  rfl

/-- A stem with a long suffix is one part of a path. -/
theorem part_append {stem suffix : String} (clean : '/' ∉ stem.toList)
    (cleanSuffix : '/' ∉ suffix.toList) (long : 2 < suffix.toList.length) :
    Part (stem ++ suffix) := by
  have length : 2 < (stem ++ suffix).toList.length := by
    rw [String.toList_append, List.length_append]
    omega
  refine ⟨fun slash => ?_, fun here => ?_, fun above => ?_⟩
  · rw [String.toList_append] at slash
    exact (List.mem_append.mp slash).elim clean cleanSuffix
  · rw [here] at length
    exact absurd length (by decide)
  · rw [above] at length
    exact absurd length (by decide)

theorem modulePath_append (folder : List String) (name : String) :
    modulePath (folder ++ [name]) = folder ++ [name ++ ".ts"] := by
  induction folder with
  | nil => rfl
  | cons first rest ih =>
    obtain ⟨next, more, form⟩ := List.exists_cons_of_ne_nil (List.append_ne_nil_of_right_ne_nil rest
      (List.cons_ne_nil name []))
    rw [List.cons_append, List.cons_append, ← ih, form, modulePath]
    exact List.cons_ne_nil _ _

theorem path_here {stem kind last : String} (clean : '/' ∉ stem.toList) (plain : '/' ∉ kind.toList)
    (long : 2 < kind.toList.length) (ending : kind ++ ".ts" = last) (folder : List String) :
    modulePath (target folder ("./" ++ stem ++ kind)) = folder ++ [stem ++ last] := by
  rw [String.append_assoc, target_here (part_append clean plain long), modulePath_append,
    String.append_assoc, ending]

theorem path_beside {head sibling stem kind last : String} (beside : Part sibling)
    (leads : head = "../" ++ sibling ++ "/") (clean : '/' ∉ stem.toList)
    (plain : '/' ∉ kind.toList) (long : 2 < kind.toList.length) (ending : kind ++ ".ts" = last)
    (folder : List String) :
    modulePath (target folder (head ++ stem ++ kind)) =
      folder.dropLast ++ [sibling, stem ++ last] := by
  have path : folder.dropLast ++ [sibling, stem ++ kind] =
      folder.dropLast ++ [sibling] ++ [stem ++ kind] := by simp
  rw [leads, String.append_assoc, target_beside beside (part_append clean plain long), path,
    modulePath_append, String.append_assoc, ending, List.append_assoc]
  rfl

theorem find_path {files : List File} (distinct : (files.map (·.path)).Nodup) {f : File}
    (member : f ∈ files) : files.find? (·.path = f.path) = some f := by
  obtain ⟨g, found⟩ : ∃ g, files.find? (·.path = f.path) = some g :=
    Option.isSome_iff_exists.mp (List.find?_isSome.mpr ⟨f, member, by simp⟩)
  have same : g.path = f.path := by simpa using List.find?_some found
  rw [found, List.inj_on_of_nodup_map distinct (List.mem_of_find?_eq_some found) member same]

variable {files : List File} {importer : File} {folder path : List String} {i : Import} {m : Module}

theorem mem_of_resolve {source : String} {found : File}
    (resolved : resolve files importer source = some found) : found ∈ files :=
  (Option.or_eq_some_iff.mp (Option.orElse_eq_or.symm.trans resolved)).elim List.mem_of_find?_eq_some
    fun index => List.mem_of_find?_eq_some index.2

theorem resolve_of_mem {source : String} (distinct : (files.map (·.path)).Nodup)
    (place : importer.path.dropLast = folder) (member : File.ofModule path m ∈ files)
    (leads : modulePath (target folder source) = path) :
    resolve files importer source = some (File.ofModule path m) := by
  have found := find_path distinct member
  rw [resolve, place, leads]
  show (files.find? (·.path = path) <|> _) = _
  rw [show files.find? (·.path = path) = some (File.ofModule path m) from found]
  rfl

theorem links_of_mem (distinct : (files.map (·.path)).Nodup)
    (place : importer.path.dropLast = folder) (member : File.ofModule path m ∈ files)
    (leads : modulePath (target folder i.source) = path)
    (exported : ∀ name ∈ i.clause.requested, name ∈ m.exports) : i.Links files importer :=
  ⟨File.ofModule path m, m, resolve_of_mem distinct place member leads, rfl, exported⟩

/-- An import links to the index of a folder if there is no module of the same name. -/
theorem links_of_index (distinct : (files.map (·.path)).Nodup)
    (place : importer.path.dropLast = folder) (member : File.ofModule (path ++ ["index.ts"]) m ∈ files)
    (leads : target folder i.source = path)
    (noModule : modulePath path ∉ files.map (·.path))
    (exported : ∀ name ∈ i.clause.requested, name ∈ m.exports) : i.Links files importer := by
  refine ⟨File.ofModule (path ++ ["index.ts"]) m, m, ?_, rfl, exported⟩
  have found := find_path distinct member
  have missing : files.find? (·.path = modulePath path) = none := by
    refine List.find?_eq_none.mpr fun f present same => noModule ?_
    exact List.mem_map.mpr ⟨f, present, by simpa using same⟩
  rw [resolve, place, leads]
  show (files.find? (·.path = modulePath path) <|> _) = _
  rw [missing]
  exact found

end Source

end ApiGraph.Backend
