import ApiGraph.Proofs.Backend.Registrations
import ApiGraph.Proofs.Backend.RouteModules

/-!
# Serving

The registrations that a request meets, in order, when it enters at the index of the routes. The
index registers them itself, or it mounts the routers of other modules. So a request meets them in
the order of the routers (`served_files`).
-/

namespace ApiGraph.Backend

namespace Source

def Import.mountedBy (routers : List String) (line : String) (i : Import) : Bool :=
  i.clause.bindings.any fun name => routers.any fun r => line == r ++ ".use(" ++ name ++ ");"

/-- The imports whose routers the lines mount, in order. -/
def mountedFrom (routers : List String) : List Import → List String → List Import
  | _, [] => []
  | imports, line :: lines =>
    match imports.find? (·.mountedBy routers line) with
    | none => mountedFrom routers imports lines
    -- Stems may share the name of a router, so every line uses up an import.
    | some i => i :: mountedFrom routers (imports.erase i) lines

def Module.codeLines (m : Module) : List String :=
  m.items.flatMap fun
    | .code lines => lines
    | _ => []

theorem Module.codeLines_eq (m : Module) : m.codeLines = m.codes.flatten := by
  unfold codeLines codes
  induction m.items with
  | nil => rfl
  | cons item items ih => cases item <;> simp [ih]

def Module.mounted (m : Module) : List Import := mountedFrom m.routers m.imports m.codeLines

theorem mountedFrom_eq_nil {routers : List String} {imports : List Import} {lines : List String}
    (unmounted : ∀ line ∈ lines, ∀ i ∈ imports, i.mountedBy routers line = false) :
    mountedFrom routers imports lines = [] := by
  induction lines with
  | nil => rfl
  | cons line lines ih =>
    obtain ⟨here, later⟩ := List.forall_mem_cons.mp unmounted
    have missed : imports.find? (·.mountedBy routers line) = none :=
      List.find?_eq_none.mpr fun i member => by simp [here i member]
    rw [mountedFrom, missed]
    exact ih later

end Source

/-- What a request meets in a file, in order: what the file registers, then what the files register
whose routers it mounts. -/
def File.reached (files : List File) (f : File) : List (Method × String) :=
  match f.content with
  | .source m =>
    m.registered ++ m.mounted.flatMap fun i =>
      (Source.resolve files f i.source).toList.flatMap File.registered
  | .text _ => []

namespace Router

open Source

theorem lines_mount_nothing {g : Registration} {line : String} (member : line ∈ g.lines "router")
    (i : Import) : i.mountedBy ["router"] line = false := by
  -- A mount and a registration differ in the first letter of what they call.
  have other : line.toList.take 8 ≠ "router.u".toList := by
    simp only [Registration.lines, indent, List.cons_append, List.nil_append, List.mem_cons,
      List.mem_append, List.mem_map, List.not_mem_nil, or_false] at member
    rcases member with rfl | rfl | ⟨_, _, rfl⟩ | rfl
    · simp [Registration.comment, String.toList_append]
    · cases g.route.method <;> decide
    · simp [String.toList_append]
    · decide
  rw [Import.mountedBy, List.any_eq_false]
  intro name _ mounted
  refine other ?_
  have same : line = "router" ++ ".use(" ++ name ++ ");" := by simpa using mounted
  simp [same, String.toList_append]

theorem codeLines_toModule (r : Router) :
    r.toModule.codeLines = r.registrations.flatMap (·.lines r.name) := by
  rw [Module.codeLines_eq, codes_toModule, List.flatMap_def]

theorem mounted_single (gs : List Registration) :
    (Router.mk "router" false gs).toModule.mounted = [] := by
  rw [Module.mounted, routers_toModule, codeLines_toModule]
  refine mountedFrom_eq_nil fun line member i _ => ?_
  obtain ⟨g, _, inside⟩ := List.mem_flatMap.mp member
  exact lines_mount_nothing inside i

def importOf (stem : String) : Import := values [nameOf stem] ("./" ++ stem ++ ".routes")

theorem nameOf_ne_class (stem : String) : nameOf stem ≠ "Router" := by
  intro same
  have chars := congrArg String.toList same
  rw [nameOf, String.toList_append, List.append_left_eq_self] at chars
  have plain := Naming.identifier_plain stem
  rw [chars] at plain
  cases plain

theorem mountedBy_values (name bound source : String) :
    (values [bound] source).mountedBy ["router"] ("router.use(" ++ name ++ ");") =
      decide (name = bound) := by
  have same : "router.use(" ++ name ++ ");" = "router" ++ ".use(" ++ bound ++ ");" ↔
      name = bound := by
    rw [String.append_left_inj, show "router" ++ ".use(" = "router.use(" from rfl,
      String.append_right_inj]
  show List.any [bound] _ = _
  simp only [List.any_cons, List.any_nil, Bool.or_false, beq_eq_decide, same]

theorem mounted_index (stems : List String) : (index stems).mounted = stems.map importOf := by
  let base := values ["Router"] "express"
  let use := fun s => "router.use(" ++ nameOf s ++ ");"
  show mountedFrom ["router"] (base :: stems.map importOf) (stems.map use ++ []) = _
  rw [List.append_nil]
  induction stems with
  | nil => rfl
  | cons s stems ih =>
    have other : base.mountedBy ["router"] (use s) = false :=
      (mountedBy_values ..).trans (decide_eq_false (nameOf_ne_class s))
    have own : (importOf s).mountedBy ["router"] (use s) = true :=
      (mountedBy_values ..).trans (decide_eq_true rfl)
    have found : (base :: importOf s :: stems.map importOf).find?
        (·.mountedBy ["router"] (use s)) = some (importOf s) := by
      rw [List.find?_cons_of_neg (by simp [other]), List.find?_cons_of_pos own]
    have rest : (base :: importOf s :: stems.map importOf).erase (importOf s) =
        base :: stems.map importOf := by
      have different : (base == importOf s) = false := by
        refine beq_eq_false_iff_ne.mpr fun same => ?_
        rw [same, own] at other
        cases other
      rw [List.erase_cons_tail (by simp [different]), List.erase_cons_head]
    rw [List.map_cons, List.map_cons, mountedFrom, found]
    show importOf s :: mountedFrom ["router"] (List.erase _ (importOf s)) (stems.map use) = _
    rw [rest, ih]

def arranged (layout : Layout) (gs : List Registration) : List Registration :=
  (ofLayout layout gs).flatMap (·.registrations)

theorem arranged_minimal (gs : List Registration) : arranged .minimal gs = gs := by
  simp [arranged, ofLayout]

theorem arranged_rest (gs : List Registration) :
    arranged .rest gs = (groups gs).flatMap (·.2) := by
  simp [arranged, ofLayout, List.flatMap_map]

end Router

/-- What a request meets, in order, that enters at the index of the routes. -/
def served (files : List File) : List (Method × String) :=
  ((files.find? (·.path = Router.indexPath)).map (File.reached files)).getD []

section

variable {p : Project} {routes : List Route} {document : OpenApi.Document}

open Source Router

theorem registered_importOf (rest : p.settings.layout = .rest)
    {group : String × List Registration}
    (grouped : group ∈ groups (registrations p.settings.engine (namedModels p) routes))
    {importer : File} (folder : importer.path.dropLast = ["src", "routes"]) :
    (resolve (files p routes document) importer (importOf group.1).source).toList.flatMap
        File.registered = group.2.map fun g => (g.route.method, g.route.path) := by
  have member := router_mem p routes document rest grouped
  have found : resolve (files p routes document) importer (importOf group.1).source = some _ :=
    resolve_of_mem (paths_nodup p routes document) folder member
      (path_here (stem_clean (List.mem_map_of_mem grouped)) (by decide) (by decide) (by decide) _)
  rw [found]
  show [File.ofModule _ _].flatMap File.registered = _
  rw [List.flatMap_singleton]
  exact registered_toModule _

/-- A request meets the registrations in the order of the layout. -/
theorem served_files (p : Project) (routes : List Route) (document : OpenApi.Document) :
    served (files p routes document) =
      (arranged p.settings.layout
        (registrations p.settings.engine (namedModels p) routes)).map
          fun g => (g.route.method, g.route.path) := by
  have reach : ∀ {m : Module}, File.ofModule indexPath m ∈ files p routes document →
      served (files p routes document) =
        (File.ofModule indexPath m).reached (files p routes document) := by
    intro m member
    have found : (files p routes document).find? (·.path = indexPath) =
        some (File.ofModule indexPath m) := find_path (paths_nodup p routes document) member
    rw [served, found]
    rfl
  have listed := fun f => @mem_files_routers p routes document f
  cases layout : p.settings.layout with
  | minimal =>
    rw [layout] at listed
    rw [reach (listed _ (List.mem_singleton_self _)), arranged_minimal]
    show Module.registered _ ++ (Module.mounted _).flatMap _ = _
    rw [mounted_single, registered_toModule, List.flatMap_nil, List.append_nil]
  | rest =>
    rw [layout] at listed
    rw [reach (listed _ (List.mem_append_right _ (List.mem_singleton_self _))), arranged_rest]
    show Module.registered _ ++ (Module.mounted _).flatMap _ = _
    rw [registered_index, mounted_index, List.nil_append, List.map_map, List.flatMap_map,
      List.map_flatMap]
    exact List.flatMap_congr fun group grouped => registered_importOf layout grouped rfl

end

end ApiGraph.Backend
