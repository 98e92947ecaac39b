import ApiGraph.Backend.Router
import ApiGraph.Proofs.FirstUse
import ApiGraph.Proofs.Text.Literal

/-!
# Registrations in modules

The routes that a module registers, read off its lines: below a comment, a call of a method on a
router that the module declares, with the path as first argument. `registered_files` shows that a
layout only distributes the registrations over its files.
-/

namespace ApiGraph.Backend

namespace Source

def Module.routers (m : Module) : List String :=
  m.items.filterMap fun
    | .declare d => if d.rest = " = Router();" then some d.name else none
    | _ => none

/-- The method that a line calls on one of the routers. -/
def calledMethod? (routers : List String) (line : String) : Option Method :=
  Method.all.find? fun m => routers.any fun r => line == r ++ "." ++ m.lowercase ++ "("

/-- The text of a line that is a literal, and a comma behind it. -/
def argument? (line : String) : Option String :=
  match Text.unquote? (line.toList.dropWhile (· == ' ')) with
  | some (cs, [',']) => some (String.ofList cs)
  | _ => none

/-- The method and the path that an item registers. -/
def Item.registered? (routers : List String) : Item → Option (Method × String)
  | .code (_ :: call :: path :: _) => do
    return (← calledMethod? routers call, ← argument? path)
  | _ => none

/-- The lines of a module that declare nothing, item by item. -/
def Module.codes (m : Module) : List (List String) :=
  m.items.filterMap fun
    | .code lines => some lines
    | _ => none

def Module.registered (m : Module) : List (Method × String) :=
  m.items.filterMap (Item.registered? m.routers)

end Source

def File.registered (f : File) : List (Method × String) :=
  match f.content with
  | .source m => m.registered
  | .text _ => []

def File.registeredKeys (f : File) : List (Method × String) :=
  f.registered.map fun r => (r.1, Path.placeholders r.2)

namespace Source

theorem argument_quote (path : String) : argument? ("  " ++ (Text.quote path ++ ",")) = some path := by
  have blanks : ("  " ++ (Text.quote path ++ ",")).toList.dropWhile (· == ' ') =
      (Text.quote path).toList ++ [','] := by
    simp [String.toList_append, Text.quote, Text.quoteChars]
  rw [argument?, blanks, Text.unquote_quote]
  simp

theorem calledMethod_call (router : String) (m : Method) :
    calledMethod? [router] (router ++ "." ++ m.lowercase ++ "(") = some m := by
  cases m <;> simp [calledMethod?, Method.all, Method.lowercase, String.append_assoc]

theorem registered_lines (router : String) (g : Registration) :
    Item.registered? [router] (.code (g.lines router)) = some (g.route.method, g.route.path) := by
  simp only [Item.registered?, Registration.lines, indent, List.cons_append, List.nil_append,
    List.map_cons, calledMethod_call, argument_quote]
  rfl

end Source

namespace Router

theorem routers_toModule (r : Router) : r.toModule.routers = [r.name] := by
  have none : ∀ gs : List Registration, (gs.flatMap fun g =>
      [Source.Item.gap, .code (g.lines r.name)]).filterMap (fun
        | .declare d => if d.rest = " = Router();" then some d.name else none
        | _ => none) = [] := by
    intro gs
    induction gs with
    | nil => rfl
    | cons g gs ih => simpa using ih
  unfold Source.Module.routers toModule items declaration
  cases r.exported <;> simp [none]

theorem code_mem_items {r : Router} {g : Registration} (on : g ∈ r.registrations) :
    .code (g.lines r.name) ∈ r.toModule.items := by
  refine List.mem_append_left _ (List.mem_cons_of_mem _ (List.mem_cons_of_mem _ ?_))
  exact List.mem_flatMap.mpr ⟨g, on, List.mem_cons_of_mem _ (List.mem_singleton_self _)⟩

theorem codes_toModule (r : Router) :
    r.toModule.codes = r.registrations.map (Registration.lines r.name) := by
  have each : ∀ gs : List Registration, (gs.flatMap fun g =>
      [Source.Item.gap, .code (g.lines r.name)]).filterMap (fun
        | .code lines => some lines
        | _ => none) = gs.map (Registration.lines r.name) := by
    intro gs
    induction gs with
    | nil => rfl
    | cons g gs ih => simpa using ih
  unfold Source.Module.codes toModule items
  cases r.exported <;> simp [each]

theorem registered_toModule (r : Router) :
    r.toModule.registered = r.registrations.map fun g => (g.route.method, g.route.path) := by
  have each : ∀ gs : List Registration, (gs.flatMap fun g =>
      [Source.Item.gap, .code (g.lines r.name)]).filterMap (Source.Item.registered? [r.name]) =
        gs.map fun g => (g.route.method, g.route.path) := by
    intro gs
    induction gs with
    | nil => rfl
    | cons g gs ih =>
      rw [List.flatMap_cons, List.filterMap_append, ih, List.filterMap_cons_none rfl,
        List.filterMap_cons_some (Source.registered_lines r.name g), List.filterMap_nil]
      rfl
  have tail : (if r.exported then [] else [.gap, .exportDefault r.name]).filterMap
      (Source.Item.registered? [r.name]) = [] := by
    cases r.exported <;> rfl
  rw [Source.Module.registered, routers_toModule, toModule, items, List.filterMap_append, tail,
    List.filterMap_cons_none rfl, List.filterMap_cons_none rfl, each, List.append_nil]

theorem registered_index (stems : List String) : (index stems).registered = [] := by
  have use : ∀ s, Source.calledMethod? ["router"] ("router.use(" ++ nameOf s ++ ");") = none := by
    intro s
    rw [Source.calledMethod?, List.find?_eq_none]
    intro m _ called
    have same : "router.use(" ++ nameOf s ++ ");" = "router" ++ "." ++ m.lowercase ++ "(" := by
      simpa using called
    have chars := congrArg (fun t : String => t.toList.take 9) same
    cases m <;> simp [String.toList_append, Method.lowercase] at chars
  have uses : Source.Item.registered? ["router"]
      (.code (stems.map fun s => "router.use(" ++ nameOf s ++ ");")) = none := by
    match stems with
    | [] | [_] | [_, _] => rfl
    | _ :: s :: _ :: _ => simp only [List.map_cons, Source.Item.registered?, use]; rfl
  show List.filterMap (Source.Item.registered? ["router"]) _ = []
  rw [index, List.filterMap_cons_none rfl, List.filterMap_cons_none rfl,
    List.filterMap_cons_none uses, List.filterMap_cons_none rfl, List.filterMap_cons_none rfl,
    List.filterMap_nil]

/-- A layout distributes the registrations over its files and adds none. -/
theorem registered_files (layout : Layout) (gs : List Registration) :
    ((files layout gs).flatMap File.registered).Perm
      (gs.map fun g => (g.route.method, g.route.path)) := by
  cases layout with
  | minimal => simp [files, ofLayout, File.registered, File.ofModule, registered_toModule]
  | rest =>
    have routers : (files .rest gs).flatMap File.registered =
        ((groups gs).flatMap (·.2)).map fun g => (g.route.method, g.route.path) := by
      simp only [files, ofLayout, List.zip_map', List.map_map, List.flatMap_append,
        List.flatMap_map, List.map_flatMap]
      simp [File.registered, File.ofModule, registered_toModule, registered_index]
    rw [routers]
    exact (groupBy_perm stemOf gs).map _

theorem registeredKeys_files (layout : Layout) (gs : List Registration) :
    ((files layout gs).flatMap File.registeredKeys).Perm (gs.map (·.route.operationKey)) := by
  have keys := (registered_files layout gs).map fun r => (r.1, Path.placeholders r.2)
  rw [List.map_flatMap, List.map_map] at keys
  exact keys

/-- Every registration stands on the router of some file. -/
theorem exists_router (layout : Layout) {gs : List Registration} {g : Registration}
    (member : g ∈ gs) :
    ∃ r ∈ ofLayout layout gs, g ∈ r.registrations ∧
      ∃ path, File.ofModule path r.toModule ∈ files layout gs := by
  cases layout with
  | minimal =>
    exact ⟨_, List.mem_singleton_self _, member, _, List.mem_singleton_self _⟩
  | rest =>
    obtain ⟨group, grouped, _, on⟩ := exists_group stemOf member
    refine ⟨⟨nameOf group.1, true, group.2⟩, List.mem_map_of_mem grouped, on,
      ["src", "routes", group.1 ++ ".routes.ts"], List.mem_append_left _ ?_⟩
    simp only [ofLayout, List.zip_map', List.map_map]
    exact List.mem_map.mpr ⟨group, grouped, rfl⟩

theorem exists_registration {layout : Layout} {gs : List Registration} {g : Registration}
    (member : g ∈ gs) :
    ∃ f ∈ files layout gs, g.route.operationKey ∈ f.registeredKeys ∧
      ∃ m, f.content = .source m ∧ ∃ router ∈ m.routers, .code (g.lines router) ∈ m.items := by
  obtain ⟨r, -, on, path, file⟩ := exists_router _ member
  refine ⟨_, file, List.mem_map.mpr ⟨(g.route.method, g.route.path), ?_, rfl⟩, _, rfl, r.name,
    by simp [routers_toModule], code_mem_items on⟩
  show _ ∈ r.toModule.registered
  rw [registered_toModule]
  exact List.mem_map.mpr ⟨g, on, rfl⟩

end Router

end ApiGraph.Backend
