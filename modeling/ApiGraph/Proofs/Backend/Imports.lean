import ApiGraph.Proofs.Backend.Plans
import ApiGraph.Proofs.Backend.Uses

namespace ApiGraph.Backend

open Source

theorem repository_binding {models : List Model} {m : NamedModel} (member : m ∈ nameModels models) :
    Handler.Binding m.names.repository where
  plain := repository_plain member
  notKeyword := not_mem_of_suffix (by decide) _
  notLocal := not_mem_of_suffix (by decide) _

namespace Router

/-- The name of a router is a binding, and ends like one. -/
structure Named (r : Router) : Prop where
  bound : Handler.Binding r.name
  ends : "outer".toList <:+ r.name.toList

/-- A name that is neither local to handlers nor one of a router. -/
structure Outside (name : String) : Prop where
  notLocal : name ∉ Handler.locals
  notRouter : ¬ "outer".toList <:+ name.toList

instance (name : String) : Decidable (Outside name) :=
  decidable_of_iff (name ∉ Handler.locals ∧ ¬ "outer".toList <:+ name.toList)
    ⟨fun ⟨notLocal, notRouter⟩ => ⟨notLocal, notRouter⟩, fun ⟨notLocal, notRouter⟩ =>
      ⟨notLocal, notRouter⟩⟩

theorem repository_outside {models : List Model} {m : NamedModel} (member : m ∈ nameModels models) :
    Outside m.names.repository where
  notLocal := (repository_binding member).notLocal
  notRouter := by
    intro ends
    have tail : "tory".toList <:+ m.names.repository.toList := by
      rw [ModelNames.repository, String.toList_append]
      exact (by decide : "tory".toList <:+ "Repository".toList).trans (List.suffix_append _ _)
    have last := List.suffix_of_suffix_length_le tail ends (by decide)
    exact absurd last (by decide)

theorem Named.ne_of_outside {r : Router} (named : r.Named) {name : String} (outside : Outside name) :
    name ≠ r.name := fun same => outside.notRouter (same ▸ named.ends)

theorem Outside.ne_express {name : String} (outside : Outside name) : name ≠ "Router" :=
  fun same => outside.notRouter (same ▸ by decide)

theorem nameOf_bound (stem : String) : Handler.Binding (nameOf stem) where
  plain := by
    rw [nameOf, String.toList_append]
    exact Naming.plain_append (Naming.identifier_plain stem) (by decide)
  notKeyword := not_mem_of_suffix (by decide) _
  notLocal := not_mem_of_suffix (by decide) _

theorem ends_nameOf (stem : String) : "outer".toList <:+ (nameOf stem).toList := by
  rw [nameOf, String.toList_append]
  exact (by decide : "outer".toList <:+ "Router".toList).trans (List.suffix_append _ _)

theorem named_of_mem {layout : Layout} {gs : List Registration} {r : Router}
    (member : r ∈ ofLayout layout gs) : r.Named := by
  cases layout with
  | minimal =>
    rw [List.mem_singleton.mp member]
    have router : Handler.Binding "router" := ⟨by decide, by decide, by decide⟩
    exact ⟨router, (by decide : "outer".toList <:+ "router".toList)⟩
  | rest =>
    obtain ⟨group, -, rfl⟩ := List.mem_map.mp member
    exact ⟨nameOf_bound group.1, ends_nameOf group.1⟩

end Router

namespace Handler

/-- An action on one record is planned only where the model has a key. -/
theorem keyed_of_action {engine : Engine} {m : Model} {r : Route} {q : Query} {action : Action}
    (planned : action? engine m r q = some action) (addresses : action.param?.isSome) :
    (recordKey engine m).isSome := by
  have keyed : ∀ {make : String → Action}, (addressed engine m r).map make = some action →
      (recordKey engine m).isSome := by
    intro make made
    obtain ⟨param, found, -⟩ := Option.map_eq_some_iff.mp made
    unfold addressed at found
    split at found
    · assumption
    · cases found
  unfold action? at planned
  split at planned
  · cases planned
    cases addresses
  · cases planned
    cases addresses
  · exact keyed planned
  · exact keyed planned
  · exact keyed planned

theorem method_offered {r : Repository} {action : Action}
    (keyed : action.param?.isSome → r.key.isSome) : action.method ∈ r.methods := by
  unfold Repository.methods
  cases action <;> simp only [Action.method, Action.param?] at keyed ⊢
  · split <;> decide
  · split <;> decide
  · rw [if_pos (keyed rfl)]
    decide
  · rw [if_pos (keyed rfl)]
    decide
  · rw [if_pos (keyed rfl)]
    decide

/-- A planned action is one that the repository of its model offers. -/
theorem exists_model {engine : Engine} {models : List NamedModel} {r : Route} {names : ModelNames}
    {model : String} {action : Action} {status : Nat}
    (planned : plan engine models r = .run names model action status) :
    ∃ m ∈ models, m.names = names ∧ action.method ∈ (Repository.ofModel engine m).methods := by
  have works : plan engine models r ≠ .stub := by
    rw [planned]
    exact nofun
  obtain ⟨q, m, chosen, -, present, -, possible, runs⟩ := exists_action_of_plan works
  rw [planned] at runs
  cases runs
  exact ⟨m, present, rfl, method_offered (keyed_of_action possible)⟩

end Handler

namespace Registration

/-- The handlers of registrations run on models that are named. -/
def Planned (models : List NamedModel) (gs : List Registration) : Prop :=
  ∀ g ∈ gs, ∀ names model action status, g.handler = .run names model action status →
    ∃ m ∈ models, m.names = names

theorem planned_registrations (engine : Engine) (models : List NamedModel) (routes : List Route) :
    Planned models (registrations engine models routes) := by
  intro g member names model action status handler
  obtain ⟨r, -, rfl⟩ := List.mem_map.mp member
  obtain ⟨m, present, same, -⟩ := Handler.exists_model handler
  exact ⟨m, present, same⟩

def repository? (g : Registration) : Option ModelNames :=
  match g.handler with
  | .stub => none
  | .run names .. => some names

theorem Planned.model {models : List NamedModel} {gs : List Registration} (planned : Planned models gs)
    {g : Registration} (present : g ∈ gs) {n : ModelNames} (found : g.repository? = some n) :
    ∃ m ∈ models, m.names = n := by
  unfold repository? at found
  split at found
  · cases found
  · rename_i calls
    cases found
    exact planned g present _ _ _ _ calls

theorem names_references (g : Registration) : g.references.map (·.name) = g.uses := by
  unfold references uses
  rw [List.map_append, List.map_map]
  congr 1
  cases g.handler with
  | stub => rfl
  | run names model action status =>
    simp only [Handler.references, Handler.uses]
    split <;> rfl

end Registration

namespace Router

/-! ### The code of a router -/

variable {models : List Model}

theorem references_declaration {name : String} (bound : Handler.Binding name) (exported : Bool) :
    (declaration exported name).lines.flatMap Source.references =
      [⟨name, none⟩, ⟨"Router", none⟩] := by
  have opens : Reads ((if exported then "export " else "") ++ "const" ++ " ") [] := by
    cases exported <;> decide
  have closes : Reads " = Router();" [⟨"Router", none⟩] := by decide
  have line := (opens.then (phrase_name bound.plain bound.notKeyword)).then closes (by decide)
  have begins : Begins ((if exported then "export " else "") ++ "const" ++ " ") := by
    cases exported <;> decide
  exact references_of_code (code_one line)
    (List.forall_mem_singleton.mpr ((begins.append name).append _))

theorem references_exportDefault {name : String} (bound : Handler.Binding name) :
    (Item.exportDefault name).lines.flatMap Source.references = [⟨name, none⟩] := by
  have opens : Reads "export default " [] := by decide
  have closes : Reads ";" [] := by decide
  have line := (opens.then (phrase_name bound.plain bound.notKeyword)).then closes (by decide)
  have begins : Begins ("export default " ++ name ++ ";") :=
    (Starts.append (by decide) name).append _
  exact references_of_code (code_one line) (List.forall_mem_singleton.mpr begins)

theorem references_toModule {r : Router} (bound : Handler.Binding r.name) :
    r.toModule.references =
      [⟨r.name, none⟩, ⟨"Router", none⟩] ++
        r.registrations.flatMap (fun g => (g.lines r.name).flatMap Source.references) ++
        if r.exported then [] else [⟨r.name, none⟩] := by
  have empty : Source.references "" = [] := by decide
  have gap : Item.gap.lines.flatMap Source.references = [] := by decide
  have registered : ∀ gs : List Registration,
      ((gs.flatMap fun g => [Item.gap, .code (g.lines r.name)]).flatMap Item.lines).flatMap
        Source.references = gs.flatMap fun g => (g.lines r.name).flatMap Source.references := by
    intro gs
    rw [List.flatMap_assoc, List.flatMap_assoc]
    refine List.flatMap_congr fun g _ => ?_
    simp [Item.lines, empty]
  have last : ((if r.exported then [] else [Item.gap, .exportDefault r.name]).flatMap
      Item.lines).flatMap Source.references = if r.exported then [] else [⟨r.name, none⟩] := by
    cases r.exported with
    | true => rfl
    | false =>
      show (Item.gap.lines ++ ((Item.exportDefault r.name).lines ++ [])).flatMap _ = _
      rw [List.append_nil, List.flatMap_append, references_exportDefault bound, gap]
      rfl
  show ((r.items ++ _).flatMap Item.lines).flatMap Source.references = _
  rw [List.flatMap_append, List.flatMap_append, last]
  congr 1
  rw [items, List.flatMap_cons, List.flatMap_cons, List.flatMap_append, List.flatMap_append,
    registered]
  show _ ++ ((declaration r.exported r.name).lines.flatMap Source.references ++ _) = _
  rw [references_declaration bound]
  rfl

/-- What the code of a router refers to, beside local names and its own, is what its registrations
refer to. -/
theorem mem_references_toModule {r : Router} (named : r.Named)
    (planned : Registration.Planned (nameModels models) r.registrations) {ref : Reference}
    (outside : Outside ref.name) :
    ref ∈ r.toModule.references ↔ ∃ g ∈ r.registrations, ref ∈ g.references := by
  have each : ∀ g ∈ r.registrations,
      (ref ∈ (g.lines r.name).flatMap Source.references ↔ ref ∈ g.references) := by
    intro g present
    have bindings : ∀ names model action status, g.handler = .run names model action status →
        Handler.Binding names.repository := by
      intro names model action status handler
      obtain ⟨m, member, rfl⟩ := planned g present names model action status handler
      exact repository_binding member
    have found := Registration.references_registration named.bound bindings
    have kept : ref ∈ (g.lines r.name).flatMap Source.references ↔
        ref ∈ Handler.outside ((g.lines r.name).flatMap Source.references) := by
      rw [Handler.outside, List.mem_filter]
      simp [outside.notLocal]
    rw [kept, found, List.mem_cons]
    refine or_iff_right fun same => named.ne_of_outside outside ?_
    rw [same]
  rw [references_toModule named.bound]
  have others : ref ∉ [⟨r.name, none⟩, ⟨"Router", none⟩] ∧
      ref ∉ if r.exported then [] else [⟨r.name, none⟩] := by
    have notOwn : ref ≠ ⟨r.name, none⟩ := fun same => named.ne_of_outside outside (same ▸ rfl)
    have notImported : ref ≠ ⟨"Router", none⟩ := fun same => outside.ne_express (same ▸ rfl)
    cases r.exported <;> simp [notOwn, notImported]
  rw [List.mem_append, List.mem_append, or_iff_left others.2, or_iff_right others.1,
    List.mem_flatMap]
  exact exists_congr fun g => and_congr_right (each g)

/-! ### The imports of a router -/

theorem bindings_someOf (names : List (String × Bool)) (source : String) :
    (someOf names source).flatMap (·.clause.bindings) = (names.filter (·.2)).map (·.1) := by
  unfold someOf
  split
  · rename_i none
    rw [none]
    rfl
  · simp [Source.values, Clause.bindings, Function.comp_def]

/-- The functions of the support modules, each with the registrations that call it. -/
def supports : List (String × (Registration → Bool)) :=
  [("json", fun g => g.route.method.hasBody),
   ("authenticate", fun g => g.route.access.isSome),
   ("requireRoles", fun g => g.route.access.any fun a => !a.roles.isEmpty),
   ("HttpError", fun g => g.handler.refuses),
   ("rateLimit", fun g => g.route.rateLimit.isSome),
   ("validateBody", fun g => g.route.validatesBody)]

theorem bindings_imports (gs : List Registration) :
    (imports gs).flatMap (·.clause.bindings) =
      "Router" :: (supports.filter fun s => gs.any s.2).map (·.1) ++
        (repositories gs).map (·.repository) := by
  have each (n : ModelNames) : (Source.values [n.repository]
      ("../repositories/" ++ n.stem ++ ".repository")).clause.bindings = [n.repository] := rfl
  simp only [imports, List.flatMap_append, bindings_someOf, List.flatMap_map, each,
    ← List.map_eq_flatMap]
  congr 1
  simp only [← List.map_append, ← List.filter_append, List.any_map]
  have whole : ((("Router", true) :: supports.map (fun s => (s.1, gs.any s.2))).filter
      (·.2)).map (·.1) = "Router" :: (supports.filter fun s => gs.any s.2).map (·.1) := by
    rw [List.filter_cons_of_pos rfl, List.map_cons, List.filter_map, List.map_map]
    rfl
  exact whole

theorem functions_chain (r : Route) :
    (Middleware.chain r).map Middleware.function =
      (if r.rateLimit.isSome then ["rateLimit"] else []) ++
        (if r.access.isSome then ["authenticate"] else []) ++
        (if r.access.any fun a => !a.roles.isEmpty then ["requireRoles"] else []) ++
        (if r.method.hasBody then ["json"] else []) ++
        (if r.validatesBody then ["validateBody"] else []) := by
  unfold Middleware.chain
  cases r.access with
  | none => cases r.rateLimit <;> cases r.method.hasBody <;> cases r.validatesBody <;> rfl
  | some a =>
    obtain ⟨scheme, roles, location, header⟩ := a
    cases roles <;> cases r.rateLimit <;> cases r.method.hasBody <;> cases r.validatesBody <;> rfl

theorem mem_uses_iff {g : Registration} {name : String} :
    name ∈ g.uses ↔ (∃ s ∈ supports, s.2 g = true ∧ s.1 = name) ∨
      ∃ n, g.repository? = some n ∧ n.repository = name := by
  have handler : name ∈ g.handler.uses ↔ (g.handler.refuses = true ∧ "HttpError" = name) ∨
      ∃ n, g.repository? = some n ∧ n.repository = name := by
    unfold Registration.repository?
    cases g.handler with
    | stub => simp [Handler.uses, Handler.refuses]
    | run names model action status =>
      cases action <;> simp [Handler.uses, Handler.refuses, Action.param?, eq_comm, or_comm]
  have one (flag : Bool) (function : String) :
      name ∈ (if flag then [function] else []) ↔ flag = true ∧ function = name := by
    cases flag <;> simp [eq_comm]
  rw [Registration.uses, List.mem_append, functions_chain, handler]
  simp only [supports, List.mem_append, one, List.exists_mem_cons_iff]
  simp only [List.not_mem_nil, false_and, exists_false, or_false]
  grind

theorem repositories_eq (gs : List Registration) :
    repositories gs = firstsBy ModelNames.stem (gs.filterMap Registration.repository?) := rfl

/-- The repositories of a router are those of its registrations. -/
theorem mem_repositories_iff {models : List Model} {gs : List Registration} {n : ModelNames}
    (planned : Registration.Planned (nameModels models) gs) :
    n ∈ repositories gs ↔ ∃ g ∈ gs, g.repository? = some n := by
  have model : ∀ {names}, names ∈ gs.filterMap Registration.repository? →
      ∃ m ∈ nameModels models, m.names = names := by
    intro names member
    obtain ⟨g, present, found⟩ := List.mem_filterMap.mp member
    exact planned.model present found
  rw [repositories_eq]
  constructor
  · intro kept
    exact List.mem_filterMap.mp (mem_of_mem_firstsBy kept)
  · rintro ⟨g, present, found⟩
    have member := List.mem_filterMap.mpr ⟨g, present, found⟩
    have stem : n.stem ∈ (firstsBy ModelNames.stem (gs.filterMap Registration.repository?)).map
        ModelNames.stem := mem_keys_firstsBy_iff.mpr (List.mem_map_of_mem member)
    obtain ⟨kept, inFirsts, same⟩ := List.mem_map.mp stem
    obtain ⟨a, inModels, rfl⟩ := model member
    obtain ⟨b, alsoModel, rfl⟩ := model (mem_of_mem_firstsBy inFirsts)
    have equal := List.inj_on_of_nodup_map (stems_nodup models) alsoModel inModels same
    exact equal ▸ inFirsts

/-- A router imports a name exactly when its code refers to it, unless the name is local or one of a
router. -/
theorem imported_iff_referred {models : List Model} {r : Router} (named : r.Named)
    (planned : Registration.Planned (nameModels models) r.registrations) {name : String}
    (outside : Outside name) :
    name ∈ r.toModule.imports.flatMap (·.clause.bindings) ↔
      ∃ ref ∈ r.toModule.references, ref.name = name := by
  have referred : (∃ ref ∈ r.toModule.references, ref.name = name) ↔
      ∃ g ∈ r.registrations, name ∈ g.uses := by
    constructor
    · rintro ⟨ref, member, rfl⟩
      obtain ⟨g, present, inside⟩ :=
        (mem_references_toModule named planned outside).mp member
      exact ⟨g, present, g.names_references ▸ List.mem_map_of_mem inside⟩
    · rintro ⟨g, present, uses⟩
      rw [← g.names_references] at uses
      obtain ⟨ref, inside, rfl⟩ := List.mem_map.mp uses
      exact ⟨ref, (mem_references_toModule named planned outside).mpr
        ⟨g, present, inside⟩, rfl⟩
  rw [referred]
  show name ∈ (imports r.registrations).flatMap _ ↔ _
  rw [bindings_imports]
  simp only [List.mem_append, List.mem_cons, List.mem_map, List.mem_filter, List.any_eq_true,
    mem_repositories_iff planned, mem_uses_iff]
  constructor
  · rintro ((own | ⟨s, ⟨listed, g, present, needs⟩, same⟩) | ⟨n, ⟨g, present, found⟩, same⟩)
    · exact absurd own outside.ne_express
    · exact ⟨g, present, Or.inl ⟨s, listed, needs, same⟩⟩
    · exact ⟨g, present, Or.inr ⟨n, found, same⟩⟩
  · rintro ⟨g, present, ⟨s, listed, needs, same⟩ | ⟨n, found, same⟩⟩
    · exact Or.inl (Or.inr ⟨s, ⟨listed, g, present, needs⟩, same⟩)
    · exact Or.inr ⟨n, ⟨g, present, found⟩, same⟩

end Router

end ApiGraph.Backend
