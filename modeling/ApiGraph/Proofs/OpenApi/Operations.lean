import ApiGraph.OpenApi.Document
import ApiGraph.Proofs.FirstUse

/-!
# Documented operations

The operations of a document are those of the kept routes: each of them stands there under
its key (`exists_entry`) and no key stands twice (`operationKeys_nodup`). Every route that is not
kept is reported (`operationCount_add_duplicates`).
-/

namespace ApiGraph.OpenApi.Document

theorem lowercase_injective : Function.Injective Method.lowercase := by
  intro a b same
  cases a <;> cases b <;> first | rfl | simp [Method.lowercase] at same

theorem entryKey_eq_iff {a b : Route} : entryKey a = entryKey b ↔ a.operationKey = b.operationKey := by
  simp only [entryKey, Route.operationKey, Prod.mk.injEq, lowercase_injective.eq_iff]
  exact and_comm

theorem documented_eq (routes : List Route) : documented routes = keptRoutes routes := by
  have injective : Function.Injective fun k : Method × String => (k.2, k.1.lowercase) := by
    intro a b same
    obtain ⟨paths, names⟩ := Prod.mk.inj same
    exact Prod.ext (lowercase_injective names) paths
  exact firstsBy_injective injective Route.operationKey routes

def entries (d : Document) : List ((Method × String) × Operation) :=
  d.paths.flatMap fun item => item.2.map fun o => ((o.1, item.1), o.2)

def operationKeys (d : Document) : List (Method × String) := d.entries.map (·.1)

theorem operationCount_eq (d : Document) : d.operationCount = d.operationKeys.length := by
  simp [operationCount, operationKeys, entries, List.length_flatMap]

/-- Gathering operations under their paths only reorders them. -/
theorem entries_pathsOf (ops : List (String × Method × Operation)) :
    ((pathsOf ops).flatMap fun item => item.2.map fun o => ((o.1, item.1), o.2)).Perm
      (ops.map fun o => ((o.2.1, o.1), o.2.2)) := by
  have gathered : ((pathsOf ops).flatMap fun item => item.2.map fun o => ((o.1, item.1), o.2)) =
      ((groupBy (·.1) ops).flatMap (·.2)).map fun o => ((o.2.1, o.1), o.2.2) := by
    rw [pathsOf, List.flatMap_map, List.map_flatMap]
    refine List.flatMap_congr fun g member => ?_
    rw [List.map_map]
    refine List.map_congr_left fun o present => ?_
    rw [mem_group member] at present
    simp [← of_decide_eq_true (List.mem_filter.mp present).2]
  rw [gathered]
  exact (groupBy_perm _ ops).map _

theorem operationIds_length (taken : List String) (routes : List Route) :
    (operationIds taken routes).length = routes.length := by
  induction routes generalizing taken with
  | nil => rfl
  | cons r rs ih => simp [operationIds, ih]

/-- No route is lost when the routes are paired with their ids. -/
theorem zip_operationIds (taken : List String) (routes : List Route) :
    (routes.zip (operationIds taken routes)).map (·.1) = routes :=
  List.map_fst_zip (Nat.le_of_eq (operationIds_length taken routes).symm)

theorem entries_assemble (p : Project) (routes : List Route) :
    (assemble p routes).entries.Perm
      (((keptRoutes routes).zip (operationIds [] (keptRoutes routes))).map fun r =>
        (r.1.operationKey, Operation.ofRoute p r.1 r.2)) := by
  refine (entries_pathsOf _).trans (List.Perm.of_eq ?_)
  simp [operations, documented_eq, Route.operationKey, Function.comp_def]

theorem operationKeys_assemble (p : Project) (routes : List Route) :
    (assemble p routes).operationKeys.Perm ((keptRoutes routes).map Route.operationKey) := by
  refine ((entries_assemble p routes).map (·.1)).trans (List.Perm.of_eq ?_)
  calc _ = (((keptRoutes routes).zip (operationIds [] (keptRoutes routes))).map (·.1)).map
        Route.operationKey := by simp
    _ = (keptRoutes routes).map Route.operationKey := by rw [zip_operationIds]

theorem operationKeys_nodup (p : Project) (routes : List Route) :
    (assemble p routes).operationKeys.Nodup :=
  (operationKeys_assemble p routes).nodup_iff.mpr firstsBy_keys_nodup

theorem paths_nodup (p : Project) (routes : List Route) :
    ((assemble p routes).paths.map (·.1)).Nodup := by
  have keys : (assemble p routes).paths.map (·.1) =
      (groupBy (·.1) (operations p routes)).map (·.1) := by simp [assemble, pathsOf]
  rw [keys, groupBy_keys]
  exact firsts_nodup _

theorem mem_operationKeys_iff (p : Project) (routes : List Route) (key : Method × String) :
    key ∈ (assemble p routes).operationKeys ↔ key ∈ routes.map Route.operationKey := by
  rw [(operationKeys_assemble p routes).mem_iff, keptRoutes, mem_keys_firstsBy_iff]

theorem exists_entry {p : Project} {routes : List Route} {r : Route}
    (kept : r ∈ keptRoutes routes) :
    ∃ id, (r.operationKey, Operation.ofRoute p r id) ∈ (assemble p routes).entries := by
  rw [← zip_operationIds [] (keptRoutes routes)] at kept
  obtain ⟨⟨_, id⟩, member, rfl⟩ := List.mem_map.mp kept
  exact ⟨id, (entries_assemble p routes).mem_iff.mpr (List.mem_map.mpr ⟨_, member, rfl⟩)⟩

/-- What stands under the key of a kept route documents that route. -/
theorem entry_ofRoute {p : Project} {routes : List Route} {r : Route} {o : Operation}
    (kept : r ∈ keptRoutes routes) (entry : (r.operationKey, o) ∈ (assemble p routes).entries) :
    ∃ id, o = .ofRoute p r id := by
  obtain ⟨⟨r', id⟩, member, same⟩ := List.mem_map.mp ((entries_assemble p routes).mem_iff.mp entry)
  obtain ⟨key, rfl⟩ := Prod.mk.inj same
  have equal : r' = r := eq_of_mem_firstsBy (List.of_mem_zip member).1 kept key
  exact ⟨id, equal ▸ rfl⟩

/-- Whether a warning reports a repeated operation. -/
def isDuplicate : Warning → Bool
  | .duplicateOperation .. => true
  | _ => false

def duplicateOf (x : Route × Route) : Warning :=
  .duplicateOperation x.2.method x.2.documentPath x.1.node x.2.node

theorem filter_note (found : List Warning) (node : String) (models : List String) :
    ((models.map (.unknownModel node)).foldl note found).filter isDuplicate =
      found.filter isDuplicate := by
  induction models generalizing found with
  | nil => rfl
  | cons m ms ih =>
    rw [List.map_cons, List.foldl_cons, ih, note]
    split
    · rfl
    · rw [List.filter_append]
      simp [isDuplicate]

/-- Every route that repeats one of the routes before is reported with the first such: the walk
only needs to remember the routes that it kept. -/
theorem filter_warningsFrom (p : Project) {kept before : List Route}
    (known : ∀ key, kept.find? (fun k => k.operationKey = key) =
      before.find? fun k => k.operationKey = key)
    (found : List Warning) (routes : List Route) :
    (warningsFrom p kept found routes).filter isDuplicate =
      found.filter isDuplicate ++
        (repeatsFrom Route.operationKey before routes).map duplicateOf := by
  induction routes generalizing kept before found with
  | nil => simp [warningsFrom, repeatsFrom]
  | cons r rs ih =>
    have keys : (entryKey · == entryKey r) = fun k => decide (k.operationKey = r.operationKey) := by
      funext k
      rw [Bool.eq_iff_iff, beq_iff_eq, decide_eq_true_iff, entryKey_eq_iff]
    rw [warningsFrom, repeatsFrom, keys, known]
    cases first : before.find? fun k => k.operationKey = r.operationKey with
    | some owner =>
      have known' : ∀ key, kept.find? (fun k => k.operationKey = key) =
          (before ++ [r]).find? fun k => k.operationKey = key := by
        intro key
        rw [known, List.find?_append]
        by_cases same : r.operationKey = key
        · rw [← same, first, Option.some_or]
        · simp [same]
      show (warningsFrom p kept (found ++ [duplicateOf (owner, r)]) rs).filter isDuplicate = _
      rw [ih known', List.filter_append, List.append_assoc]
      rfl
    | none =>
      have known' : ∀ key, (kept ++ [r]).find? (fun k => k.operationKey = key) =
          (before ++ [r]).find? fun k => k.operationKey = key := by
        intro key
        rw [List.find?_append, List.find?_append, known]
      show (warningsFrom p (kept ++ [r]) _ rs).filter isDuplicate = _
      rw [ih known', filter_note]
      rfl

/-- The repeated operations are reported in their order, and no others. -/
theorem filter_warnings (p : Project) (routes : List Route) :
    (warnings p routes).filter isDuplicate =
      (repeatsBy Route.operationKey routes).map duplicateOf :=
  filter_warningsFrom p (fun _ => rfl) [] routes

/-- Every route is documented or reported as a repetition. -/
theorem operationCount_add_duplicates (p : Project) (routes : List Route) :
    (assemble p routes).operationCount + (warnings p routes).countP isDuplicate = routes.length := by
  have count : (assemble p routes).operationCount = (keptRoutes routes).length := by
    rw [operationCount_eq, (operationKeys_assemble p routes).length_eq, List.length_map]
  have all := (firstsBy_append_repeatsBy Route.operationKey routes).length_eq
  rw [List.length_append, List.length_map] at all
  rw [count, List.countP_eq_length_filter, filter_warnings, List.length_map]
  exact all

end ApiGraph.OpenApi.Document
