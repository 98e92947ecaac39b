import ApiGraph.Proofs.OpenApi.OperationIds

/-!
# Documents of more routes

What is documented stays as it is when routes are added behind the others: every path keeps its
place and its operations, new operations come after them (`getElem?_paths_append`), and new findings
come after the old ones (`prefix_warnings`). `document_extended` puts this together.
-/

namespace ApiGraph.OpenApi.Document

theorem prefix_note (found : List Warning) (w : Warning) : found <+: note found w := by
  unfold note
  split
  · exact List.prefix_refl found
  · exact List.prefix_append found [w]

theorem prefix_foldl_note (found ws : List Warning) : found <+: ws.foldl note found := by
  induction ws generalizing found with
  | nil => exact List.prefix_refl found
  | cons w ws ih => exact (prefix_note found w).trans (ih (note found w))

/-- The walk over routes takes no finding back. -/
theorem prefix_warningsFrom (p : Project) (kept : List Route) (found : List Warning)
    (routes : List Route) : found <+: warningsFrom p kept found routes := by
  induction routes generalizing kept found with
  | nil => exact List.prefix_refl found
  | cons r routes ih =>
    rw [warningsFrom]
    split
    · exact (List.prefix_append found _).trans (ih _ _)
    · exact (prefix_foldl_note found _).trans (ih _ _)

/-- The walk over more routes goes on from where it was. -/
theorem exists_warningsFrom_append (p : Project) (kept : List Route) (found : List Warning)
    (routes more : List Route) : ∃ known, warningsFrom p kept found (routes ++ more) =
      warningsFrom p known (warningsFrom p kept found routes) more := by
  induction routes generalizing kept found with
  | nil => exact ⟨kept, rfl⟩
  | cons r routes ih =>
    rw [List.cons_append, warningsFrom, warningsFrom]
    split
    · exact ih _ _
    · exact ih _ _

theorem prefix_warnings (p : Project) (routes more : List Route) :
    warnings p routes <+: warnings p (routes ++ more) := by
  obtain ⟨known, goesOn⟩ := exists_warningsFrom_append p [] [] routes more
  rw [warnings, warnings, goesOn]
  exact prefix_warningsFrom p known _ more

theorem prefix_documented (routes more : List Route) :
    documented routes <+: documented (routes ++ more) :=
  prefix_firstsBy (List.prefix_append routes more)

/-- An operation keeps its id, and all else that it says. -/
theorem prefix_operations (p : Project) (routes more : List Route) :
    operations p routes <+: operations p (routes ++ more) := by
  obtain ⟨new, kept⟩ := prefix_documented routes more
  have sizes := operationIds_length [] (documented routes)
  rw [operations, operations, ← kept, operationIds_append, List.zip_append sizes.symm,
    List.map_append]
  exact List.prefix_append _ _

/-- A path keeps its place and its operations; new ones come after them. -/
theorem getElem?_paths_append {p : Project} {routes : List Route} {i : Nat} {path : String}
    {ops : List (Method × Operation)} (here : (assemble p routes).paths[i]? = some (path, ops))
    (more : List Route) :
    ∃ new, (assemble p (routes ++ more)).paths[i]? = some (path, ops ++ new) := by
  obtain ⟨later, all⟩ := prefix_operations p routes more
  obtain ⟨g, group, same⟩ := Option.map_eq_some_iff.mp (List.getElem?_map.symm.trans here)
  obtain ⟨rfl, rfl⟩ := Prod.mk.inj same
  have stays := getElem?_groupBy_append group later
  refine ⟨(later.filter fun o => o.1 = g.1).map (·.2), ?_⟩
  show (pathsOf (operations p (routes ++ more)))[i]? = _
  rw [← all, pathsOf, List.getElem?_map, stays, Option.map_some, List.map_append]

theorem mem_entries_append {p : Project} {routes : List Route} {e : (Method × String) × Operation}
    (present : e ∈ (assemble p routes).entries) (more : List Route) :
    e ∈ (assemble p (routes ++ more)).entries := by
  obtain ⟨⟨path, ops⟩, item, inside⟩ := List.mem_flatMap.mp present
  obtain ⟨i, here⟩ := List.mem_iff_getElem?.mp item
  obtain ⟨new, stays⟩ := getElem?_paths_append here more
  refine List.mem_flatMap.mpr ⟨(path, ops ++ new), List.mem_iff_getElem?.mpr ⟨i, stays⟩, ?_⟩
  rw [List.map_append]
  exact List.mem_append_left _ inside

theorem prefix_paths (p : Project) (routes more : List Route) :
    (assemble p routes).paths.map (·.1) <+: (assemble p (routes ++ more)).paths.map (·.1) := by
  rw [List.prefix_iff_getElem?]
  intro i inRange
  rw [List.length_map] at inRange
  obtain ⟨new, stays⟩ := getElem?_paths_append (List.getElem?_eq_getElem inRange) more
  rw [List.getElem?_map, stays, List.getElem_map]
  rfl

theorem prefix_tags (p : Project) (routes more : List Route) :
    (assemble p routes).tags <+: (assemble p (routes ++ more)).tags := by
  obtain ⟨new, kept⟩ := prefix_documented routes more
  refine prefix_firsts ⟨new.flatMap (·.tags), ?_⟩
  rw [← kept, List.flatMap_append]

theorem tags_operations (p : Project) (routes : List Route) :
    (operations p routes).flatMap (·.2.2.tags) = (documented routes).flatMap (·.tags) := by
  conv_rhs => rw [← zip_operationIds [] (documented routes)]
  rw [operations, List.flatMap_map, List.flatMap_map]
  rfl

theorem tags_assemble (p : Project) (routes : List Route) :
    FirstUses ((operations p routes).flatMap (·.2.2.tags)) (assemble p routes).tags :=
  tags_operations p routes ▸ firstUses_firsts _

/-- A document of more routes has all that the document of the first of them has. Every path keeps
its place, with the same operations and new ones after them; new paths, tags and warnings come after
the others. The tags are those of the kept operations, in the order of their first use. -/
theorem document_extended (p : Project) (routes more : List Route) :
    let d := assemble p routes
    let longer := assemble p (routes ++ more)
    (∀ e ∈ d.entries, e ∈ longer.entries) ∧
      (∀ (i : Nat) (path : String) (ops : List (Method × Operation)),
        d.paths[i]? = some (path, ops) → ∃ new, longer.paths[i]? = some (path, ops ++ new)) ∧
      d.paths.map (·.1) <+: longer.paths.map (·.1) ∧
      d.tags <+: longer.tags ∧
      FirstUses ((operations p routes).flatMap (·.2.2.tags)) d.tags ∧
      warnings p routes <+: warnings p (routes ++ more) :=
  ⟨fun _ present => mem_entries_append present more,
    fun _ _ _ here => getElem?_paths_append here more, prefix_paths p routes more,
    prefix_tags p routes more, tags_assemble p routes, prefix_warnings p routes more⟩

/-- The operation that a new method of a documented path adds. -/
theorem itemRoutes_extended :
    let posted := Resolve.route "/api" "post" { method := .post, path := "/items" }
      { databases := [], gates := [] }
    let d := assemble {} itemRoutes
    let longer := assemble {} (itemRoutes ++ [posted])
    ∃ ops new, d.paths[0]? = some ("/api/items", ops) ∧ ops.map (·.1) = [.get] ∧
      longer.paths[0]? = some ("/api/items", ops ++ new) ∧ new.map (·.1) = [.post] := by
  intro posted d longer
  have first : d.paths[0]?.map (fun item => (item.1, item.2.map (·.1))) =
      some ("/api/items", [.get]) := by decide +kernel
  have both : longer.paths[0]?.map (·.2.map (·.1)) = some [.get, .post] := by decide +kernel
  obtain ⟨⟨path, ops⟩, here, same⟩ := Option.map_eq_some_iff.mp first
  obtain ⟨rfl, methods⟩ := Prod.mk.inj same
  obtain ⟨new, stays⟩ := (document_extended {} itemRoutes [posted]).2.1 0 _ ops here
  rw [stays, Option.map_some, List.map_append, methods] at both
  exact ⟨ops, new, here, methods, stays, (List.cons.inj (Option.some.inj both)).2⟩

end ApiGraph.OpenApi.Document
