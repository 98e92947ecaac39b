import ApiGraph.Proofs.Project.Migration

/-!
# Gaps of older endpoints

What migration makes of the fields of an endpoint, key by key (`lookup_migrate`): a key that is
missing gets its stand-in and every other key stays, but for the two that older endpoints had. So no
gap is left (`gaps_migrate`) and a second migration has nothing to do (`migrateNoting_migrate`).
-/

namespace ApiGraph.Project

open Json

variable {fields others done : List (String × Json)} {key : String}

theorem isMissing_congr (same : fields.lookup key = others.lookup key) :
    isMissing fields key = isMissing others key := by
  rw [isMissing, isMissing, same]

theorem lookup_fill_other {s : String × Json} (other : key ≠ s.1) :
    (fill done s).lookup key = done.lookup key := by
  unfold fill
  split
  · rw [lookup_setField, if_neg other]
  · rfl

/-- A key is filled in where it is missing, and stays as it is where it is not. -/
theorem lookup_foldl_fill {stand : List (String × Json)} (solid : ∀ s ∈ stand, s.2 ≠ .null)
    (done : List (String × Json)) (key : String) :
    (stand.foldl fill done).lookup key =
      if isMissing done key then (stand.lookup key).or (done.lookup key) else done.lookup key := by
  induction stand generalizing done with
  | nil => simp
  | cons s stand ih =>
    obtain ⟨here, later⟩ := List.forall_mem_cons.mp solid
    obtain ⟨k, v⟩ := s
    rw [List.foldl_cons, ih later, lookup_cons_eq]
    by_cases same : key = k
    · subst same
      rw [if_pos rfl, Option.some_or]
      by_cases missing : isMissing done key = true
      · -- what is filled in is not missing any more
        have filled : (fill done (key, v)).lookup key = some v := by
          rw [fill, if_pos missing, lookup_setField, if_pos rfl]
        rw [isMissing, filled, if_neg (by simpa using here), if_pos missing]
      · rw [fill, if_neg missing, if_neg missing, if_neg missing]
    · have stays : (fill done (k, v)).lookup key = done.lookup key := lookup_fill_other same
      rw [if_neg same, isMissing_congr stays, stays]

theorem standIns_solid (fields : List (String × Json)) : ∀ s ∈ standIns fields, s.2 ≠ .null := by
  intro s member
  simp only [standIns, List.mem_cons, List.not_mem_nil, or_false] at member
  rcases member with rfl | rfl | rfl | rfl | rfl | rfl | rfl | rfl | rfl | rfl | rfl <;> simp

def olderKeys : List String := ["statusCode", "responseSchema"]

theorem lookup_migrate (fields : List (String × Json)) (key : String) :
    (migrate fields).lookup key =
      if key ∈ olderKeys then none
      else if isMissing fields key then ((standIns fields).lookup key).or (fields.lookup key)
      else fields.lookup key := by
  rw [migrate_eq]
  by_cases schema : key = "responseSchema"
  · rw [schema, lookup_dropField_self, if_pos (by decide)]
  · rw [lookup_dropField schema]
    by_cases status : key = "statusCode"
    · rw [status, lookup_dropField_self, if_pos (by decide)]
    · have present : key ∉ olderKeys := by simp [olderKeys, schema, status]
      rw [lookup_dropField status, fillGaps, lookup_foldl_fill (standIns_solid fields),
        if_neg present]

/-- A key with a value keeps it. -/
theorem lookup_migrate_of_value {j : Json} (found : fields.lookup key = some j) (value : j ≠ .null)
    (present : key ∉ olderKeys) : (migrate fields).lookup key = some j := by
  have here : ¬ isMissing fields key = true := by simpa [isMissing, found] using value
  rw [lookup_migrate, if_neg present, if_neg here, found]

theorem standIns_keys (fields : List (String × Json)) :
    (standIns fields).map (·.1) = ["method", "path", "summary", "description", "tags",
      "deprecated", "auth", "pathParams", "queryParams", "bodySchema", "responses"] := rfl

theorem standIns_distinct (fields : List (String × Json)) :
    ((standIns fields).map (·.1)).Nodup := by
  rw [standIns_keys]
  decide

theorem gaps_migrate (fields : List (String × Json)) : gaps (migrate fields) = [] := by
  refine List.filter_eq_nil_iff.mpr fun key member => ?_
  rw [standIns_keys, ← standIns_keys fields] at member
  have present : key ∉ olderKeys := by
    have apart : ∀ k ∈ (standIns fields).map (·.1), k ∉ olderKeys := by
      rw [standIns_keys]
      decide
    exact apart key member
  rw [isMissing, lookup_migrate, if_neg present]
  by_cases missing : isMissing fields key = true
  · obtain ⟨s, listed, rfl⟩ := List.mem_map.mp member
    rw [if_pos missing, lookup_eq_some_of_mem (standIns_distinct fields) listed, Option.some_or]
    simpa using standIns_solid fields s listed
  · rw [if_neg missing]
    exact missing

theorem migrate_migrate (fields : List (String × Json)) :
    migrate (migrate fields) = migrate fields := by
  have absent : ∀ k ∈ olderKeys, k ∉ (migrate fields).map (·.1) := by
    intro k older member
    rw [migrate_eq] at member
    obtain ⟨f, kept, rfl⟩ := List.mem_map.mp member
    obtain ⟨inner, schema⟩ := List.mem_filter.mp kept
    have status := (List.mem_filter.mp inner).2
    rcases List.mem_pair.mp older with same | same
    · exact of_decide_eq_true status same
    · exact of_decide_eq_true schema same
  rw [migrate_eq, fillGaps_of_complete (gaps_migrate fields),
    dropField_of_absent (absent "statusCode" (by decide)),
    dropField_of_absent (absent "responseSchema" (by decide))]

/-- Stand-ins of different keys are noted exactly if one of the keys is missing at the start. -/
theorem foldl_fillNoting {stand : List (String × Json)} (distinct : (stand.map (·.1)).Nodup)
    (done : List (String × Json)) (changed : Bool) :
    stand.foldl fillNoting (done, changed) =
      (stand.foldl fill done, changed || stand.any fun s => isMissing done s.1) := by
  induction stand generalizing done changed with
  | nil => simp
  | cons s stand ih =>
    obtain ⟨fresh, rest⟩ := List.nodup_cons.mp distinct
    have later : (stand.any fun t => isMissing (fill done s) t.1) =
        stand.any fun t => isMissing done t.1 := by
      have each : ∀ t ∈ stand, isMissing (fill done s) t.1 = isMissing done t.1 := fun t member =>
        isMissing_congr (lookup_fill_other fun same =>
          fresh (List.mem_map.mpr ⟨t, member, same⟩))
      rw [Bool.eq_iff_iff, List.any_eq_true, List.any_eq_true]
      exact exists_congr fun t => and_congr_right fun member => by rw [each t member]
    rw [List.foldl_cons, fillNoting_eq, ih rest, later, List.foldl_cons, List.any_cons,
      Bool.or_assoc]

theorem migrateNoting_eq (fields : List (String × Json)) :
    migrateNoting fields = (migrate fields, decide (gaps fields ≠ [])) := by
  have noted : ((standIns fields).any fun s => isMissing fields s.1) =
      decide (gaps fields ≠ []) := by
    rw [gaps, List.filter_map]
    generalize standIns fields = stand
    rw [Bool.eq_iff_iff, decide_eq_true_iff, List.any_eq_true, Ne, List.map_eq_nil_iff,
      List.filter_eq_nil_iff]
    simp
  rw [migrateNoting, foldl_fillNoting (standIns_distinct fields), noted, Bool.false_or, migrate_eq,
    fillGaps]

theorem migrateNoting_migrate (fields : List (String × Json)) :
    migrateNoting (migrate fields) = (migrate fields, false) := by
  rw [migrateNoting_eq, migrate_migrate, gaps_migrate]
  rfl

theorem exists_migrateNoting_written (e : Endpoint) :
    ∃ written, e.toJson.normal = .obj written ∧ migrateNoting written = (written, false) := by
  obtain ⟨written, form, complete, same⟩ := exists_written_endpoint e
  refine ⟨written, form, ?_⟩
  rw [migrateNoting_eq, same, complete]
  rfl

end ApiGraph.Project
