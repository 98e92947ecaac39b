import Mathlib.Data.List.Nodup
import ApiGraph.Json.Value

namespace ApiGraph.Json

theorem lookup_cons_eq {α : Type} (key k : String) (v : α) (rest : List (String × α)) :
    ((key, v) :: rest).lookup k = if k = key then some v else rest.lookup k := by
  rw [List.lookup_cons]
  split
  · rename_i same
    rw [if_pos (eq_of_beq same)]
  · rename_i different
    rw [if_neg (ne_of_beq_false different)]

theorem lookup_eq_none_of_not_mem {α : Type} {fields : List (String × α)} {key : String}
    (absent : key ∉ fields.map (·.1)) : fields.lookup key = none := by
  rw [List.lookup_eq_none_iff]
  intro f member
  have different : f.1 ≠ key := fun same => absent (same ▸ List.mem_map_of_mem member)
  simpa using different.symm

theorem lookup_eq_some_of_mem {α : Type} {fields : List (String × α)} {f : String × α}
    (distinct : (fields.map (·.1)).Nodup) (member : f ∈ fields) :
    fields.lookup f.1 = some f.2 := by
  induction fields with
  | nil => cases member
  | cons g rest ih =>
    obtain ⟨key, v⟩ := g
    obtain ⟨fresh, others⟩ := List.nodup_cons.mp distinct
    rw [lookup_cons_eq]
    rcases List.mem_cons.mp member with rfl | later
    · rw [if_pos rfl]
    · have different : f.1 ≠ key := fun same =>
        fresh (List.mem_map.mpr ⟨f, later, same⟩)
      rw [if_neg different, ih others later]

theorem lookup_map_values {α β : Type} (g : α → β) (fields : List (String × α)) (key : String) :
    (fields.map fun f => (f.1, g f.2)).lookup key = (fields.lookup key).map g := by
  induction fields with
  | nil => rfl
  | cons f rest ih =>
    rw [List.map_cons, lookup_cons_eq, lookup_cons_eq, ih]
    split <;> rfl

theorem lookup_option {α β : Type} (o : Option α) (key k : String) (g : α → β) :
    ((o.map fun a => (k, g a)).toList).lookup key = if key = k then o.map g else none := by
  cases o with
  | none => simp
  | some a => exact lookup_cons_eq ..

theorem lookup_dropField {key k : String} {fields : List (String × Json)} (other : k ≠ key) :
    (dropField key fields).lookup k = fields.lookup k := by
  induction fields with
  | nil => rfl
  | cons f rest ih =>
    obtain ⟨l, v⟩ := f
    rw [lookup_cons_eq, ← ih]
    by_cases same : l = key
    · simp [dropField, same, other]
    · simp [dropField, same, lookup_cons_eq]

theorem lookup_dropField_self (key : String) (fields : List (String × Json)) :
    (dropField key fields).lookup key = none :=
  lookup_eq_none_of_not_mem fun member => by
    obtain ⟨f, kept, same⟩ := List.mem_map.mp member
    exact of_decide_eq_true (List.mem_filter.mp kept).2 same

def present (fields : List (String × Option Json)) : List (String × Json) :=
  fields.filterMap fun f => f.2.map fun v => (f.1, v)

theorem mem_keys_of_mem_present {fields : List (String × Option Json)} {key : String}
    (member : key ∈ (present fields).map (·.1)) : key ∈ fields.map (·.1) := by
  obtain ⟨f, found, rfl⟩ := List.mem_map.mp member
  obtain ⟨g, source, same⟩ := List.mem_filterMap.mp found
  obtain ⟨v, _, rfl⟩ := Option.map_eq_some_iff.mp same
  exact List.mem_map_of_mem source

theorem lookup_present {fields : List (String × Option Json)}
    (distinct : (fields.map (·.1)).Nodup) (key : String) :
    (present fields).lookup key = (fields.lookup key).join := by
  induction fields with
  | nil => rfl
  | cons f fields ih =>
    obtain ⟨k, v⟩ := f
    obtain ⟨fresh, others⟩ := List.nodup_cons.mp distinct
    rw [lookup_cons_eq]
    cases v with
    | none =>
      show (present fields).lookup key = _
      split
      · rename_i same
        exact lookup_eq_none_of_not_mem fun member => fresh (same ▸ mem_keys_of_mem_present member)
      · exact ih others
    | some v =>
      show ((k, v) :: present fields).lookup key = _
      rw [lookup_cons_eq]
      split
      · rfl
      · exact ih others

theorem present_keys_nodup {fields : List (String × Option Json)}
    (distinct : (fields.map (·.1)).Nodup) : ((present fields).map (·.1)).Nodup := by
  induction fields with
  | nil => exact distinct
  | cons f fields ih =>
    obtain ⟨k, v⟩ := f
    obtain ⟨fresh, others⟩ := List.nodup_cons.mp distinct
    cases v with
    | none => exact ih others
    | some v =>
      exact List.nodup_cons.mpr ⟨fun member => fresh (mem_keys_of_mem_present member), ih others⟩

/-- A record has under a key what was put there. -/
theorem get?_record {fields : List (String × Option Json)}
    (distinct : (fields.map (·.1)).Nodup) (key : String) :
    (record fields).get? key = (fields.lookup key).join :=
  lookup_present distinct key

end ApiGraph.Json
