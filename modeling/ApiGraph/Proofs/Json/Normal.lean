import Mathlib.Algebra.Group.Int.Defs
import Mathlib.Data.List.Induction
import Mathlib.Data.String.Basic
import ApiGraph.Proofs.Json.Record

/-!
# Values as they are read

A text is read into a value whose dictionaries have ascending keys and whose integers are in machine
range (`Sound`). `normal` is the value that the text of a value spells; it changes no sound one
(`Sound.normal_eq`).
-/

namespace ApiGraph.Json

/-- Induction over the nesting of a value. -/
theorem nested {P : Json → Prop} (null : P .null) (bool : ∀ b, P (.bool b)) (num : ∀ n, P (.num n))
    (str : ∀ s, P (.str s)) (arr : ∀ items, (∀ j ∈ items, P j) → P (.arr items))
    (obj : ∀ fields : List (String × Json), (∀ f ∈ fields, P f.2) → P (.obj fields)) (j : Json) :
    P j := by
  cases j with
  | null => exact null
  | bool b => exact bool b
  | num n => exact num n
  | str s => exact str s
  | arr items => exact arr items fun j _ => nested null bool num str arr obj j
  | obj fields => exact obj fields fun f _ => nested null bool num str arr obj f.2
termination_by sizeOf j
decreasing_by
  · have := List.sizeOf_lt_of_mem ‹_›
    simp only [Json.arr.sizeOf_spec]
    omega
  · have := List.sizeOf_lt_of_mem ‹_›
    obtain ⟨k, v⟩ := f
    simp only [Json.obj.sizeOf_spec, Prod.mk.sizeOf_spec] at *
    omega

def Ascending {α : Type} (fields : List (String × α)) : Prop := fields.Pairwise (·.1 < ·.1)

instance {α : Type} {fields : List (String × α)} : Decidable (Ascending fields) :=
  inferInstanceAs (Decidable (fields.Pairwise (·.1 < ·.1)))

theorem Ascending.nodup {α : Type} {fields : List (String × α)} (ascending : Ascending fields) :
    (fields.map (·.1)).Nodup := by
  rw [List.nodup_iff_pairwise_ne, List.pairwise_map]
  exact ascending.imp fun less => ne_of_lt less

theorem mem_of_mem_setField {key : String} {value : Json} {fields : List (String × Json)}
    {f : String × Json} (member : f ∈ setField key value fields) :
    f = (key, value) ∨ f ∈ fields := by
  induction fields with
  | nil => exact Or.inl (List.mem_singleton.mp member)
  | cons g rest ih =>
    unfold setField at member
    split at member
    · rcases List.mem_cons.mp member with rfl | later
      · exact Or.inl rfl
      · exact Or.inr (List.mem_cons_of_mem _ later)
    · split at member
      · exact List.mem_cons.mp member
      · rcases List.mem_cons.mp member with rfl | later
        · exact Or.inr List.mem_cons_self
        · exact (ih later).imp id (List.mem_cons_of_mem _)

theorem Ascending.setField {fields : List (String × Json)} (ascending : Ascending fields)
    (key : String) (value : Json) : Ascending (setField key value fields) := by
  induction fields with
  | nil => exact List.pairwise_singleton _ _
  | cons g rest ih =>
    obtain ⟨least, ordered⟩ := List.pairwise_cons.mp ascending
    unfold Json.setField
    split
    · rename_i same
      subst same
      exact List.pairwise_cons.mpr ⟨least, ordered⟩
    · split
      · rename_i less
        refine List.pairwise_cons.mpr ⟨fun f member => ?_, ascending⟩
        rcases List.mem_cons.mp member with rfl | later
        · exact less
        · exact lt_trans less (least f later)
      · rename_i different notLess
        refine List.pairwise_cons.mpr ⟨fun f member => ?_, ih ordered⟩
        rcases mem_of_mem_setField member with rfl | later
        · exact lt_of_le_of_ne (not_lt.mp notLess) (Ne.symm different)
        · exact least f later

/-- A key beyond all others is put at the end. -/
theorem setField_of_greatest {key : String} {value : Json} {fields : List (String × Json)}
    (greatest : ∀ f ∈ fields, f.1 < key) :
    setField key value fields = fields ++ [(key, value)] := by
  induction fields with
  | nil => rfl
  | cons g rest ih =>
    have less := greatest g List.mem_cons_self
    rw [setField, if_neg (ne_of_gt less), if_neg (not_lt_of_gt less),
      ih fun f member => greatest f (List.mem_cons_of_mem _ member)]
    rfl

theorem lookup_setField (key k : String) (value : Json) (fields : List (String × Json)) :
    (setField key value fields).lookup k = if k = key then some value else fields.lookup k := by
  induction fields with
  | nil => exact lookup_cons_eq key k value []
  | cons g rest ih =>
    obtain ⟨l, v⟩ := g
    unfold setField
    split
    · rename_i same
      subst same
      simp only [lookup_cons_eq]
      split <;> rfl
    · rename_i different
      split
      · rw [lookup_cons_eq]
      · simp only [lookup_cons_eq, ih]
        by_cases equal : k = l
        · simp [equal, Ne.symm different]
        · simp [equal]

theorem sortFields_append (fields : List (String × Json)) (f : String × Json) :
    sortFields (fields ++ [f]) = setField f.1 f.2 (sortFields fields) := by
  rw [sortFields, List.foldl_append]
  rfl

theorem sortFields_ascending (fields : List (String × Json)) : Ascending (sortFields fields) := by
  induction fields using List.reverseRecOn with
  | nil => exact List.Pairwise.nil
  | append_singleton fields f ih =>
    rw [sortFields_append]
    exact ih.setField _ _

theorem mem_of_mem_sortFields {fields : List (String × Json)} {f : String × Json}
    (member : f ∈ sortFields fields) : f ∈ fields := by
  induction fields using List.reverseRecOn with
  | nil => exact member
  | append_singleton fields g ih =>
    rw [sortFields_append] at member
    rcases mem_of_mem_setField member with rfl | earlier
    · exact List.mem_append_right _ (List.mem_singleton.mpr rfl)
    · exact List.mem_append_left _ (ih earlier)

theorem sortFields_of_ascending {fields : List (String × Json)} (ascending : Ascending fields) :
    sortFields fields = fields := by
  induction fields using List.reverseRecOn with
  | nil => rfl
  | append_singleton fields f ih =>
    obtain ⟨ordered, -, greatest⟩ := List.pairwise_append.mp ascending
    rw [sortFields_append, ih ordered,
      setField_of_greatest fun g member => greatest g member f (List.mem_singleton.mpr rfl)]

/-- Sorting moves no value to another key. -/
theorem lookup_sortFields {fields : List (String × Json)} (distinct : (fields.map (·.1)).Nodup)
    (key : String) : (sortFields fields).lookup key = fields.lookup key := by
  induction fields using List.reverseRecOn with
  | nil => rfl
  | append_singleton fields f ih =>
    rw [List.map_append, List.nodup_append] at distinct
    obtain ⟨distinct, -, fresh⟩ := distinct
    rw [sortFields_append, lookup_setField, ih distinct, List.lookup_append]
    split
    · rename_i same
      subst same
      have absent : f.1 ∉ fields.map (·.1) := fun member =>
        fresh f.1 member f.1 (List.mem_singleton.mpr rfl) rfl
      rw [lookup_eq_none_of_not_mem absent, lookup_cons_eq, if_pos rfl]
      rfl
    · rename_i different
      rw [lookup_cons_eq, if_neg different]
      exact Option.or_none.symm

mutual

/-- The value that the text of a value spells: its dictionaries are in order. -/
def normal : Json → Json
  | .arr items => .arr (normalItems items)
  | .obj fields => .obj (sortFields (normalFields fields))
  | j => j

def normalItems : List Json → List Json
  | [] => []
  | j :: rest => normal j :: normalItems rest

def normalFields : List (String × Json) → List (String × Json)
  | [] => []
  | (key, j) :: rest => (key, normal j) :: normalFields rest

end

theorem normalItems_eq (items : List Json) : normalItems items = items.map normal := by
  induction items with
  | nil => rfl
  | cons j rest ih => rw [normalItems, ih, List.map_cons]

theorem normalFields_eq (fields : List (String × Json)) :
    normalFields fields = fields.map fun f => (f.1, f.2.normal) := by
  induction fields with
  | nil => rfl
  | cons f rest ih => rw [normalFields, ih, List.map_cons]

theorem normal_arr (items : List Json) : (Json.arr items).normal = .arr (items.map normal) := by
  rw [normal, normalItems_eq]

theorem normal_obj (fields : List (String × Json)) :
    (Json.obj fields).normal = .obj (sortFields (fields.map fun f => (f.1, f.2.normal))) := by
  rw [normal, normalFields_eq]

def normalRecord (fields : List (String × Option Json)) : List (String × Json) :=
  sortFields ((present fields).map fun f => (f.1, f.2.normal))

theorem normal_record (fields : List (String × Option Json)) :
    (record fields).normal = .obj (normalRecord fields) := normal_obj _

theorem mem_keys_of_mem_normalRecord {fields : List (String × Option Json)} {key : String}
    (member : key ∈ (normalRecord fields).map (·.1)) : key ∈ fields.map (·.1) := by
  obtain ⟨f, sorted, rfl⟩ := List.mem_map.mp member
  obtain ⟨g, source, rfl⟩ := List.mem_map.mp (mem_of_mem_sortFields sorted)
  exact mem_keys_of_mem_present (List.mem_map.mpr ⟨g, source, rfl⟩)

theorem lookup_normalRecord {fields : List (String × Option Json)}
    (distinct : (fields.map (·.1)).Nodup) (key : String) :
    (normalRecord fields).lookup key = (fields.lookup key).join.map normal := by
  have same : ((present fields).map fun f => (f.1, f.2.normal)).map (·.1) =
      (present fields).map (·.1) := by
    rw [List.map_map]
    rfl
  rw [normalRecord, lookup_sortFields (same ▸ present_keys_nodup distinct), lookup_map_values,
    lookup_present distinct]

/-- What was read under a key of a record was put there. -/
theorem written_of_lookup_normalRecord {fields : List (String × Option Json)} {key : String}
    {v : Json} (found : (normalRecord fields).lookup key = some v)
    (distinct : (fields.map (·.1)).Nodup) : (fields.lookup key).join.map normal = some v :=
  (lookup_normalRecord distinct key).symm.trans found

/-- An integer is in the range of a machine word, signed or not. -/
def Number.InRange : Number → Prop
  | .int n => -2 ^ 63 ≤ n ∧ n < 2 ^ 64
  | .float _ => True

/-- A value whose text is read: its integers are in machine range. -/
inductive Legible : Json → Prop
  | null : Legible .null
  | bool (b : Bool) : Legible (.bool b)
  | num {n : Number} (inRange : n.InRange) : Legible (.num n)
  | str (s : String) : Legible (.str s)
  | arr {items : List Json} (each : ∀ j ∈ items, Legible j) : Legible (.arr items)
  | obj {fields : List (String × Json)} (each : ∀ f ∈ fields, Legible f.2) : Legible (.obj fields)

/-- A value as it is read: legible, and with ascending keys. -/
inductive Sound : Json → Prop
  | null : Sound .null
  | bool (b : Bool) : Sound (.bool b)
  | num {n : Number} (inRange : n.InRange) : Sound (.num n)
  | str (s : String) : Sound (.str s)
  | arr {items : List Json} (each : ∀ j ∈ items, Sound j) : Sound (.arr items)
  | obj {fields : List (String × Json)} (each : ∀ f ∈ fields, Sound f.2)
    (ascending : Ascending fields) : Sound (.obj fields)

namespace Sound

theorem legible {j : Json} (sound : j.Sound) : j.Legible := by
  induction sound with
  | null => exact .null
  | bool b => exact .bool b
  | num inRange => exact .num inRange
  | str s => exact .str s
  | arr _ ih => exact .arr ih
  | obj _ _ ih => exact .obj ih

theorem item {items : List Json} (sound : (Json.arr items).Sound) {j : Json} (member : j ∈ items) :
    j.Sound := by
  cases sound with
  | arr each => exact each j member

theorem field {fields : List (String × Json)} (sound : (Json.obj fields).Sound)
    {f : String × Json} (member : f ∈ fields) : f.2.Sound := by
  cases sound with
  | obj each => exact each f member

theorem ascending {fields : List (String × Json)} (sound : (Json.obj fields).Sound) :
    Ascending fields := by
  cases sound with
  | obj _ ascending => exact ascending

theorem setField {fields : List (String × Json)} {value : Json} (sound : (Json.obj fields).Sound)
    (key : String) (put : value.Sound) : (Json.obj (setField key value fields)).Sound := by
  refine .obj (fun f member => ?_) (sound.ascending.setField key value)
  rcases mem_of_mem_setField member with rfl | earlier
  · exact put
  · exact sound.field earlier

theorem dropField {fields : List (String × Json)} (sound : (Json.obj fields).Sound)
    (key : String) : (Json.obj (dropField key fields)).Sound :=
  .obj (fun _ member => sound.field (List.mem_of_mem_filter member))
    (sound.ascending.sublist List.filter_sublist)

theorem normal_eq {j : Json} (sound : j.Sound) : j.normal = j := by
  induction sound with
  | null | bool | num | str => simp only [normal]
  | arr _ ih => rw [normal_arr, List.map_congr_left ih, List.map_id']
  | @obj fields _ ascending ih =>
    have same : (fields.map fun f => (f.1, f.2.normal)) = fields :=
      (List.map_congr_left fun f member => by rw [ih f member]).trans (List.map_id' fields)
    rw [normal_obj, same, sortFields_of_ascending ascending]

end Sound

end ApiGraph.Json
