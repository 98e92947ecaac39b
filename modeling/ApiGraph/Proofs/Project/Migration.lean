import ApiGraph.Project.Import
import ApiGraph.Proofs.Project.ReadBack

namespace ApiGraph.Project

open Json

section

variable {key k : String} {c : Json → Json} {entries : List (String × Json)}

/-- Changes the values under a key of a field list. -/
def under (key : String) (change : Json → Json) (fields : List (String × Json)) :
    List (String × Json) :=
  fields.map fun f => if f.1 = key then (f.1, change f.2) else f

theorem within_obj (key : String) (c : Json → Json) (entries : List (String × Json)) :
    within key c (.obj entries) = .obj (under key c entries) := rfl

theorem keys_under (key : String) (c : Json → Json) (entries : List (String × Json)) :
    (under key c entries).map (·.1) = entries.map (·.1) := by
  rw [under, List.map_map]
  refine List.map_congr_left fun f _ => ?_
  rw [Function.comp_apply]
  split <;> rfl

theorem under_cons (key : String) (c : Json → Json) (l : String) (v : Json)
    (rest : List (String × Json)) :
    under key c ((l, v) :: rest) = (l, if l = key then c v else v) :: under key c rest := by
  rw [under, List.map_cons]
  by_cases same : l = key
  · rw [if_pos same, if_pos same]
    rfl
  · rw [if_neg same, if_neg same]
    rfl

theorem lookup_under (key : String) (c : Json → Json) (entries : List (String × Json)) :
    (under key c entries).lookup key = (entries.lookup key).map c := by
  induction entries with
  | nil => rfl
  | cons f rest ih =>
    rw [under_cons, lookup_cons_eq, lookup_cons_eq, ih]
    split
    · rename_i same
      rw [if_pos same.symm]
      rfl
    · rfl

/-- A change under a key is not seen under another one. -/
theorem lookup_under_of_ne (other : k ≠ key) :
    (under key c entries).lookup k = entries.lookup k := by
  induction entries with
  | nil => rfl
  | cons f rest ih =>
    rw [under_cons, lookup_cons_eq, lookup_cons_eq, ih]
    split
    · rename_i same
      rw [if_neg (same ▸ other)]
    · rfl

theorem within_within (key : String) (c c' : Json → Json) (j : Json) :
    within key c (within key c' j) = within key (fun v => c (c' v)) j := by
  cases j with
  | obj entries =>
    rw [within_obj, within_obj, within_obj]
    refine congrArg Json.obj ?_
    induction entries with
    | nil => rfl
    | cons f rest ih =>
      rw [under_cons, under_cons, under_cons, ih]
      split <;> rfl
  | _ => rfl

end

theorem sound_within {key : String} {change : Json → Json} {j : Json} (sound : j.Sound)
    (each : ∀ v : Json, v.Sound → (change v).Sound) : (within key change j).Sound := by
  cases j with
  | obj fields =>
    refine .obj (fun f member => ?_) ?_
    · obtain ⟨g, source, rfl⟩ := List.mem_map.mp member
      have value := sound.field source
      split
      · exact each _ value
      · exact value
    · refine List.pairwise_map.mpr (sound.ascending.imp fun {f g} less => ?_)
      split <;> split <;> exact less
  | _ => exact sound

theorem sound_onItems {change : Json → Json} {j : Json} (sound : j.Sound)
    (each : ∀ v : Json, v.Sound → (change v).Sound) : (onItems change j).Sound := by
  cases j with
  | arr items =>
    refine .arr fun v member => ?_
    obtain ⟨i, source, rfl⟩ := List.mem_map.mp member
    exact each i (sound.item source)
  | _ => exact sound

theorem sound_lookup {fields : List (String × Json)} (sound : (Json.obj fields).Sound)
    {key : String} {j : Json} (found : fields.lookup key = some j) : j.Sound :=
  sound.field (Fields.mem_of_lookup_eq_some found)

theorem sound_soleResponse {fields : List (String × Json)} (sound : (Json.obj fields).Sound) :
    (soleResponse fields).Sound := by
  have usual : (Number.int 200).InRange := ⟨by decide, by decide⟩
  unfold soleResponse
  refine .obj (fun f member => ?_) ?_
  · simp only [List.mem_cons, List.not_mem_nil, or_false] at member
    rcases member with rfl | rfl | rfl
    · exact .str _
    · split
      · rename_i items found
        exact sound_lookup sound found
      · exact .arr fun _ member => nomatch member
    · split
      · rename_i n found
        have value := sound_lookup sound found
        cases value with
        | num inRange =>
          split
          · exact .num inRange
          · exact .num usual
      · exact .num usual
  · have keys : ["description", "schema", "statusCode"].Pairwise (· < ·) := by decide
    exact List.pairwise_map.mp keys

theorem sound_standIns {fields : List (String × Json)} (sound : (Json.obj fields).Sound) :
    ∀ s ∈ standIns fields, s.2.Sound := by
  have empty : (Json.arr []).Sound := .arr fun _ member => nomatch member
  have auth : (Json.obj [("required", .bool false), ("roles", .arr []),
      ("type", .str "none")]).Sound := by
    refine .obj (fun f member => ?_) (by decide)
    simp only [List.mem_cons, List.not_mem_nil, or_false] at member
    rcases member with rfl | rfl | rfl
    · exact .bool _
    · exact empty
    · exact .str _
  intro s member
  simp only [standIns, List.mem_cons, List.not_mem_nil, or_false] at member
  rcases member with rfl | rfl | rfl | rfl | rfl | rfl | rfl | rfl | rfl | rfl | rfl
  · exact .str _
  · exact .str _
  · exact .str _
  · exact .str _
  · exact empty
  · exact .bool _
  · exact auth
  · exact empty
  · exact empty
  · exact empty
  · exact .arr fun j member => List.mem_singleton.mp member ▸ sound_soleResponse sound

/-! ### Filling gaps -/

def fill (done : List (String × Json)) (s : String × Json) : List (String × Json) :=
  if isMissing done s.1 then setField s.1 s.2 done else done

/-- The stand-ins where keys are missing. -/
def fillGaps (fields : List (String × Json)) : List (String × Json) :=
  (standIns fields).foldl fill fields

theorem fillNoting_eq (done : List (String × Json)) (changed : Bool) (s : String × Json) :
    fillNoting (done, changed) s = (fill done s, changed || isMissing done s.1) := by
  unfold fillNoting fill
  split
  · rename_i missing
    rw [missing, Bool.or_true]
  · rename_i present
    rw [Bool.eq_false_iff.mpr present, Bool.or_false]

theorem migrate_eq (fields : List (String × Json)) :
    migrate fields = dropField "responseSchema" (dropField "statusCode" (fillGaps fields)) := by
  have filled : ∀ (stand done : List (String × Json)) changed,
      (stand.foldl fillNoting (done, changed)).1 = stand.foldl fill done := by
    intro stand
    induction stand with
    | nil => exact fun _ _ => rfl
    | cons s stand ih =>
      intro done changed
      rw [List.foldl_cons, fillNoting_eq, ih, List.foldl_cons]
  rw [migrate, migrateNoting, filled, fillGaps]

theorem sound_fillGaps {fields : List (String × Json)} (sound : (Json.obj fields).Sound) :
    (Json.obj (fillGaps fields)).Sound := by
  have each := sound_standIns sound
  unfold fillGaps
  generalize standIns fields = stand at each
  induction stand generalizing fields with
  | nil => exact sound
  | cons s rest ih =>
    have later := fun t member => each t (List.mem_cons_of_mem _ member)
    rw [List.foldl_cons, fill]
    split
    · exact ih (sound.setField s.1 (each s List.mem_cons_self)) later
    · exact ih sound later

theorem sound_migrate {fields : List (String × Json)} (sound : (Json.obj fields).Sound) :
    (Json.obj (migrate fields)).Sound := by
  rw [migrate_eq]
  exact ((sound_fillGaps sound).dropField _).dropField _

theorem sound_migrateNode {node : Json} (sound : node.Sound) : (migrateNode node).Sound := by
  unfold migrateNode
  split
  · refine sound_within sound fun data sound => sound_within sound fun config sound => ?_
    cases config with
    | obj fields => exact sound_migrate sound
    | _ => exact sound
  · exact sound

/-- The present form of a sound value is sound. -/
theorem sound_migrateAll {root : List (String × Json)} (sound : (Json.obj root).Sound) :
    (migrateAll root).Sound := by
  have items := fun v (sound : Json.Sound v) =>
    sound_onItems sound fun node sound => sound_migrateNode sound
  unfold migrateAll
  split
  · exact sound_within (sound.dropField _) items
  · exact sound_within sound items

/-! ### Written projects stay as they are -/

/-- Where the value under a key is not changed, nothing is. -/
theorem within_of_fixed {key : String} {change : Json → Json} {fields : List (String × Json)}
    (distinct : (fields.map (·.1)).Nodup)
    (fixed : ∀ v, fields.lookup key = some v → change v = v) :
    within key change (.obj fields) = .obj fields := by
  refine congrArg Json.obj ((List.map_congr_left fun f member => ?_).trans (List.map_id' fields))
  split
  · rename_i same
    have found := lookup_eq_some_of_mem distinct member
    rw [fixed f.2 (same ▸ found)]
  · rfl

theorem fillGaps_of_complete {fields : List (String × Json)} (complete : gaps fields = []) :
    fillGaps fields = fields := by
  have present : ∀ s ∈ standIns fields, isMissing fields s.1 = false := fun s member => by
    have kept := List.filter_eq_nil_iff.mp complete s.1 (List.mem_map_of_mem member)
    simpa using kept
  unfold fillGaps
  generalize standIns fields = stand at present
  induction stand with
  | nil => rfl
  | cons s rest ih =>
    rw [List.foldl_cons, fill, if_neg (by simp [present s List.mem_cons_self])]
    exact ih fun t member => present t (List.mem_cons_of_mem _ member)

theorem dropField_of_absent {key : String} {fields : List (String × Json)}
    (absent : key ∉ fields.map (·.1)) : dropField key fields = fields :=
  List.filter_eq_self.mpr fun _ member =>
    decide_eq_true fun same => absent (same ▸ List.mem_map_of_mem member)

def endpointKeys : List String :=
  ["method", "path", "summary", "description", "tags", "deprecated", "auth", "pathParams",
    "queryParams", "bodySchema", "responses", "rateLimit"]

theorem exists_fields_endpoint (e : Endpoint) :
    ∃ fields, e.toJson = .record fields ∧ fields.map (·.1) = endpointKeys ∧
      ∀ key ∈ ["method", "path", "summary", "description", "tags", "deprecated", "auth",
        "pathParams", "queryParams", "bodySchema", "responses"],
        ∃ j, fields.lookup key = some (some j) ∧ j ≠ .null := by
  refine ⟨_, rfl, rfl, fun key member => ?_⟩
  simp only [List.mem_cons, List.not_mem_nil, or_false] at member
  rcases member with rfl | rfl | rfl | rfl | rfl | rfl | rfl | rfl | rfl | rfl | rfl <;>
    exact ⟨_, rfl, nofun⟩

/-- A written endpoint has no gaps, and migration changes nothing in it. -/
theorem exists_written_endpoint (e : Endpoint) :
    ∃ fields, e.toJson.normal = .obj fields ∧ gaps fields = [] ∧ migrate fields = fields := by
  obtain ⟨fields, form, keys, present⟩ := exists_fields_endpoint e
  have distinct : (fields.map (·.1)).Nodup := keys ▸ by decide
  have absent : ∀ key ∉ fields.map (·.1), key ∉ (normalRecord fields).map (·.1) :=
    fun key unknown member => unknown (mem_keys_of_mem_normalRecord member)
  have complete : gaps (normalRecord fields) = [] := by
    refine List.filter_eq_nil_iff.mpr fun key member => ?_
    obtain ⟨j, found, notNull⟩ := present key member
    rw [isMissing, lookup_normalRecord distinct, found]
    simpa using Decoder.normal_ne_null notNull
  refine ⟨_, by rw [form, normal_record], complete, ?_⟩
  rw [migrate_eq, fillGaps_of_complete complete,
    dropField_of_absent (absent "statusCode" (keys ▸ by decide)),
    dropField_of_absent (absent "responseSchema" (keys ▸ by decide))]

theorem migrate_written (e : Endpoint) : onFields migrate e.toJson.normal = e.toJson.normal := by
  obtain ⟨fields, form, -, same⟩ := exists_written_endpoint e
  rw [form, onFields, same]

theorem exists_endpoint_of_typeName {c : NodeContent} (name : c.typeName = "endpoint") :
    ∃ e, c = .endpoint e := by
  cases c with
  | endpoint e => exact ⟨e, rfl⟩
  | foreign kind config unknown present =>
    change kind = "endpoint" at name
    subst name
    exact absurd (by decide) unknown
  | database | auth | response => simp [NodeContent.typeName, NodeContent.kindName] at name

def contentFields (c : NodeContent) : List (String × Option Json) :=
  [("type", some (.str c.typeName)), ("config", some c.configJson)]

theorem content_written (e : Endpoint) :
    within "config" (onFields migrate) (.obj (normalRecord (contentFields (.endpoint e)))) =
      .obj (normalRecord (contentFields (.endpoint e))) := by
  refine within_of_fixed (sortFields_ascending _).nodup fun v found => ?_
  have distinct : ["type", "config"].Nodup := by decide
  have value := written_of_lookup_normalRecord found distinct
  injection value with same
  exact same ▸ migrate_written e

theorem migrateNode_written (n : Node) : migrateNode n.toJson.normal = n.toJson.normal := by
  have distinct : ["id", "type", "position", "data", "selected"].Nodup := by decide
  unfold migrateNode
  split
  · rename_i endpoint
    rw [Node.toJson, normal_record] at endpoint ⊢
    refine within_of_fixed (sortFields_ascending _).nodup fun v found => ?_
    have value := written_of_lookup_normalRecord found distinct
    injection value with same
    have read : v = .obj (normalRecord (contentFields n.content)) :=
      same.symm.trans (normal_record (contentFields n.content))
    have kind : (normalRecord (contentFields n.content)).lookup "type" =
        some (.str "endpoint") := by
      simpa [isEndpointNode, Json.get?, found, read] using endpoint
    have pair : ["type", "config"].Nodup := by decide
    have typed := written_of_lookup_normalRecord kind pair
    injection typed with name
    injection name with name
    obtain ⟨e, content⟩ := exists_endpoint_of_typeName name
    rw [read, content]
    exact content_written e
  · rfl

/-- A written project is in the present form. -/
theorem migrateAll_written (p : Project) :
    ∃ root, p.toJson.normal = .obj root ∧ migrateAll root = .obj root ∧
      root.lookup "formatVersion" = p.formatVersion.map Json.nat := by
  have distinct : ["formatVersion", "id", "name", "description", "createdAt", "updatedAt", "nodes",
    "edges", "models", "settings"].Nodup := by decide
  refine ⟨_, normal_record _, ?_, ?_⟩
  · unfold migrateAll
    rw [if_neg fun found => ?_]
    · refine within_of_fixed (sortFields_ascending _).nodup fun v found => ?_
      have value := written_of_lookup_normalRecord found distinct
      injection value with same
      subst same
      show onItems migrateNode (Json.arr (p.nodes.map Node.toJson)).normal = _
      rw [normal_arr, List.map_map]
      show Json.arr (List.map _ _) = _
      rw [List.map_map]
      exact congrArg Json.arr (List.map_congr_left fun n _ => migrateNode_written n)
    · have value := written_of_lookup_normalRecord found distinct
      cases value
  · refine (lookup_normalRecord ?_ "formatVersion").trans ?_
    · exact distinct
    · cases p.formatVersion <;> rfl

end ApiGraph.Project
