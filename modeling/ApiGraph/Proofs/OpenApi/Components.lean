import ApiGraph.OpenApi.Document
import ApiGraph.Proofs.FirstUse
import ApiGraph.Proofs.Json.Pointer

namespace ApiGraph

theorem Dictionary.put_keys {κ α : Type} [DecidableEq κ] (key : κ) (value : α) (d : List (κ × α)) :
    (put key value d).map (·.1) =
      if key ∈ d.map (·.1) then d.map (·.1) else d.map (·.1) ++ [key] := by
  induction d with
  | nil => rfl
  | cons entry rest ih =>
    obtain ⟨k, v⟩ := entry
    rw [put]
    split
    · rename_i same
      simp [same]
    · rename_i different
      rw [List.map_cons, ih, List.map_cons]
      by_cases known : key ∈ rest.map (·.1)
      · rw [if_pos known, if_pos (List.mem_cons_of_mem _ known)]
      · rw [if_neg known, if_neg (by simpa [different] using known)]
        rfl

/-- A dictionary has the keys of its pairs, in the order of their first use. -/
theorem Dictionary.ofPairs_keys {κ α : Type} [DecidableEq κ] (pairs : List (κ × α)) :
    (ofPairs pairs).map (·.1) = firsts (pairs.map (·.1)) := by
  have walk : ∀ d : List (κ × α), (pairs.foldl (fun d p => put p.1 p.2 d) d).map (·.1) =
      d.map (·.1) ++ firstsFrom id (d.map (·.1)) (pairs.map (·.1)) := by
    induction pairs with
    | nil => simp [firstsFrom]
    | cons p pairs ih =>
      intro d
      rw [List.foldl_cons, ih, put_keys, List.map_cons, firstsFrom, id_eq]
      by_cases known : p.1 ∈ d.map (·.1)
      · rw [if_pos known, if_pos known]
      · rw [if_neg known, if_neg known, List.append_assoc]
        refine congrArg (d.map (·.1) ++ p.1 :: ·) (firstsFrom_congr (fun k => ?_) id _)
        simp [or_comm]
  exact walk []

namespace OpenApi

namespace Document

theorem schemasOf_names (models : List Model) :
    (schemasOf models).map (·.1) = firsts (models.map (·.name)) := by
  rw [← firstsBy_keys, schemasOf, List.map_map]
  rfl

theorem mem_firstsBy_name {models : List Model} {m : Model}
    (first : models.find? (·.name == m.name) = some m) : m ∈ firstsBy Model.name models := by
  rw [mem_firstsBy_iff, ← first]
  congr

theorem schemasOf_lookup {models : List Model} {m : Model}
    (first : models.find? (·.name == m.name) = some m) :
    (schemasOf models).lookup m.name = some (.ofModel m) := by
  have distinct : ((schemasOf models).map (·.1)).Nodup := by
    rw [schemasOf_names]
    exact firsts_nodup _
  exact Json.lookup_eq_some_of_mem distinct
    (List.mem_map.mpr ⟨m, mem_firstsBy_name first, rfl⟩)

theorem at_components (d : Document) :
    d.toJson.at? ["components", "schemas"] =
      some (.obj (d.schemas.map fun s => (s.1, s.2.toJson))) := by
  simp [toJson, Json.at?, Json.step?, Json.lookup_cons_eq]

theorem at_component (d : Document) (name : String) :
    d.toJson.at? ["components", "schemas", name] = (d.schemas.lookup name).map Schema.toJson := by
  rw [← Json.lookup_map_values]
  simp [toJson, Json.at?, Json.step?, Json.lookup_cons_eq]

/-- The component of a name is that of the first model with the name. -/
theorem component_of_model {p : Project} {name : String} {m : Model}
    (first : p.model? name = some m) (routes : List Route) :
    (assemble p routes).toJson.at? ["components", "schemas", name] =
      some (Schema.ofModel m).toJson := by
  have same : m.name = name := by simpa [Project.model?] using List.find?_some first
  subst same
  rw [at_component]
  show Option.map _ ((schemasOf p.models).lookup m.name) = _
  rw [schemasOf_lookup first]
  rfl

end Document

namespace Schema

/-- The names of the parts of a schema. -/
def partNames : List String :=
  ["type", "format", "description", "properties", "required", "items", "enum", "example",
    "minLength", "maxLength", "minimum", "maximum", "pattern"]

theorem get?_write (type : String) (format : Option String) (properties : Option Json)
    (required : List String) (items : Option Json) (facets : Facets) :
    (write type format properties required items facets).get? "properties" = properties ∧
      (write type format properties required items facets).get? "required" =
        if required.isEmpty then none else some (.strings required) := by
  have distinct : partNames.Nodup := by decide
  unfold write
  constructor
  · refine (Json.get?_record ?_ "properties").trans rfl
    exact distinct
  · refine (Json.get?_record ?_ "required").trans rfl
    exact distinct

theorem get?_write_shape (type : String) (format : Option String) (properties : Option Json)
    (required : List String) (items : Option Json) (facets : Facets) :
    (write type format properties required items facets).get? "type" = some (.str type) ∧
      (write type format properties required items facets).get? "items" = items := by
  have distinct : partNames.Nodup := by decide
  unfold write
  constructor
  · refine (Json.get?_record ?_ "type").trans rfl
    exact distinct
  · refine (Json.get?_record ?_ "items").trans rfl
    exact distinct

theorem get?_write_limits (type : String) (format : Option String) (properties : Option Json)
    (required : List String) (items : Option Json) (facets : Facets) :
    let j := write type format properties required items facets
    j.get? "enum" = facets.limits.choices.map .strings ∧
      j.get? "minLength" = facets.limits.minLength.map .nat ∧
      j.get? "maxLength" = facets.limits.maxLength.map .nat ∧
      j.get? "minimum" = facets.limits.minimum.map .float ∧
      j.get? "maximum" = facets.limits.maximum.map .float ∧
      j.get? "pattern" = facets.limits.pattern.map .str := by
  have distinct : partNames.Nodup := by decide
  unfold write
  refine ⟨?_, ?_, ?_, ?_, ?_, ?_⟩
  all_goals
    refine (Json.get?_record ?_ _).trans rfl
    exact distinct

theorem propertiesJson_eq (ps : List (String × Schema)) :
    propertiesJson ps = ps.map fun q => (q.1, q.2.toJson) := by
  induction ps with
  | nil => rfl
  | cons q ps ih => rw [propertiesJson, List.map_cons, ih]

/-- The properties of a component are the fields of its model, each name once. -/
theorem properties_ofModel (m : Model) :
    ∃ ps, (ofModel m).toJson.get? "properties" = some (.obj ps) ∧
      ps.map (·.1) = firsts (m.fields.map (·.name)) := by
  refine ⟨_, (get?_write ..).1, ?_⟩
  rw [propertiesJson_eq, List.map_map]
  exact (Dictionary.ofPairs_keys _).trans (congrArg firsts List.map_map)

theorem required_ofModel (m : Model) :
    (ofModel m).toJson.get? "required" =
      if (m.fields.filter (·.required)).isEmpty then none
      else some (.strings ((m.fields.filter (·.required)).map (·.name))) := by
  refine (get?_write ..).2.trans ?_
  rw [List.isEmpty_map]

end Schema

end OpenApi

end ApiGraph
