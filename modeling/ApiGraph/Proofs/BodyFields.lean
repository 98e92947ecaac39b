import ApiGraph.Proofs.Backend.Specs
import ApiGraph.Proofs.OpenApi.References

/-!
# Fields of bodies

The server is told about the fields of a body in code, and the callers in a schema. Both are trees
of the form of the fields: `specs_match_schema` says that at every position which names lead to, they
have the same fields with the same limits.
-/

namespace ApiGraph

open Text

namespace SchemaField

/-- A field of a level whose name no other field of it has. -/
def Alone (level : List SchemaField) (f : SchemaField) : Prop :=
  f ∈ level ∧ ∀ g ∈ level, g.name = f.name → g = f

/-- The level below the fields of a path, each of them alone on its level. -/
inductive Reached : List SchemaField → List String → List SchemaField → Prop where
  | here {fields : List SchemaField} : Reached fields [] fields
  | under {fields level : List SchemaField} {f : SchemaField} {path : List String}
      (alone : Alone fields f) (inside : Reached f.kind.children path level) :
      Reached fields (f.name :: path) level

end SchemaField

namespace Text.Value

def textAt? (key : String) (v : Value) : Option String :=
  match v.member? key with
  | some (.text s) => some s
  | _ => none

def listAt (key : String) (v : Value) : List Value :=
  match v.member? key with
  | some (.list items) => items
  | _ => []

def named? (name : String) (specs : List Value) : Option Value :=
  specs.find? fun v => v.textAt? "name" = some name

def specsAt? : List String → List Value → Option (List Value)
  | [], specs => some specs
  | name :: path, specs => (named? name specs).bind fun v => specsAt? path (v.listAt "children")

end Text.Value

namespace Json

def property? (name : String) (j : Json) : Option Json :=
  (j.get? "properties").bind (get? name)

def propertyNames (j : Json) : List String :=
  match j.get? "properties" with
  | some (.obj ps) => ps.map (·.1)
  | _ => []

def Requires (name : String) (j : Json) : Prop :=
  ∃ names, j.get? "required" = some (.arr names) ∧ .str name ∈ names

/-- The schema with the properties below a property: that of the items of an array. -/
def contents (j : Json) : Json := (j.get? "items").getD j

def schemaAt? : List String → Json → Option Json
  | [], j => some j
  | name :: path, j => (j.property? name).bind fun p => schemaAt? path p.contents

end Json

namespace Backend.FieldSpec

variable {f : SchemaField} {level : List SchemaField}

theorem ofFields_eq_map (fields : List SchemaField) : ofFields fields = fields.map ofField := by
  induction fields with
  | nil => rfl
  | cons f fs ih => rw [ofFields, ih, List.map_cons]

theorem toValues_ofFields (fields : List SchemaField) :
    toValues (ofFields fields) = fields.map fun f => (ofField f).toValue := by
  rw [toValues_eq_map, ofFields_eq_map, List.map_map]
  rfl

/-- What stands under the keys of a specification. -/
theorem member?_toValue (name type : String) (required : Bool) (limits : Constraints)
    (children : List FieldSpec) :
    let v := (mk name type required limits children).toValue
    v.member? "name" = some (.text name) ∧ v.member? "type" = some (.text type) ∧
      v.member? "required" = (if required then some (.word "true") else none) ∧
      v.member? "enum" = limits.choices.map (fun l => .list (l.map .text)) ∧
      v.member? "minLength" = limits.minLength.map (fun n => .word (toString n)) ∧
      v.member? "maxLength" = limits.maxLength.map (fun n => .word (toString n)) ∧
      v.member? "minimum" = limits.minimum.map (fun x => .word (numberStyle.write x)) ∧
      v.member? "maximum" = limits.maximum.map (fun x => .word (numberStyle.write x)) ∧
      v.member? "pattern" = limits.pattern.map .text ∧
      v.member? "children" =
        if children.isEmpty then none else some (.list (toValues children)) := by
  have needed (key : String) :
      (if required then [("required", Value.word "true")] else []).lookup key =
        if key = "required" then (if required then some (.word "true") else none) else none := by
    cases required
    · simp
    · exact Json.lookup_cons_eq ..
  have nested (key : String) :
      (if children.isEmpty then [] else [("children", Value.list (toValues children))]).lookup key =
        if key = "children" then
          (if children.isEmpty then none else some (.list (toValues children))) else none := by
    split
    · simp
    · exact Json.lookup_cons_eq ..
  simp [toValue, Value.member?, limitMembers, List.lookup_append, Json.lookup_option, needed, nested,
    Json.lookup_cons_eq, -List.isEmpty_iff]

theorem ofKind_eq (kind : FieldKind) : ofKind kind = ofFields kind.children := by
  cases kind <;> rfl

theorem textAt?_name (f : SchemaField) : (ofField f).toValue.textAt? "name" = some f.name := by
  obtain ⟨name, kind, required, description, c⟩ := f
  rfl

theorem named?_alone (alone : SchemaField.Alone level f) :
    Value.named? f.name (toValues (ofFields level)) = some (ofField f).toValue := by
  obtain ⟨member, only⟩ := alone
  have first : level.find? (fun g => g.name = f.name) = some f := by
    obtain ⟨g, found⟩ : ∃ g, level.find? (fun g => g.name = f.name) = some g :=
      Option.isSome_iff_exists.mp (List.find?_isSome.mpr ⟨f, member, by simp⟩)
    have same : g.name = f.name := by simpa using List.find?_some found
    rw [found, only g (List.mem_of_find?_eq_some found) same]
  rw [Value.named?, toValues_ofFields, List.find?_map]
  simp only [Function.comp_def, textAt?_name, Option.some.injEq, first, Option.map_some]

theorem listAt_children (f : SchemaField) :
    (ofField f).toValue.listAt "children" = toValues (ofFields f.kind.children) := by
  obtain ⟨name, kind, required, description, c⟩ := f
  obtain ⟨-, -, -, -, -, -, -, -, -, children⟩ :=
    member?_toValue name kind.name required (checked c) (ofKind kind)
  rw [ofField, Value.listAt, children, ofKind_eq]
  show _ = toValues (ofFields kind.children)
  cases ofFields kind.children with
  | nil => rfl
  | cons s specs => rfl

theorem specsAt?_reached {fields : List SchemaField} {path : List String}
    (reached : SchemaField.Reached fields path level) :
    Value.specsAt? path (toValues (ofFields fields)) = some (toValues (ofFields level)) := by
  induction reached with
  | here => rfl
  | under alone inside ih =>
    rw [Value.specsAt?, named?_alone alone, Option.bind_some, listAt_children, ih]

end Backend.FieldSpec

/-! ### Schemas -/

namespace OpenApi.Schema

theorem properties_eq (fields : List SchemaField) :
    properties fields = fields.map fun f => (f.name, ofField f) := by
  induction fields with
  | nil => rfl
  | cons f fs ih => rw [properties, ih, List.map_cons]

theorem mem_requiredNames_iff {name : String} {fields : List SchemaField} :
    name ∈ requiredNames fields ↔ ∃ f ∈ fields, f.required = true ∧ f.name = name := by
  induction fields with
  | nil => simp [requiredNames]
  | cons f fs ih =>
    rw [requiredNames]
    split
    · rename_i required
      rw [List.mem_cons, ih, List.exists_mem_cons_iff, eq_comm]
      exact or_congr_left (by simp [required])
    · rename_i free
      rw [ih, List.exists_mem_cons_iff]
      simp [free]

/-- The schema has the fields of a level for its properties. -/
structure Holds (level : List SchemaField) (j : Json) : Prop where
  property : ∀ f, SchemaField.Alone level f → j.property? f.name = some (ofField f).toJson
  names : j.propertyNames = firsts (level.map (·.name))
  requires : ∀ f, SchemaField.Alone level f → (j.Requires f.name ↔ f.required = true)

theorem requires_iff {j : Json} {names : List String} {name : String}
    (stated : j.get? "required" = if names.isEmpty then none else some (.strings names)) :
    j.Requires name ↔ name ∈ names := by
  rw [Json.Requires, stated]
  constructor
  · rintro ⟨items, found, member⟩
    obtain ⟨-, same⟩ := Option.ite_none_left_eq_some.mp found
    cases same
    obtain ⟨other, present, same⟩ := List.mem_map.mp member
    cases same
    exact present
  · intro member
    refine ⟨_, ?_, List.mem_map_of_mem member⟩
    rw [if_neg (by simpa using List.ne_nil_of_mem member)]
    rfl

theorem holds_write (level : List SchemaField) (facets : Facets) :
    Holds level (record (Dictionary.ofPairs (properties level)) (requiredNames level) facets).toJson := by
  obtain ⟨listed, required⟩ := get?_write "object" none
    (some (.obj (propertiesJson (Dictionary.ofPairs (properties level))))) (requiredNames level) none
    facets
  refine ⟨fun f ⟨member, only⟩ => ?_, ?_, fun f ⟨member, only⟩ => ?_⟩
  · have found : (Dictionary.ofPairs (properties level)).lookup f.name = some (ofField f) := by
      rw [properties_eq]
      refine Dictionary.lookup_ofPairs (List.mem_map.mpr ⟨f, member, rfl⟩) fun s other => ?_
      obtain ⟨g, present, same⟩ := List.mem_map.mp other
      obtain ⟨name, rfl⟩ := Prod.mk.inj same
      rw [only g present name]
    rw [Json.property?, toJson, listed, Option.bind_some, Json.get?, propertiesJson_eq,
      Json.lookup_map_values toJson, found, Option.map_some]
  · have names : (properties level).map (·.1) = level.map (·.name) := by
      rw [properties_eq, List.map_map]
      rfl
    rw [Json.propertyNames, toJson, listed]
    simp only [propertiesJson_eq, List.map_map]
    exact (Dictionary.ofPairs_keys _).trans (congrArg firsts names)
  · rw [toJson, requires_iff required, mem_requiredNames_iff]
    constructor
    · rintro ⟨g, present, needed, name⟩
      exact only g present name ▸ needed
    · exact fun needed => ⟨f, member, needed, rfl⟩

theorem holds_nil {j : Json} (none : j.get? "properties" = none) : Holds [] j := by
  refine ⟨fun f alone => absurd alone.1 List.not_mem_nil, ?_, fun f alone => absurd alone.1 List.not_mem_nil⟩
  rw [Json.propertyNames, none]
  rfl

theorem contents_of_none {j : Json} (single : j.get? "items" = none) : j.contents = j := by
  rw [Json.contents, single, Option.getD_none]

/-- Below a field stands a schema of its children. -/
theorem holds_contents (f : SchemaField) : Holds f.kind.children (ofField f).toJson.contents := by
  obtain ⟨name, kind, required, description, c⟩ := f
  have scalar (type : PlainType) (facets : Facets) : Holds [] (plain type none facets).toJson.contents := by
    rw [toJson, contents_of_none (get?_write_shape ..).2]
    exact holds_nil (get?_write ..).1
  cases kind with
  | string => exact scalar ..
  | number => exact scalar ..
  | boolean => exact scalar ..
  | object children =>
    have holds := holds_write children (facetsOf description c)
    rw [ofField, ofKind]
    rw [toJson] at holds ⊢
    rwa [contents_of_none (get?_write_shape ..).2]
  | array children =>
    have stored (items : Schema) (facets : Facets) : (array items facets).toJson.contents = items.toJson := by
      rw [Json.contents, toJson, (get?_write_shape ..).2, Option.getD_some]
    cases children with
    | nil =>
      rw [ofField, ofKind, stored]
      exact holds_nil rfl
    | cons f children =>
      rw [ofField, ofKind, stored]
      exact holds_write (f :: children) {}

theorem schemaAt?_reached {fields level : List SchemaField} {path : List String}
    (reached : SchemaField.Reached fields path level) {j : Json} (holds : Holds fields j) :
    ∃ schema, Json.schemaAt? path j = some schema ∧ Holds level schema := by
  -- the schema changes with every name of the path, what is known of it does not
  induction reached generalizing j with
  | here => exact ⟨j, rfl, holds⟩
  | @under fields level f path alone inside ih =>
    obtain ⟨schema, found, deeper⟩ := ih (holds_contents f)
    refine ⟨schema, ?_, deeper⟩
    rw [Json.schemaAt?, holds.property f alone, Option.bind_some, found]

/-- The schema of a field is written with the name of its kind and with its facets. -/
theorem toJson_ofField (f : SchemaField) : ∃ format properties required items,
    (ofField f).toJson = write f.kind.name format properties required items
      (facetsOf f.description f.constraints) := by
  obtain ⟨name, kind, required, description, c⟩ := f
  cases kind with
  | string => exact ⟨_, _, _, _, rfl⟩
  | number => exact ⟨_, _, _, _, rfl⟩
  | boolean => exact ⟨_, _, _, _, rfl⟩
  | object children => exact ⟨_, _, _, _, rfl⟩
  | array children => cases children <;> exact ⟨_, _, _, _, rfl⟩

end OpenApi.Schema

/-! ### Agreement -/

/-- A limit stands under a key in both, or in neither. -/
def SameLimit {α : Type} (key : String) (limit : Option α) (means : String → α → Prop)
    (json : α → Json) (spec : Value) (schema : Json) : Prop :=
  schema.get? key = limit.map json ∧
    match limit with
    | none => spec.member? key = none
    | some a => ∃ w, spec.member? key = some (.word w) ∧ means w a

theorem sameLimit_of_word {α : Type} {key : String} {limit : Option α} {means : String → α → Prop}
    {json : α → Json} {spec : Value} {schema : Json} {word : α → String}
    (stated : schema.get? key = limit.map json)
    (written : spec.member? key = limit.map fun a => .word (word a)) (reads : ∀ a, means (word a) a) :
    SameLimit key limit means json spec schema := by
  refine ⟨stated, ?_⟩
  cases limit with
  | none => exact written
  | some a => exact ⟨word a, written, reads a⟩

/-- A specification and a schema say of a field what it says of itself, but for empty choices and
empty patterns. -/
structure SameField (f : SchemaField) (spec : Value) (schema : Json) : Prop where
  name : spec.textAt? "name" = some f.name
  type : spec.member? "type" = some (.text f.kind.name) ∧
    schema.get? "type" = some (.str f.kind.name)
  required : spec.member? "required" = if f.required then some (.word "true") else none
  choices : spec.member? "enum" =
      (f.constraints.choices.filter (· ≠ [])).map (fun l => .list (l.map .text)) ∧
    schema.get? "enum" = (f.constraints.choices.filter (· ≠ [])).map .strings
  minLength : SameLimit "minLength" f.constraints.minLength (fun w n => Numeral w.toList ⟨n, 0⟩) .nat
    spec schema
  maxLength : SameLimit "maxLength" f.constraints.maxLength (fun w n => Numeral w.toList ⟨n, 0⟩) .nat
    spec schema
  minimum : SameLimit "minimum" f.constraints.minimum (fun w x => Numeral.Denotes w.toList x) .float
    spec schema
  maximum : SameLimit "maximum" f.constraints.maximum (fun w x => Numeral.Denotes w.toList x) .float
    spec schema
  pattern : spec.member? "pattern" = f.constraints.pattern.map .text ∧
    schema.get? "pattern" = (f.constraints.pattern.filter (· ≠ "")).map .str

open Backend in
theorem sameField (f : SchemaField) :
    SameField f (FieldSpec.ofField f).toValue (OpenApi.Schema.ofField f).toJson := by
  obtain ⟨format, properties, needed, items, written⟩ := OpenApi.Schema.toJson_ofField f
  obtain ⟨choices, least, most, low, high, pattern⟩ := OpenApi.Schema.get?_write_limits f.kind.name
    format properties needed items (OpenApi.Schema.facetsOf f.description f.constraints)
  have type := (OpenApi.Schema.get?_write_shape f.kind.name format properties needed items
    (OpenApi.Schema.facetsOf f.description f.constraints)).1
  rw [← written] at choices least most low high pattern type
  have name := FieldSpec.textAt?_name f
  have numeral (n : Nat) : Numeral (toString n).toList ⟨n, 0⟩ := by
    rw [show (toString n).toList = Digits.ofNat n from Nat.toList_repr]
    exact Numeral.of_nat n
  generalize schema : (OpenApi.Schema.ofField f).toJson = j at *
  obtain ⟨_, kind, required, description, c⟩ := f
  obtain ⟨-, typed, flagged, listed, minLength, maxLength, minimum, maximum, matched, -⟩ :=
    FieldSpec.member?_toValue _ kind.name required (FieldSpec.checked c) (FieldSpec.ofKind kind)
  exact ⟨name, ⟨typed, type⟩, flagged, ⟨listed, choices⟩, sameLimit_of_word least minLength numeral,
    sameLimit_of_word most maxLength numeral, sameLimit_of_word low minimum FieldSpec.denotes_number,
    sameLimit_of_word high maximum FieldSpec.denotes_number, ⟨matched, pattern⟩⟩

open SchemaField in
/-- What is written for the server and what callers are shown have one tree. At every position that
names lead to, both have exactly the fields of the level, and each of them has its name, its type,
its flag and its limits in both. -/
theorem specs_match_schema (fields : List SchemaField) :
    ∃ specs, (Backend.FieldSpec.ofFields fields).map (fun s => read? s.write) = specs.map some ∧
      ∀ path level, Reached fields path level →
        ∃ here schema, Value.specsAt? path specs = some here ∧
          Json.schemaAt? path (OpenApi.Schema.ofFields fields).toJson = some schema ∧
          here.map (·.textAt? "name") = level.map (fun f => some f.name) ∧
          schema.propertyNames = firsts (level.map (·.name)) ∧
          ∀ f, Alone level f → ∃ spec property,
            Value.named? f.name here = some spec ∧ schema.property? f.name = some property ∧
            (schema.Requires f.name ↔ f.required = true) ∧ SameField f spec property := by
  refine ⟨_, Backend.FieldSpec.map_read?_write _, fun path level reached => ?_⟩
  obtain ⟨schema, found, holds⟩ :=
    OpenApi.Schema.schemaAt?_reached reached (OpenApi.Schema.holds_write fields {})
  refine ⟨_, schema, Backend.FieldSpec.specsAt?_reached reached, found, ?_, holds.names, ?_⟩
  · rw [Backend.FieldSpec.toValues_ofFields, List.map_map]
    exact List.map_congr_left fun f _ => Backend.FieldSpec.textAt?_name f
  · intro f alone
    exact ⟨_, _, Backend.FieldSpec.named?_alone alone, holds.property f alone,
      holds.requires f alone, sameField f⟩

def orderedItem : SchemaField :=
  ⟨"item", .string, true, "", { minLength := some 1, pattern := some "" }⟩

/-- The body of an order: a list of lines, each of them with an item. -/
def orderFields : List SchemaField := [⟨"lines", .array [orderedItem], false, "", {}⟩]

open SchemaField in
/-- The item of a line in both trees, with its least length and without its empty pattern. -/
theorem orderFields_match :
    ∃ specs here schema spec property,
      (Backend.FieldSpec.ofFields orderFields).map (fun s => read? s.write) = specs.map some ∧
      Value.specsAt? ["lines"] specs = some here ∧ Value.named? "item" here = some spec ∧
      Json.schemaAt? ["lines"] (OpenApi.Schema.ofFields orderFields).toJson = some schema ∧
      schema.property? "item" = some property ∧ schema.Requires "item" ∧
      spec.member? "required" = some (.word "true") ∧
      (∃ w, spec.member? "minLength" = some (.word w) ∧ Numeral w.toList ⟨1, 0⟩) ∧
      property.get? "minLength" = some (.nat 1) ∧ property.get? "pattern" = none := by
  obtain ⟨specs, written, agree⟩ := specs_match_schema orderFields
  have single (f : SchemaField) : Alone [f] f :=
    ⟨List.mem_singleton_self f, fun g listed _ => List.mem_singleton.mp listed⟩
  have reached : Reached orderFields ["lines"] [orderedItem] := .under (single _) .here
  obtain ⟨here, schema, inSpecs, inSchema, -, -, each⟩ := agree _ _ reached
  obtain ⟨spec, property, named, shown, needed, same⟩ := each orderedItem (single _)
  exact ⟨specs, here, schema, spec, property, written, inSpecs, named, inSchema, shown,
    needed.mpr rfl, same.required, same.minLength.2, same.minLength.1, same.pattern.2⟩

end ApiGraph
