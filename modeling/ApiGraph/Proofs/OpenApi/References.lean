import ApiGraph.Proofs.OpenApi.Components
import ApiGraph.Proofs.OpenApi.PathParameters

/-!
# References of a document

The references of a document are those of the models that its routes are tagged with and that the
project has. Each of them designates the component of its model if the name of the model has
neither slash nor tilde (`references_designate`): the name is written as it is.
-/

namespace ApiGraph

theorem Dictionary.mem_of_mem_put {κ α : Type} [DecidableEq κ] {key : κ} {value : α}
    {d : List (κ × α)} {e : κ × α} (member : e ∈ put key value d) : e = (key, value) ∨ e ∈ d := by
  induction d with
  | nil => simpa [put] using member
  | cons entry rest ih =>
    rw [put] at member
    split at member
    · rcases List.mem_cons.mp member with new | later
      · exact .inl new
      · exact .inr (List.mem_cons_of_mem _ later)
    · rcases List.mem_cons.mp member with here | later
      · exact .inr (here ▸ List.mem_cons_self)
      · exact (ih later).imp_right (List.mem_cons_of_mem _)

theorem Dictionary.mem_of_mem_ofPairs {κ α : Type} [DecidableEq κ] {pairs : List (κ × α)} :
    ∀ e ∈ ofPairs pairs, e ∈ pairs := by
  unfold ofPairs
  refine pairs.foldlRecOn (motive := fun d => ∀ e ∈ d, e ∈ pairs) _ ?_ ?_
  · intro e none
    cases none
  · intro d known p present e member
    rcases mem_of_mem_put member with rfl | before
    · exact present
    · exact known e before

/-- A key that has one value only has it in the dictionary. -/
theorem Dictionary.lookup_ofPairs {α : Type} {pairs : List (String × α)} {key : String} {value : α}
    (member : (key, value) ∈ pairs) (only : ∀ v, (key, v) ∈ pairs → v = value) :
    (ofPairs pairs).lookup key = some value := by
  have distinct : ((ofPairs pairs).map (·.1)).Nodup := by
    rw [ofPairs_keys]
    exact firsts_nodup _
  have present : key ∈ (ofPairs pairs).map (·.1) := by
    rw [ofPairs_keys, mem_firsts_iff]
    exact List.mem_map_of_mem member
  obtain ⟨⟨_, v⟩, entry, rfl⟩ := List.mem_map.mp present
  obtain rfl := only v (mem_of_mem_ofPairs _ entry)
  exact Json.lookup_eq_some_of_mem distinct entry

namespace OpenApi

open Json (refs refs_arr refs_obj refs_record refs_strings ownRef ownRef_of_ne)

namespace Schema

theorem refs_getD_map {α : Type} {f : α → Json} (plain : ∀ a, refs (f a) = []) (o : Option α) :
    ((o.map f).map refs).getD [] = [] := by
  cases o with
  | none => rfl
  | some a => exact plain a

theorem refs_write (type : String) (format : Option String) (properties : Option Json)
    (required : List String) (items : Option Json) (facets : Facets) :
    refs (write type format properties required items facets) =
      (properties.map refs).getD [] ++ (items.map refs).getD [] := by
  have leaf : ∀ s : String, refs (.str s) = [] := fun _ => rfl
  have names :
      ((if required.isEmpty then none else some (Json.strings required)).map refs).getD [] = [] := by
    split
    · rfl
    · exact refs_strings required
  have plain : "$ref" ∉ partNames := by decide
  unfold write
  refine (refs_record ?_).trans ?_
  · exact plain
  simp only [List.flatMap_cons, List.flatMap_nil, Option.map_some, Option.getD_some, leaf, names,
    refs_getD_map leaf, refs_getD_map refs_strings, refs_getD_map (f := Json.nat) fun _ => rfl,
    refs_getD_map (f := Json.float) fun _ => rfl, List.nil_append, List.append_nil]

theorem refs_plain (type : PlainType) (format : Option String) (facets : Facets) :
    refs (plain type format facets).toJson = [] := by
  rw [toJson, refs_write]
  rfl

theorem refs_array (items : Schema) (facets : Facets) :
    refs (array items facets).toJson = refs items.toJson := by
  rw [toJson, refs_write]
  rfl

theorem exists_toJson_eq_obj (s : Schema) : ∃ fields, s.toJson = .obj fields := by
  cases s <;> exact ⟨_, rfl⟩

theorem refs_record_eq (ps : List (String × Schema)) (required : List String) (facets : Facets) :
    refs (record ps required facets).toJson = ps.flatMap fun q => refs q.2.toJson := by
  rw [toJson, refs_write, propertiesJson_eq]
  refine (List.append_nil _).trans ?_
  exact Json.refs_obj_map (·.1) (fun q => q.2.toJson) (fun q => exists_toJson_eq_obj q.2) ps

theorem refs_reference (model : String) :
    refs (reference model).toJson = [componentPath model] := rfl

mutual

theorem refs_ofField : ∀ f : SchemaField, refs (ofField f).toJson = []
  | .mk _ kind _ description c => refs_ofKind (facetsOf description c) kind

theorem refs_ofKind (facets : Facets) : ∀ kind : FieldKind, refs (ofKind facets kind).toJson = []
  | .string => refs_plain ..
  | .number => refs_plain ..
  | .boolean => refs_plain ..
  | .object children => by
    rw [ofKind, refs_record_eq, List.flatMap_eq_nil_iff]
    exact fun q member => refs_properties children q (Dictionary.mem_of_mem_ofPairs q member)
  | .array [] => refs_array ..
  | .array (c :: cs) => by
    rw [ofKind, refs_array, refs_record_eq, List.flatMap_eq_nil_iff]
    exact fun q member => refs_properties (c :: cs) q (Dictionary.mem_of_mem_ofPairs q member)

theorem refs_properties : ∀ fields : List SchemaField,
    ∀ q ∈ properties fields, refs q.2.toJson = []
  | [] => fun _ none => nomatch none
  | f :: fs => by
    intro q member
    rw [properties] at member
    rcases List.mem_cons.mp member with rfl | later
    · exact refs_ofField f
    · exact refs_properties fs q later

end

theorem refs_ofFields (fields : List SchemaField) : refs (ofFields fields).toJson = [] := by
  rw [ofFields, refs_record_eq, List.flatMap_eq_nil_iff]
  exact fun q member => refs_properties fields q (Dictionary.mem_of_mem_ofPairs q member)

theorem refs_ofModel (m : Model) : refs (ofModel m).toJson = [] := by
  rw [ofModel, refs_record_eq, List.flatMap_eq_nil_iff]
  intro q member
  obtain ⟨f, -, rfl⟩ := List.mem_map.mp (Dictionary.mem_of_mem_ofPairs q member)
  exact refs_plain ..

end Schema

/-! ### Operations -/

/-- The models of a route that its operation can show: that of the body, where there is one, and
those of the responses that stand under a status. -/
def taggedModels (r : Route) : List String :=
  (if r.method.hasBody then r.bodyModel.toList else []) ++
    (statuses r).filterMap fun s => (r.responses.reverse.find? (·.status == s)).bind (·.model)

theorem mem_taggedModels_iff {r : Route} {name : String} :
    name ∈ taggedModels r ↔ (r.method.hasBody ∧ r.bodyModel = some name) ∨
      ∃ s a, r.responses.reverse.find? (·.status == s) = some a ∧ a.model = some name := by
  have shown : ∀ {s a}, r.responses.reverse.find? (·.status == s) = some a → s ∈ statuses r := by
    intro s a found
    have declared : a ∈ r.responses := List.mem_reverse.mp (List.mem_of_find?_eq_some found)
    have same : a.status = s := by simpa using List.find?_some found
    rw [statuses, List.mem_mergeSort, mem_firsts_iff]
    exact List.mem_append_left _ (List.mem_map.mpr ⟨a, declared, same⟩)
  rw [taggedModels, List.mem_append, List.mem_filterMap]
  refine or_congr (by split <;> simp_all) ⟨?_, ?_⟩
  · rintro ⟨s, -, found⟩
    obtain ⟨a, first, tag⟩ := Option.bind_eq_some_iff.mp found
    exact ⟨s, a, first, tag⟩
  · rintro ⟨s, a, first, tag⟩
    exact ⟨s, shown first, Option.bind_eq_some_iff.mpr ⟨a, first, tag⟩⟩

def modelRefs (p : Project) (models : List String) : List String :=
  (models.filter fun m => (p.model? m).isSome).map Schema.componentPath

def schemaRefs (s : Option Schema) : List String := (s.map fun s => refs s.toJson).getD []

theorem modelRefs_append (p : Project) (a b : List String) :
    modelRefs p (a ++ b) = modelRefs p a ++ modelRefs p b := by
  simp [modelRefs]

theorem refs_modelSchema (p : Project) (model : String) :
    refs (modelSchema p model).1.toJson = modelRefs p [model] := by
  by_cases known : (p.model? model).isSome
  · simp [modelSchema, modelRefs, known, Schema.refs_reference]
  · simp [modelSchema, modelRefs, known, Schema.someObject, Schema.refs_plain]

theorem schemaRefs_own (fields : List SchemaField) :
    schemaRefs (if fields.isEmpty then none else some (.ofFields fields)) = [] := by
  split
  · rfl
  · exact Schema.refs_ofFields fields

theorem schemaRefs_bodyContent (p : Project) (r : Route) :
    schemaRefs (bodyContent p r).schema =
      modelRefs p (if r.method.hasBody then r.bodyModel.toList else []) := by
  rw [bodyContent]
  cases body : r.method.hasBody with
  | false => rfl
  | true =>
    cases tag : r.bodyModel with
    | none => exact schemaRefs_own r.body
    | some model =>
      have own := schemaRefs_own r.body
      cases known : (p.model? model).isSome with
      | true => simp [modelSchema, modelRefs, schemaRefs, known, Schema.refs_reference]
      | false =>
        -- without the model the body has its own schema, or that of some object
        cases bare : r.body.isEmpty with
        | true =>
          simp [modelSchema, modelRefs, schemaRefs, known, Schema.someObject, Schema.refs_plain]
        | false => simpa [modelSchema, modelRefs, known, bare] using own

theorem schemaRefs_responseContent (p : Project) (a : Response) :
    schemaRefs (responseContent p a).schema = modelRefs p a.model.toList := by
  rw [responseContent]
  cases tag : a.model with
  | none => exact schemaRefs_own a.schema
  | some model =>
    rw [Option.toList_some, ← refs_modelSchema]
    show refs (Schema.toJson (if _ then _ else _)) = _
    split
    · exact Schema.refs_array ..
    · rfl

theorem refs_contentJson (s : Schema) : refs (contentJson s) = refs s.toJson := by
  simp [contentJson, refs_obj, ownRef]

theorem refs_parameter (place : Place) (q : Param) :
    refs (Parameter.ofParam place q).toJson = [] := by
  have leaf : ∀ s : String, refs (.str s) = [] := fun _ => rfl
  have choice : ∀ b : Bool, refs (.bool b) = [] := fun _ => rfl
  rw [Parameter.toJson, refs_record (by simp)]
  simp only [List.flatMap_cons, List.flatMap_nil, Option.map_some, Option.getD_some, leaf, choice,
    Schema.refs_getD_map leaf, Parameter.ofParam, Schema.refs_plain, List.append_nil]

theorem refs_answer (a : Answer) : refs a.toJson = schemaRefs a.content := by
  rw [Answer.toJson, refs_record (by simp)]
  cases h : a.content <;> simp [schemaRefs, refs_contentJson, refs]

theorem refs_answerOf (p : Project) (r : Route) (status : Nat) :
    refs (answerOf p r status).toJson =
      modelRefs p ((r.responses.reverse.find? (·.status == status)).bind (·.model)).toList := by
  rw [refs_answer, answerOf]
  cases r.responses.reverse.find? (·.status == status) with
  | none => rfl
  | some a => exact schemaRefs_responseContent p a

theorem modelRefs_filterMap {α : Type} (p : Project) (model : α → Option String) (l : List α) :
    modelRefs p (l.filterMap model) = l.flatMap fun a => modelRefs p (model a).toList := by
  induction l with
  | nil => rfl
  | cons a l ih =>
    have split : (a :: l).filterMap model = (model a).toList ++ l.filterMap model := by
      cases h : model a <;> simp [h]
    rw [split, modelRefs_append, ih, List.flatMap_cons]

theorem refs_parameters {qs : List Parameter} (plain : ∀ q ∈ qs, refs q.toJson = []) :
    ((if qs.isEmpty then none
      else some (.arr (qs.map Parameter.toJson))).map refs).getD [] = [] := by
  split
  · rfl
  · simpa [refs_arr, List.flatMap_map, List.flatMap_eq_nil_iff] using plain

theorem refs_body (body : Option Schema) :
    ((body.map fun s => Json.obj [("required", .bool true), ("content", contentJson s)]).map
      refs).getD [] = schemaRefs body := by
  cases body with
  | none => rfl
  | some s =>
    have choice : refs (.bool true) = [] := rfl
    rw [Option.map_some, Option.map_some, Option.getD_some, refs_obj]
    simp [ownRef, choice, refs_contentJson, schemaRefs]

theorem refs_responses (p : Project) (r : Route) :
    refs (.obj (((statuses r).map fun s => (s, answerOf p r s)).map fun a =>
      (toString a.1, a.2.toJson))) = modelRefs p ((statuses r).filterMap fun s =>
        (r.responses.reverse.find? (·.status == s)).bind (·.model)) := by
  have objects : ∀ a : Nat × Answer, ∃ fields, a.2.toJson = .obj fields := fun a => ⟨_, rfl⟩
  rw [Json.refs_obj_map (fun a : Nat × Answer => toString a.1) (fun a => a.2.toJson) objects,
    List.flatMap_map, modelRefs_filterMap]
  exact List.flatMap_congr fun s _ => refs_answerOf p r s

theorem refs_security (secured : Bool) :
    ((if secured then some (.arr [.obj [(bearerAuth, .arr [])]]) else none).map refs).getD [] =
      [] := by
  cases secured <;> rfl

/-- The references of an operation are those of the models of its route that the project has. -/
theorem refs_operation (p : Project) (r : Route) (id : String) :
    refs (Operation.ofRoute p r id).toJson = modelRefs p (taggedModels r) := by
  have leaf : ∀ s : String, refs (.str s) = [] := fun _ => rfl
  have plain : ∀ q ∈ (Operation.ofRoute p r id).parameters, refs q.toJson = [] := by
    intro q member
    rcases List.mem_append.mp member with path | query
    · obtain ⟨_, -, rfl⟩ := List.mem_map.mp path
      exact refs_parameter ..
    · obtain ⟨_, -, rfl⟩ := List.mem_map.mp query
      exact refs_parameter ..
  have remark : ((if (Operation.ofRoute p r id).deprecated then some (.bool true)
      else none).map refs).getD [] = [] := by
    split <;> rfl
  rw [Operation.toJson, refs_record (by simp), taggedModels, modelRefs_append,
    ← schemaRefs_bodyContent, ← refs_responses]
  simp only [List.flatMap_cons, List.flatMap_nil, Option.map_some, Option.getD_some, leaf,
    refs_strings, remark, refs_parameters plain, refs_body, refs_security, List.nil_append,
    List.append_nil]
  rfl

/-! ### Documents -/

theorem refs_paths (paths : List (String × List (Method × Operation))) :
    refs (.obj (paths.map fun item =>
      (item.1, .obj (item.2.map fun o => (o.1.lowercase, o.2.toJson))))) =
        paths.flatMap fun item => item.2.flatMap fun o => refs o.2.toJson := by
  refine (Json.refs_obj_map _ _ (fun item => ⟨_, rfl⟩) paths).trans ?_
  refine List.flatMap_congr fun item _ => ?_
  exact Json.refs_obj_map (fun o : Method × Operation => o.1.lowercase) (fun o => o.2.toJson)
    (fun o => ⟨_, rfl⟩) item.2

theorem refs_components {schemas : List (String × Schema)}
    (plain : ∀ s ∈ schemas, refs s.2.toJson = []) :
    refs (.obj (schemas.map fun s => (s.1, s.2.toJson))) = [] := by
  rw [Json.refs_obj_map (fun s : String × Schema => s.1) (fun s => s.2.toJson)
    fun s => s.2.exists_toJson_eq_obj]
  exact List.flatMap_eq_nil_iff.mpr plain

theorem refs_tags (tags : List String) :
    refs (.arr (tags.map fun t =>
      .obj [("name", .str t), ("description", .str (t ++ " operations"))])) = [] := by
  rw [refs_arr, List.flatMap_map, List.flatMap_eq_nil_iff]
  intro t _
  rfl

/-- The references of a document are those of its operations: components have none. -/
theorem refs_document (p : Project) (routes : List Route) :
    refs (Document.assemble p routes).toJson =
      (Document.assemble p routes).entries.flatMap fun e => refs e.2.toJson := by
  let d := Document.assemble p routes
  have plain : ∀ s ∈ d.schemas, refs s.2.toJson = [] := by
    intro s member
    obtain ⟨m, -, rfl⟩ := List.mem_map.mp member
    exact Schema.refs_ofModel m
  have parts : refs d.toJson = refs (.obj (d.paths.map fun item =>
      (item.1, .obj (item.2.map fun o => (o.1.lowercase, o.2.toJson))))) ++
        refs (.obj (d.schemas.map fun s => (s.1, s.2.toJson))) ++
        refs (.arr (d.tags.map fun t =>
          .obj [("name", .str t), ("description", .str (t ++ " operations"))])) := by
    have leaf : refs (.str "3.0.3") = [] := rfl
    have info : refs (.obj [("title", .str d.title), ("description", .str d.description),
        ("version", .str "1.0.0")]) = [] := rfl
    have servers : refs (Document.serversJson d.port) = [] := rfl
    have security : refs Document.securityJson = [] := rfl
    rw [Document.toJson, refs_obj]
    simp [ownRef, leaf, info, servers, security, refs_obj [("schemas", _), _]]
  show refs d.toJson = d.entries.flatMap _
  rw [parts, refs_paths, refs_components plain, refs_tags, List.append_nil, List.append_nil,
    Document.entries, List.flatMap_assoc]
  exact List.flatMap_congr fun item _ => by rw [List.flatMap_map]

end OpenApi

namespace Project

/-- Every reference of a document is that of a model which a route is tagged with and which the
project has. It designates the component of the model, that of the first one with its name, exactly
if the name has neither slash nor tilde: these are not escaped. -/
theorem references_designate (p : Project) {ref : String}
    (found : ref ∈ p.compile.document.toJson.refs) :
    ∃ e ∈ p.endpoints, ∃ name ∈ OpenApi.taggedModels (p.routeOf e), ∃ m,
      p.model? name = some m ∧ ref = "#/components/schemas/" ++ name ∧
        let keys := ["components", "schemas", name]
        p.compile.document.toJson.at? keys = some (OpenApi.Schema.ofModel m).toJson ∧
          (Json.referenceKeys? ref = some keys ↔ '/' ∉ name.toList ∧ '~' ∉ name.toList) := by
  have there : ref ∈ p.compile.document.entries.flatMap fun e => e.2.toJson.refs :=
    OpenApi.refs_document p (Resolve.routes p) ▸ found
  obtain ⟨entry, member, inside⟩ := List.mem_flatMap.mp there
  obtain ⟨e, first, -, id, documents⟩ := exists_documented member
  rw [documents, OpenApi.refs_operation] at inside
  obtain ⟨name, kept, rfl⟩ := List.mem_map.mp inside
  obtain ⟨tagged, known⟩ := List.mem_filter.mp kept
  obtain ⟨m, model⟩ := Option.isSome_iff_exists.mp known
  exact ⟨e, List.mem_of_find?_eq_some first, name, tagged, m, model, rfl,
    OpenApi.Document.component_of_model model _, Json.referenceKeys_component_iff⟩

def orderItems : Project where
  nodes :=
    [{ id := "items", content := .endpoint { path := "/items" } },
     { id := "all", content := .database { operation := .list, model := "Order/Item" } }]
  edges := [{ id := "reads", source := "items", target := "all" }]
  models := [{ name := "Order/Item" }]

/-- A reference that leads nowhere: the slash in the name parts it into two keys. -/
theorem orderItems_astray :
    ∃ ref ∈ orderItems.compile.document.toJson.refs,
      (∃ e ∈ orderItems.endpoints, ∃ name ∈ OpenApi.taggedModels (orderItems.routeOf e),
        (orderItems.model? name).isSome ∧ ref = "#/components/schemas/" ++ name ∧
          Json.referenceKeys? ref ≠ some ["components", "schemas", name]) ∧
      orderItems.compile.document.toJson.resolve? ref = none := by
  let e : String × Endpoint := ("items", { path := "/items" })
  have kept : orderItems.routeOf e ∈ keptRoutes (Resolve.routes orderItems) := by decide +kernel
  have tagged : "Order/Item" ∈ OpenApi.taggedModels (orderItems.routeOf e) :=
    OpenApi.mem_taggedModels_iff.mpr (.inr ⟨200, _, rfl, rfl⟩)
  have there : "#/components/schemas/Order/Item" ∈ orderItems.compile.document.toJson.refs := by
    obtain ⟨id, entry⟩ := OpenApi.Document.exists_entry kept
    refine OpenApi.refs_document orderItems _ ▸ List.mem_flatMap.mpr ⟨_, entry, ?_⟩
    rw [OpenApi.refs_operation]
    exact List.mem_map.mpr ⟨_, List.mem_filter.mpr ⟨tagged, rfl⟩, rfl⟩
  have keys : Json.referenceKeys? "#/components/schemas/Order/Item" =
      some ["components", "schemas", "Order", "Item"] := by decide +kernel
  obtain ⟨e, present, name, wears, m, model, same, -, designated⟩ :=
    references_designate orderItems there
  refine ⟨_, there, ⟨e, present, name, wears, by simp [model], same, fun exact => ?_⟩, ?_⟩
  · have slash : '/' ∈ name.toList := by
      have texts : "#/components/schemas/".toList ++ "Order/Item".toList =
          "#/components/schemas/".toList ++ name.toList := by
        have written := congrArg String.toList same
        rw [String.toList_append] at written
        exact written
      rw [← List.append_cancel_left texts]
      decide
    exact (designated.mp exact).1 slash
  · rw [Json.resolve?, keys]
    rfl

end Project

end ApiGraph
