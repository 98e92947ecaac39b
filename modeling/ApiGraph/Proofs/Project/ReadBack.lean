import ApiGraph.Project.Basic
import ApiGraph.Proofs.Project.SchemaField

/-!
# Reading back the parts of a project

Every part of a project that was read is spelt by its written form, one theorem a type. The only
part that its written form does not spell is a gate with an open option: `AuthGate.settled` is what
is read in its place.
-/

namespace ApiGraph

open Decoder Fields

theorem Method.spells (m : Method) : Method.decode.Spells (.str m.name) m :=
  spells_variant (by cases m <;> rfl)

theorem AuthScheme.spells (s : AuthScheme) : AuthScheme.decode.Spells (.str s.name) s :=
  spells_variant (by cases s <;> rfl)

theorem TokenLocation.spells (l : TokenLocation) : TokenLocation.decode.Spells (.str l.name) l :=
  spells_variant (by cases l <;> rfl)

theorem ParamType.spells (t : ParamType) : ParamType.decode.Spells (.str t.name) t :=
  spells_variant (by cases t <;> rfl)

theorem DataOperation.spells (o : DataOperation) : DataOperation.decode.Spells (.str o.name) o :=
  spells_variant (by cases o <;> rfl)

theorem Comparison.spells (c : Comparison) : Comparison.decode.Spells (.str c.name) c :=
  spells_variant (by cases c <;> rfl)

theorem ValueSource.spells (s : ValueSource) : ValueSource.decode.Spells (.str s.name) s :=
  spells_variant (by cases s <;> rfl)

theorem Direction.spells (d : Direction) : Direction.decode.Spells (.str d.name) d :=
  spells_variant (by cases d <;> rfl)

theorem ContentType.spells (t : ContentType) : ContentType.decode.Spells (.str t.name) t :=
  spells_variant (by cases t <;> rfl)

theorem Cardinality.spells (c : Cardinality) : Cardinality.decode.Spells (.str c.name) c :=
  spells_variant (by cases c <;> rfl)

theorem Engine.spells (e : Engine) : Engine.decode.Spells (.str e.name) e :=
  spells_variant (by cases e <;> rfl)

theorem Target.spells (t : Target) : Target.decode.Spells (.str t.name) t :=
  spells_variant (by cases t <;> rfl)

theorem Layout.spells (l : Layout) : Layout.decode.Spells (.str l.name) l :=
  spells_variant (by cases l <;> rfl)

/-- A type is named by itself: the name of a type beyond the six is none of theirs. -/
theorem FieldType.ofName_name (t : FieldType) : ofName t.name = t := by
  cases t with
  | other name unknown => exact dif_neg unknown
  | _ => rfl

theorem FieldType.spells (t : FieldType) : FieldType.decode.Spells (.str t.name) t := by
  refine ⟨.str t.name, ?_⟩
  show Except.ok (FieldType.ofName t.name) = .ok t
  rw [FieldType.ofName_name]

theorem EndpointAuth.spells (a : EndpointAuth) : EndpointAuth.decode.Spells a.toJson a := by
  obtain ⟨required, scheme, roles, location, header⟩ := a
  exact (keeps_some (spells_bool required)).map mk
    |>.seq (keeps_some scheme.spells)
    |>.seq (keeps_some (spells_strings roles))
    |>.seq (keeps_maybe _ fun l _ => ⟨l.spells, nofun⟩)
    |>.seq (keeps_maybe_text header)
    |>.spells (by decide) rfl

theorem Param.spells (p : Param) : Param.decode.Spells p.toJson p := by
  obtain ⟨name, type, required, description, sample, choices⟩ := p
  exact (keeps_some (spells_text name)).map mk
    |>.seq (keeps_some type.spells)
    |>.seq (keeps_some (spells_bool required))
    |>.seq (keeps_some (spells_text description))
    |>.seq (keeps_maybe_text sample)
    |>.seq (keeps_maybe _ fun l _ => ⟨spells_strings l, nofun⟩)
    |>.spells (by decide) rfl

theorem RateLimit.spells {r : RateLimit} (yields : RateLimit.decode.Yields r) :
    RateLimit.decode.Spells r.toJson r := by
  obtain ⟨entries, sound, read⟩ := exists_entries yields
  simp only [exists_read_seq, exists_read_map] at read
  obtain ⟨enabled, -, requests, requestsRead, windowMs, windowRead, rfl⟩ := read
  exact (keeps_some (spells_bool enabled)).map mk
    |>.seq (keeps_unsigned sound requestsRead (by decide) (by decide))
    |>.seq (keeps_unsigned sound windowRead (by decide) (by decide))
    |>.spells (by decide) rfl

theorem DeclaredResponse.spells {r : DeclaredResponse} (yields : DeclaredResponse.decode.Yields r) :
    DeclaredResponse.decode.Spells r.toJson r := by
  obtain ⟨entries, sound, read⟩ := exists_entries yields
  simp only [exists_read_seq, exists_read_map] at read
  obtain ⟨status, statusRead, description, -, schema, schemaRead, sample, -, rfl⟩ := read
  exact (keeps_unsigned sound statusRead (by decide) (by decide)).map mk
    |>.seq (keeps_some (spells_text description))
    |>.seq (keeps_list sound schemaRead fun a _ => a.spells)
    |>.seq (keeps_maybe_text sample)
    |>.spells (by decide) (by rw [toJson, SchemaField.toJsonAll_eq]; rfl)

theorem DeclaredResponse.spells_ofStatus :
    DeclaredResponse.decode.Spells (ofStatus 200).toJson (ofStatus 200) :=
  DeclaredResponse.spells ⟨.obj [("description", .str "Successful response")], .obj
    (fun _ member => List.mem_singleton.mp member ▸ .str _) (List.pairwise_singleton _ _), rfl⟩

theorem Endpoint.spells {e : Endpoint} (yields : Endpoint.decode.Yields e) :
    Endpoint.decode.Spells e.toJson e := by
  obtain ⟨entries, sound, read⟩ := exists_entries yields
  simp only [exists_read_seq, exists_read_map] at read
  obtain ⟨method, -, path, -, summary, -, description, -, tags, -, deprecated, -, auth, -,
    pathParams, -, queryParams, -, body, bodyRead, responses, responsesRead, rateLimit, limitRead,
    rfl⟩ := read
  have limits : ∀ l ∈ rateLimit, RateLimit.decode.Spells l.toJson l ∧ l.toJson ≠ .null :=
    fun l member => by
      obtain ⟨j, legible, -, value⟩ := yields_of_maybe sound limitRead l member
      exact ⟨RateLimit.spells ⟨j, legible, value⟩, nofun⟩
  exact (keeps_some method.spells).map mk
    |>.seq (keeps_some (spells_text path))
    |>.seq (keeps_some (spells_text summary))
    |>.seq (keeps_some (spells_text description))
    |>.seq (keeps_some (spells_strings tags))
    |>.seq (keeps_some (spells_bool deprecated))
    |>.seq (keeps_some auth.spells)
    |>.seq (keeps_some (spells_list fun p _ => p.spells))
    |>.seq (keeps_some (spells_list fun p _ => p.spells))
    |>.seq (keeps_list sound bodyRead fun a _ => a.spells)
    |>.seq (keeps_default (fun l => .arr (l.map DeclaredResponse.toJson)) sound responsesRead
      (spells_list (by simpa using DeclaredResponse.spells_ofStatus)) fun yields =>
        spells_list fun r member => DeclaredResponse.spells (yields.list r member))
    |>.seq (keeps_maybe _ limits)
    |>.spells (by decide) (by rw [toJson, SchemaField.toJsonAll_eq]; rfl)

/-! ### Parts of the other nodes -/

theorem Filter.spells (f : Filter) : Filter.decode.Spells f.toJson f := by
  obtain ⟨field, comparison, value, source⟩ := f
  exact (keeps_some (spells_text field)).map mk
    |>.seq (keeps_some comparison.spells)
    |>.seq (keeps_some (spells_text value))
    |>.seq (keeps_some source.spells)
    |>.spells (by decide) rfl

theorem OrderBy.spells (o : OrderBy) : OrderBy.decode.Spells o.toJson o := by
  obtain ⟨field, direction⟩ := o
  exact (keeps_some (spells_text field)).map mk
    |>.seq (keeps_some direction.spells)
    |>.spells (by decide) rfl

/-- A value that is kept as it is, is spelt by itself. -/
theorem spells_raw {j : Json} (sound : j.Sound) : Decoder.Spells (fun j => .ok j) j j :=
  ⟨sound.legible, by rw [sound.normal_eq]⟩

theorem DataAccess.spells {d : DataAccess} (yields : DataAccess.decode.Yields d) :
    DataAccess.decode.Spells d.toJson d := by
  obtain ⟨entries, sound, read⟩ := exists_entries yields
  simp only [exists_read_seq, exists_read_map] at read
  obtain ⟨operation, -, model, -, filters, -, select, -, orderBy, -, limit, limitRead, rfl⟩ := read
  have kept : ∀ j ∈ limit, Decoder.Spells (fun j => .ok j) (id j) j ∧ id j ≠ .null :=
    fun j member => by
      obtain ⟨i, legible, present, value⟩ := yields_of_maybe sound limitRead j member
      injection value with same
      exact same ▸ ⟨spells_raw legible, present⟩
  exact (keeps_some operation.spells).map mk
    |>.seq (keeps_some (spells_text model))
    |>.seq (keeps_some (spells_list fun f _ => Filter.spells f))
    |>.seq (keeps_some (spells_strings select))
    |>.seq (keeps_maybe _ fun o _ => ⟨o.spells, nofun⟩)
    |>.seq (keeps_maybe _ kept)
    |>.spells (by decide) (by rw [toJson, Option.map_id]; rfl)

theorem ResponseShape.spells {r : ResponseShape} (yields : ResponseShape.decode.Yields r) :
    ResponseShape.decode.Spells r.toJson r := by
  obtain ⟨entries, sound, read⟩ := exists_entries yields
  simp only [exists_read_seq, exists_read_map] at read
  obtain ⟨status, statusRead, contentType, -, schema, schemaRead, headers, headersRead, rfl⟩ := read
  exact (keeps_unsigned sound statusRead (by decide) (by decide)).map mk
    |>.seq (keeps_some contentType.spells)
    |>.seq (keeps_list sound schemaRead fun a _ => a.spells)
    |>.seq (keeps_default (fun l => .obj (l.map fun h => (h.1, .str h.2))) sound headersRead
      (spells_dictionary .nil) fun yields =>
        spells_dictionary (ascending_of_yields_dictionary yields))
    |>.spells (by decide) (by rw [toJson, SchemaField.toJsonAll_eq]; rfl)

/-- The gate that is read in place of one: an open option has its default. -/
def AuthGate.settled (g : AuthGate) : AuthGate :=
  { g with
    location := some (g.location.getD .header)
    header := some (g.header.getD "Authorization")
    roles := some g.roleList }

/-- An option that is left open is read as its default. -/
theorem keeps_open {α : Type} {key : String} {d : Decoder α} {value : α} {o : Option α}
    (write : α → Json) (each : ∀ a, d.Spells (write a) a ∧ write a ≠ .null) :
    (Fields.default key (some value) (nullable d)).Keeps (some (o.getD value))
      [(key, o.map write)] := by
  cases o with
  | none => exact keeps_none
  | some a => exact keeps_some (spells_nullable (each a).1 (each a).2)

theorem AuthGate.spells (g : AuthGate) : AuthGate.decode.Spells g.toJson g.settled := by
  obtain ⟨scheme, location, header, roles⟩ := g
  exact (keeps_some scheme.spells).map mk
    |>.seq (keeps_open _ fun l => ⟨l.spells, nofun⟩)
    |>.seq (keeps_open _ fun s => ⟨spells_text s, nofun⟩)
    |>.seq (keeps_open _ fun l => ⟨spells_strings l, nofun⟩)
    |>.spells (by decide) rfl

theorem Relation.spells (r : Relation) : Relation.decode.Spells r.toJson r := by
  obtain ⟨model, field, cardinality⟩ := r
  exact (keeps_some (spells_text model)).map mk
    |>.seq (keeps_some (spells_text field))
    |>.seq (keeps_some cardinality.spells)
    |>.spells (by decide) rfl

theorem ModelField.spells (f : ModelField) : ModelField.decode.Spells f.toJson f := by
  obtain ⟨name, type, required, unique, isId, value, relation⟩ := f
  exact (keeps_some (spells_text name)).map mk
    |>.seq (keeps_some type.spells)
    |>.seq (keeps_some (spells_bool required))
    |>.seq (keeps_some (spells_bool unique))
    |>.seq (keeps_some (spells_bool isId))
    |>.seq (keeps_maybe_text value)
    |>.seq (keeps_maybe _ fun r _ => ⟨r.spells, nofun⟩)
    |>.spells (by decide) rfl

theorem Model.spells (m : Model) : Model.decode.Spells m.toJson m := by
  obtain ⟨name, fields⟩ := m
  exact (keeps_some (spells_text name)).map mk
    |>.seq (keeps_some (spells_list fun f _ => f.spells))
    |>.spells (by decide) rfl

theorem Settings.spells {s : Settings} (yields : Settings.decode.Yields s) :
    Settings.decode.Spells s.toJson s := by
  obtain ⟨entries, sound, read⟩ := exists_entries yields
  simp only [exists_read_seq, exists_read_map] at read
  obtain ⟨engine, -, port, portRead, basePath, -, docs, -, cors, -, origins, -, target, -, layout,
    -, rfl⟩ := read
  exact (keeps_some engine.spells).map mk
    |>.seq (keeps_unsigned sound portRead (by decide) (by decide))
    |>.seq (keeps_some (spells_text basePath))
    |>.seq (keeps_some (spells_bool docs))
    |>.seq (keeps_some (spells_bool cors))
    |>.seq (keeps_some (spells_strings origins))
    |>.seq (keeps_some target.spells)
    |>.seq (keeps_some layout.spells)
    |>.spells (by decide) rfl

/-! ### Nodes -/

namespace NodeContent

def settled : NodeContent → NodeContent
  | auth g => auth g.settled
  | c => c

theorem sound_orEmpty {j : Json} (sound : j.Sound) : (orEmpty j).Sound := by
  cases j with
  | null => exact .obj (fun _ member => nomatch member) .nil
  | _ => exact sound

theorem orEmpty_of_ne_null {j : Json} (present : j ≠ .null) : orEmpty j = j := by
  cases j <;> first | contradiction | rfl

/-- A configuration that was read is spelt by its written form. -/
theorem spells_config {kind : String} {config : Json} {c : NodeContent} (sound : config.Sound)
    (read : ofConfig kind config = .ok c) :
    c.configJson.Legible ∧ ofConfig c.typeName c.configJson.normal = .ok c.settled := by
  have legible := sound_orEmpty sound
  unfold ofConfig at read
  split at read
  · rename_i known
    split at read
    · obtain ⟨e, value, rfl⟩ := exists_of_map_eq_ok read
      exact (Endpoint.spells ⟨_, legible, value⟩).made endpoint
    · obtain ⟨d, value, rfl⟩ := exists_of_map_eq_ok read
      exact (DataAccess.spells ⟨_, legible, value⟩).made database
    · obtain ⟨g, -, rfl⟩ := exists_of_map_eq_ok read
      exact g.spells.made auth
    · obtain ⟨r, value, rfl⟩ := exists_of_map_eq_ok read
      exact (ResponseShape.spells ⟨_, legible, value⟩).made response
  · rename_i unknown
    injection read with same
    subst same
    refine ⟨legible.legible, ?_⟩
    show ofConfig kind (orEmpty config).normal = .ok (foreign kind (orEmpty config) _ _)
    rw [legible.normal_eq, ofConfig, dif_neg unknown]
    simp only [orEmpty_of_ne_null (orEmpty_ne_null config)]

theorem spells {c : NodeContent} (yields : NodeContent.decode.Yields c) :
    NodeContent.decode.Spells c.toJson c.settled := by
  obtain ⟨j, sound, read⟩ := yields
  obtain ⟨⟨kind, config⟩, found, content⟩ := exists_of_bind_eq_ok read
  obtain ⟨entries, sound, fields⟩ := exists_entries ⟨j, sound, found⟩
  simp only [exists_read_seq, exists_read_map] at fields
  obtain ⟨_, -, _, configRead, same⟩ := fields
  cases same
  have soundConfig : config.Sound := by
    rcases yields_of_default sound configRead with rfl | ⟨i, sound, value⟩
    · exact .null
    · injection value with same
      exact same ▸ sound
  obtain ⟨legible, back⟩ := spells_config soundConfig content
  obtain ⟨written, reading⟩ : Decoder.Spells
      (Fields.decode "RawNodeData" (Prod.mk <$> Fields.required "type" Decoder.text <*>
        Fields.default "config" .null fun j => .ok j)) c.toJson (c.typeName, c.configJson.normal) :=
    (keeps_some (spells_text c.typeName)).map Prod.mk
      |>.seq (keeps_some ⟨legible, rfl⟩)
      |>.spells (by decide) rfl
  refine ⟨written, ?_⟩
  unfold decode
  rw [reading]
  exact back

end NodeContent

def Node.settled (n : Node) : Node := { n with content := n.content.settled }

theorem Position.spells (p : Position) : Position.decode.Spells p.toJson p := by
  obtain ⟨x, y⟩ := p
  exact (keeps_some (spells_float x)).map mk
    |>.seq (keeps_some (spells_float y))
    |>.spells (by decide) rfl

theorem Node.spells {n : Node} (yields : Node.decode.Yields n) :
    Node.decode.Spells n.toJson n.settled := by
  obtain ⟨entries, sound, read⟩ := exists_entries yields
  simp only [exists_read_seq, exists_read_map] at read
  obtain ⟨id, -, type, -, position, -, content, contentRead, selected, -, rfl⟩ := read
  have spelt := NodeContent.spells (yields_of_required sound contentRead)
  exact (keeps_some (spells_text id)).map mk
    |>.seq (keeps_some (spells_text type))
    |>.seq (keeps_some position.spells)
    |>.seq (keeps_some spelt)
    |>.seq (keeps_maybe _ fun b _ => ⟨spells_bool b, nofun⟩)
    |>.spells (by decide) rfl

theorem Edge.spells (e : Edge) : Edge.decode.Spells e.toJson e := by
  obtain ⟨id, source, target, sourceHandle, targetHandle⟩ := e
  exact (keeps_some (spells_text id)).map mk
    |>.seq (keeps_some (spells_text source))
    |>.seq (keeps_some (spells_text target))
    |>.seq (keeps_maybe_text sourceHandle)
    |>.seq (keeps_maybe_text targetHandle)
    |>.spells (by decide) rfl

namespace Project

def settled (p : Project) : Project := { p with nodes := p.nodes.map Node.settled }

theorem spells {p : Project} (yields : Project.decode.Yields p) :
    Project.decode.Spells p.toJson p.settled := by
  obtain ⟨entries, sound, read⟩ := exists_entries yields
  simp only [exists_read_seq, exists_read_map] at read
  obtain ⟨version, versionRead, id, -, name, -, description, -, created, -, updated, -, nodes,
    nodesRead, edges, -, models, -, settings, settingsRead, rfl⟩ := read
  have each : ∀ n ∈ nodes, Node.decode.Spells n.toJson n.settled := fun n member => by
    rcases yields_of_default sound nodesRead with rfl | yields
    · cases member
    · exact Node.spells (yields.list n member)
  have base : Settings.decode.Spells (Settings.toJson {}) {} :=
    Settings.spells ⟨.obj [], .obj (fun _ member => nomatch member) .nil, rfl⟩
  exact (keeps_maybe_unsigned sound versionRead (by decide)).map mk
    |>.seq (keeps_some (spells_text id))
    |>.seq (keeps_some (spells_text name))
    |>.seq (keeps_some (spells_text description))
    |>.seq (keeps_maybe_text created)
    |>.seq (keeps_maybe_text updated)
    |>.seq (keeps_some (spells_list_map Node.settled each))
    |>.seq (keeps_some (spells_list fun e _ => Edge.spells e))
    |>.seq (keeps_some (spells_list fun m _ => Model.spells m))
    |>.seq (keeps_default _ sound settingsRead base Settings.spells)
    |>.spells (by decide) rfl

end Project

end ApiGraph
