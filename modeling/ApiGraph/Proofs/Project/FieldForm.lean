import ApiGraph.Proofs.Project.SchemaField

/-!
# The form of schema fields

A tree of fields is written in one form: at every depth an object or an array has children and a
scalar has none (`Canonical`). Whatever is read as a field is in this form once it was written, and
reading and writing it again changes nothing: `one_form`.
-/

namespace ApiGraph

namespace FieldKind

def compositeTypes : List String := ["object", "array"]

def scalarTypes : List String := ["string", "number", "boolean"]

end FieldKind

namespace SchemaField

open Decoder Fields FieldKind

/-- At every depth the fields with children are the objects and the arrays. -/
inductive Canonical : Json → Prop where
  | scalar {fields : List (String × Json)} {type : String}
      (typed : fields.lookup "type" = some (.str type)) (scalar : type ∈ scalarTypes)
      (childless : fields.lookup "children" = none) : Canonical (.obj fields)
  | composite {fields : List (String × Json)} {type : String} {items : List Json}
      (typed : fields.lookup "type" = some (.str type)) (composite : type ∈ compositeTypes)
      (owned : fields.lookup "children" = some (.arr items))
      (below : ∀ j ∈ items, Canonical j) : Canonical (.obj fields)

theorem exists_normal_toJson (a : SchemaField) :
    ∃ fields, a.toJson.normal = .obj fields ∧ fields.lookup "type" = some (.str a.kind.name) ∧
      fields.lookup "children" =
        (writtenChildren a.kind).map fun cs => .arr (cs.map fun c => c.toJson.normal) := by
  obtain ⟨name, kind, required, description, c⟩ := a
  rw [toJson, Json.normal_record]
  refine ⟨_, rfl, ?_, ?_⟩
  · rw [Json.lookup_normalRecord (by simp)]
    simp [Json.lookup_cons_eq, Json.normal, SchemaField.kind]
  · rw [Json.lookup_normalRecord (by simp), kindToJson_eq]
    simp [Json.lookup_cons_eq, Json.normal_arr, SchemaField.kind, Function.comp_def]

theorem canonical_toJson (a : SchemaField) : Canonical a.toJson.normal := by
  induction a using nested with
  | field a ih =>
    obtain ⟨fields, form, typed, owned⟩ := exists_normal_toJson a
    rw [form]
    cases kind : a.kind with
    | string | number | boolean =>
      rw [kind] at typed owned
      exact .scalar typed (by decide) owned
    | object cs | array cs =>
      rw [kind] at typed owned ih
      exact .composite typed (by simp [FieldKind.name, compositeTypes]) owned
        (List.forall_mem_map.mpr ih)

/-- What becomes of the type and of the children that a value states. -/
structure ReadFrom (j : Json) (a : SchemaField) : Prop where
  type : (members j).lookup "type" = some (.str a.kind.name) ∨
    (members j).lookup "type" = none ∧ a.kind = .string
  missing : (members j).lookup "children" = none ∨ (members j).lookup "children" = some .null →
    a.kind.children = []
  stray : a.kind.name ∈ scalarTypes → a.kind.children = []
  given : ∀ items, (members j).lookup "children" = some (.arr items) →
    a.kind.name ∈ compositeTypes →
      List.Forall₂ (fun i c => decode i = .ok c) items a.kind.children

/-- A kind is that of its name, and only composite ones own children. -/
theorem kind_of_ofName {type : String} {children : Option (List SchemaField)} {kind : FieldKind}
    (read : FieldKind.ofName type children = some kind) :
    kind.name = type ∧ (type ∈ scalarTypes → kind.children = []) ∧
      (type ∈ compositeTypes → kind.children = children.getD []) := by
  unfold FieldKind.ofName at read
  split at read <;> cases read <;>
    simp [FieldKind.name, FieldKind.children, scalarTypes, compositeTypes]

theorem eq_of_text {j : Json} {s : String} (read : text j = .ok s) : j = .str s := by
  unfold text at read
  split at read
  · cases read
    rfl
  · cases read

section

variable {entries : List (String × Json)}

/-- A type that is not stated is `string`. -/
theorem type_of_read {type : String}
    (typed : (Fields.default "type" "string" text).read entries = .ok type) :
    entries.lookup "type" = some (.str type) ∨
      entries.lookup "type" = none ∧ type = "string" := by
  rcases cases_of_optional typed with ⟨absent, fallback⟩ | ⟨i, found, value⟩
  · injection fallback with same
    exact .inr ⟨absent, same.symm⟩
  · rw [found, eq_of_text value]
    exact .inl rfl

/-- Children are none where they are missing, and else the fields that were read. -/
theorem children_of_read {children : Option (List SchemaField)}
    (owned : (Fields.default "children" none (nullable (list decode))).read entries =
      .ok children) :
    (entries.lookup "children" = none ∨ entries.lookup "children" = some .null →
      children = none) ∧
    ∀ items, entries.lookup "children" = some (.arr items) →
      ∃ cs, children = some cs ∧ List.Forall₂ (fun i c => decode i = .ok c) items cs := by
  rcases cases_of_optional owned with ⟨absent, fallback⟩ | ⟨i, found, value⟩
  · injection fallback with same
    refine ⟨fun _ => same.symm, fun items stated => ?_⟩
    rw [absent] at stated
    cases stated
  · rw [found]
    refine ⟨?_, ?_⟩
    · rintro (missing | missing)
      · cases missing
      · cases missing
        injection value with same
        exact same.symm
    · intro items stated
      cases stated
      obtain ⟨cs, each, same⟩ := exists_of_map_eq_ok value
      exact ⟨cs, same.symm, forall₂_of_mapM_eq_ok each⟩

end

theorem readFrom_of_decode {j : Json} {a : SchemaField} (read : decode j = .ok a) :
    ReadFrom j a := by
  obtain ⟨w, fields, resolved⟩ := exists_written read
  obtain ⟨typed, -, -, owned⟩ := parts_of_read fields
  obtain ⟨missing, given⟩ := children_of_read owned
  have kind := (kind_of_resolve resolved).1
  obtain ⟨name, scalar, composite⟩ := kind_of_ofName kind
  rw [← name] at scalar composite
  refine ⟨?_, fun none => ?_, scalar, fun items stated isComposite => ?_⟩
  · rcases type_of_read typed with stated | ⟨absent, string⟩
    · exact .inl (name ▸ stated)
    · refine .inr ⟨absent, ?_⟩
      rw [string] at kind
      exact (Option.some.inj kind).symm
  · refine List.eq_nil_iff_forall_not_mem.mpr fun c member => ?_
    obtain ⟨cs, present, -⟩ := mem_children_of_ofName kind member
    rw [missing none] at present
    cases present
  · obtain ⟨cs, same, each⟩ := given items stated
    rw [composite isComposite, same]
    exact each

/-- A value is read as a field and written again. -/
def rewritten (j : Json) : Except DecodeError Json :=
  (decode j).map fun a => a.toJson.normal

theorem rewritten_again {j k : Json} (pass : rewritten j = .ok k) : rewritten k = .ok k := by
  cases read : decode j with
  | error e => rw [rewritten, read] at pass; cases pass
  | ok a =>
    rw [rewritten, read] at pass
    cases pass
    rw [rewritten, (fits_of_decode read).spells.2]
    rfl

/-- Trees of fields have one form. A tree whose lengths fit is read back from what is written, which
has children exactly where there are objects and arrays. What is read from any value is such a tree,
without the children of scalars and with an empty list for missing ones of composites. Once a value
was read and written, doing so again gives the same value. -/
theorem one_form :
    (∀ a : SchemaField, a.Fits → decode a.toJson.normal = .ok a) ∧
    (∀ a : SchemaField, Canonical a.toJson.normal) ∧
    (∀ j a, decode j = .ok a → a.Fits ∧ ReadFrom j a) ∧
    ∀ j k, rewritten j = .ok k → rewritten k = .ok k :=
  ⟨fun _ fits => fits.spells.2, canonical_toJson,
    fun _ _ read => ⟨fits_of_decode read, readFrom_of_decode read⟩, fun _ _ => rewritten_again⟩

/-- A list that states no children. -/
def bareTags : Json := .obj [("name", .str "tags"), ("type", .str "array")]

/-- A text, for want of a type, that states children. -/
def strayNote : Json :=
  .obj [("children", .arr [.obj [("name", .str "lost")]]), ("name", .str "note")]

theorem bareTags_strayNote_form :
    ∃ tags note, decode bareTags = .ok tags ∧ decode strayNote = .ok note ∧
      tags.kind.children = [] ∧ note.kind = .string ∧
      ∀ a ∈ [tags, note], Canonical a.toJson.normal ∧ decode a.toJson.normal = .ok a := by
  obtain ⟨again, canonical, read, -⟩ := one_form
  obtain ⟨tags, readTags⟩ : ∃ tags, decode bareTags = .ok tags := ⟨_, rfl⟩
  obtain ⟨note, readNote⟩ : ∃ note, decode strayNote = .ok note := ⟨_, rfl⟩
  obtain ⟨fitsTags, fromTags⟩ := read _ _ readTags
  obtain ⟨fitsNote, fromNote⟩ := read _ _ readNote
  have string : note.kind = .string := by
    rcases fromNote.type with stated | ⟨-, string⟩
    · cases stated
    · exact string
  refine ⟨tags, note, readTags, readNote, fromTags.missing (.inl rfl), string, fun a member => ?_⟩
  rcases List.mem_pair.mp member with rfl | rfl
  · exact ⟨canonical _, again _ fitsTags⟩
  · exact ⟨canonical _, again _ fitsNote⟩

end SchemaField

end ApiGraph
