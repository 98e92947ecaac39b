import ApiGraph.Project.SchemaField
import ApiGraph.Proofs.Json.ReadBack

namespace ApiGraph.SchemaField

open Decoder Fields

theorem decodeAll_eq (items : List Json) : decodeAll items = items.mapM decode := by
  induction items with
  | nil => rfl
  | cons j rest ih =>
    rw [decodeAll, ih, List.mapM_cons]

theorem decodeChildren_eq : decodeChildren = nullable (list decode) := by
  funext j
  cases j with
  | arr items =>
    show some <$> decodeAll items = some <$> items.mapM decode
    rw [decodeAll_eq]
  | _ => rfl

theorem childrenOfKey_eq (fields : List (String × Json)) :
    childrenOfKey fields = ((fields.lookup "children").map decodeChildren).getD (.ok none) := by
  induction fields with
  | nil => rfl
  | cons f rest ih =>
    obtain ⟨key, j⟩ := f
    rw [childrenOfKey, Json.lookup_cons_eq, ih]
    by_cases same : key = "children"
    · rw [if_pos same, if_pos same.symm]
      rfl
    · rw [if_neg same, if_neg (Ne.symm same)]

theorem childrenAt_eq (n : Nat) (items : List Json) :
    childrenAt n items = (items[n]?.map decodeChildren).getD (.ok none) := by
  induction items generalizing n with
  | nil => cases n <;> rfl
  | cons j rest ih =>
    cases n with
    | zero => rfl
    | succ n => exact ih n

theorem lookup_zip (keys : List String) (items : List Json) (key : String) :
    (keys.zip items).lookup key = if key ∈ keys then items[keys.idxOf key]? else none := by
  induction keys generalizing items with
  | nil => rfl
  | cons k keys ih =>
    cases items with
    | nil => simp
    | cons j items =>
      rw [List.zip_cons_cons, Json.lookup_cons_eq, ih, List.idxOf_cons]
      by_cases same : key = k
      · subst same
        simp
      · have other : (k == key) = false := by simpa using Ne.symm same
        rw [if_neg same, other]
        simp [same]

/-- Children that were read beforehand are those that the record holds. -/
theorem read_writtenFields {entries : List (String × Json)}
    {children : Except DecodeError (Option (List SchemaField))}
    (beforehand : children = ((entries.lookup "children").map decodeChildren).getD (.ok none)) :
    (writtenFields fun _ => children).read entries =
      (writtenFields decodeChildren).read entries := by
  have same : (Fields.default "children" none fun _ => children).read entries =
      (Fields.default "children" none decodeChildren).read entries := by
    subst beforehand
    simp only [Fields.default, Fields.optional]
    cases entries.lookup "children" <;> rfl
  show Reading.both _ ((Fields.default "children" none fun _ => children).read entries) = _
  rw [same]
  rfl

/-- A field is read as a record whose children are fields. -/
theorem decode_eq (j : Json) : decode j =
    (Fields.decode "RawSchemaField" (writtenFields (nullable (list decode))) j).bind
      Written.resolve := by
  rw [← decodeChildren_eq]
  cases j with
  | obj fields =>
    have same := read_writtenFields (childrenOfKey_eq fields)
    rw [decode, ofRecord]
    simp only [Fields.decode, same]
    rfl
  | arr items =>
    have keys : (writtenFields fun _ => childrenAt 11 items).keys =
        (writtenFields decodeChildren).keys := rfl
    have same := @read_writtenFields ((writtenFields decodeChildren).keys.zip items)
      (childrenAt 11 items) (by rw [lookup_zip, if_pos (by decide), childrenAt_eq]; rfl)
    rw [decode, ofRecord]
    simp only [Fields.decode, keys, same]
    rfl
  | _ => rfl

theorem nested {P : SchemaField → Prop}
    (field : ∀ a : SchemaField, (∀ c ∈ a.kind.children, P c) → P a) (a : SchemaField) : P a := by
  cases a with
  | mk name kind required description constraints => exact field _ fun c _ => nested field c
termination_by sizeOf a
decreasing_by
  cases kind <;> simp only [SchemaField.kind, FieldKind.children, List.not_mem_nil] at *
  all_goals
    have := List.sizeOf_lt_of_mem ‹_›
    simp only [mk.sizeOf_spec, FieldKind.object.sizeOf_spec, FieldKind.array.sizeOf_spec]
    omega

/-- The children that are written beside a kind. -/
def writtenChildren : FieldKind → Option (List SchemaField)
  | .object cs | .array cs => some cs
  | _ => none

theorem toJsonAll_eq (fields : List SchemaField) : toJsonAll fields = fields.map toJson := by
  induction fields with
  | nil => rfl
  | cons a rest ih => rw [toJsonAll, ih, List.map_cons]

theorem kindToJson_eq (kind : FieldKind) :
    kindToJson kind = (writtenChildren kind).map fun cs => .arr (cs.map toJson) := by
  cases kind <;> simp [kindToJson, writtenChildren, toJsonAll_eq]

theorem ofName_writtenChildren (kind : FieldKind) :
    FieldKind.ofName kind.name (writtenChildren kind) = some kind := by
  cases kind <;> rfl

theorem children_eq_of_written {kind : FieldKind} {cs : List SchemaField}
    (written : cs ∈ writtenChildren kind) : kind.children = cs := by
  cases kind <;> cases written <;> rfl

/-- A kind that was read has no children but those that were read. -/
theorem mem_children_of_ofName {type : String} {children : Option (List SchemaField)}
    {kind : FieldKind} (read : FieldKind.ofName type children = some kind) {c : SchemaField}
    (member : c ∈ kind.children) : ∃ cs ∈ children, c ∈ cs := by
  unfold FieldKind.ofName at read
  split at read <;> cases read
  case h_4 | h_5 =>
    cases children with
    | none => cases member
    | some cs => exact ⟨cs, rfl, member⟩
  all_goals cases member

/-- A record whose kind and children are those of a field is read as the field. -/
theorem spells_of_written {a : SchemaField} {j : Json}
    (spells : (Fields.decode "RawSchemaField" (writtenFields (nullable (list decode)))).Spells j
      ⟨a.name, a.kind.name, a.required, a.description, a.constraints, writtenChildren a.kind⟩) :
    Decoder.Spells decode j a := by
  obtain ⟨legible, read⟩ := spells
  obtain ⟨name, kind, required, description, constraints⟩ := a
  refine ⟨legible, ?_⟩
  rw [decode_eq, read]
  show Written.resolve _ = _
  unfold Written.resolve
  simp only [SchemaField.kind, ofName_writtenChildren]
  rfl

/-- Lengths are numbers of 64 bits, in a field and in all fields below it. -/
inductive Fits : SchemaField → Prop where
  | intro {a : SchemaField} (least : ∀ n ∈ a.constraints.minLength, n < 2 ^ 64)
      (most : ∀ n ∈ a.constraints.maxLength, n < 2 ^ 64)
      (below : ∀ c ∈ a.kind.children, Fits c) : Fits a

theorem Fits.spells {a : SchemaField} (fits : a.Fits) : Decoder.Spells decode a.toJson a := by
  induction fits with
  | @intro a least most _ each =>
    refine spells_of_written ?_
    obtain ⟨name, kind, required, description, sample, choices, minLength, maxLength, minimum,
      maximum, pattern⟩ := a
    exact (keeps_some (spells_text name)).map _
      |>.seq (keeps_some (spells_text kind.name))
      |>.seq (keeps_some (spells_bool required))
      |>.seq (keeps_some (spells_text description))
      |>.seq (keeps_maybe_text sample)
      |>.seq (keeps_maybe _ fun l _ => ⟨spells_strings l, nofun⟩)
      |>.seq (keeps_maybe .nat fun n given => ⟨spells_unsigned (least n given) (by decide), nofun⟩)
      |>.seq (keeps_maybe .nat fun n given => ⟨spells_unsigned (most n given) (by decide), nofun⟩)
      |>.seq (keeps_maybe _ fun x _ => ⟨spells_float x, nofun⟩)
      |>.seq (keeps_maybe _ fun x _ => ⟨spells_float x, nofun⟩)
      |>.seq (keeps_maybe_text pattern)
      |>.seq (keeps_maybe (fun cs => .arr (cs.map toJson)) fun cs written =>
        ⟨spells_list fun c inside => each c (children_eq_of_written written ▸ inside), nofun⟩)
      |>.spells (by decide) (by rw [toJson, kindToJson_eq]; rfl)

/-- The members of a field as it is written, by name or by position. -/
def members (j : Json) : List (String × Json) :=
  (writtenFields (nullable (list decode))).entriesOf j

theorem exists_written {j : Json} {a : SchemaField} (read : decode j = .ok a) :
    ∃ w, (writtenFields (nullable (list decode))).read (members j) = .ok w ∧
      w.resolve = .ok a := by
  rw [decode_eq] at read
  obtain ⟨w, found, resolved⟩ := exists_of_bind_eq_ok read
  exact ⟨w, read_entriesOf found, resolved⟩

theorem kind_of_resolve {w : Written} {a : SchemaField} (resolved : w.resolve = .ok a) :
    FieldKind.ofName w.type w.children = some a.kind ∧ a.constraints = w.constraints := by
  unfold Written.resolve at resolved
  split at resolved
  · rename_i kind found
    injection resolved with same
    subst same
    exact ⟨found, rfl⟩
  · cases resolved

/-- The members that decide about the lengths and the kind, one by one. -/
theorem parts_of_read {entries : List (String × Json)} {w : Written}
    {children : Decoder (Option (List SchemaField))}
    (read : (writtenFields children).read entries = .ok w) :
    (Fields.default "type" "string" text).read entries = .ok w.type ∧
      (maybe "minLength" (unsigned 64)).read entries = .ok w.constraints.minLength ∧
      (maybe "maxLength" (unsigned 64)).read entries = .ok w.constraints.maxLength ∧
      (Fields.default "children" none children).read entries = .ok w.children := by
  have parts : ∃ v, (writtenFields children).read entries = .ok v ∧ v = w := ⟨w, read, rfl⟩
  simp only [writtenFields, exists_read_seq, exists_read_map] at parts
  obtain ⟨name, -, type, typed, required, -, description, -, sample, -, choices, -, minLength,
    least, maxLength, most, minimum, -, maximum, -, pattern, -, children, owned, rfl⟩ := parts
  exact ⟨typed, least, most, owned⟩

theorem fits_of_decode {j : Json} {a : SchemaField} (read : decode j = .ok a) : a.Fits := by
  induction a using nested generalizing j with
  | field a ih =>
    obtain ⟨w, fields, resolved⟩ := exists_written read
    obtain ⟨kind, constraints⟩ := kind_of_resolve resolved
    obtain ⟨-, least, most, owned⟩ := parts_of_read fields
    have small : ∀ {key : String} {length : Option Nat},
        (maybe key (unsigned 64)).read (members j) = .ok length → ∀ n ∈ length, n < 2 ^ 64 := by
      intro key length found n given
      obtain ⟨i, -, -, value⟩ := lookup_of_maybe found n given
      exact (eq_of_unsigned value).2
    refine .intro (constraints ▸ small least) (constraints ▸ small most) fun c member => ?_
    obtain ⟨cs, present, inside⟩ := mem_children_of_ofName kind member
    obtain ⟨i, -, -, value⟩ := lookup_of_maybe owned cs present
    cases i with
    | arr items =>
      obtain ⟨item, -, found⟩ := mem_of_mapM_eq_ok value inside
      exact ih c member found
    | _ => cases value

theorem spells (a : SchemaField) (yields : Decoder.Yields decode a) :
    Decoder.Spells decode a.toJson a := by
  obtain ⟨j, -, read⟩ := yields
  exact (fits_of_decode read).spells

end ApiGraph.SchemaField
