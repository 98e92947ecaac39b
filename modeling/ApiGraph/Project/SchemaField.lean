import ApiGraph.Json.Decode

/-!
# Schema fields

The fields of request and response bodies, as trees: objects and arrays own their children, so a
scalar never has any. Children read on a scalar are checked and dropped, and absent children of a
composite are an empty list.
-/

namespace ApiGraph

structure Constraints where
  example? : Option String := none
  choices : Option (List String) := none
  minLength : Option Nat := none
  maxLength : Option Nat := none
  minimum : Option Binary64 := none
  maximum : Option Binary64 := none
  pattern : Option String := none
deriving DecidableEq, Repr

mutual

inductive FieldKind where
  | string
  | number
  | boolean
  | object (children : List SchemaField)
  | array (children : List SchemaField)

inductive SchemaField where
  | mk (name : String) (kind : FieldKind) (required : Bool) (description : String)
    (constraints : Constraints)

end

namespace FieldKind

def name : FieldKind → String
  | .string => "string"
  | .number => "number"
  | .boolean => "boolean"
  | .object _ => "object"
  | .array _ => "array"

def children : FieldKind → List SchemaField
  | .object cs | .array cs => cs
  | _ => []

/-- The kind of a name, with the children it would own. -/
def ofName (name : String) (children : Option (List SchemaField)) : Option FieldKind :=
  match name with
  | "string" => some .string
  | "number" => some .number
  | "boolean" => some .boolean
  | "object" => some (.object (children.getD []))
  | "array" => some (.array (children.getD []))
  | _ => none

end FieldKind

namespace SchemaField

def name : SchemaField → String
  | .mk n _ _ _ _ => n

def kind : SchemaField → FieldKind
  | .mk _ k _ _ _ => k

def required : SchemaField → Bool
  | .mk _ _ r _ _ => r

def description : SchemaField → String
  | .mk _ _ _ d _ => d

def constraints : SchemaField → Constraints
  | .mk _ _ _ _ c => c

mutual

def same : SchemaField → SchemaField → Bool
  | .mk n k r d c, .mk n' k' r' d' c' => n == n' && sameKind k k' && r == r' && d == d' && c == c'

def sameKind : FieldKind → FieldKind → Bool
  | .string, .string => true
  | .number, .number => true
  | .boolean, .boolean => true
  | .object a, .object b => sameAll a b
  | .array a, .array b => sameAll a b
  | _, _ => false

def sameAll : List SchemaField → List SchemaField → Bool
  | [], [] => true
  | a :: as, b :: bs => same a b && sameAll as bs
  | _, _ => false

end

mutual

theorem eq_of_same : ∀ {a b : SchemaField}, same a b = true → a = b
  | .mk n k r d c, .mk n' k' r' d' c', h => by
    simp only [same, Bool.and_eq_true, beq_iff_eq] at h
    obtain ⟨⟨⟨⟨hn, hk⟩, hr⟩, hd⟩, hc⟩ := h
    rw [hn, eq_of_sameKind hk, hr, hd, hc]

theorem eq_of_sameKind : ∀ {a b : FieldKind}, sameKind a b = true → a = b
  | .string, b, h => by cases b <;> simp [sameKind] at h ⊢
  | .number, b, h => by cases b <;> simp [sameKind] at h ⊢
  | .boolean, b, h => by cases b <;> simp [sameKind] at h ⊢
  | .object as, b, h => by
    cases b <;> simp [sameKind] at h ⊢
    exact eq_of_sameAll h
  | .array as, b, h => by
    cases b <;> simp [sameKind] at h ⊢
    exact eq_of_sameAll h

theorem eq_of_sameAll : ∀ {a b : List SchemaField}, sameAll a b = true → a = b
  | [], b, h => by cases b <;> simp [sameAll] at h ⊢
  | a :: as, b, h => by
    cases b <;> simp [sameAll] at h ⊢
    exact ⟨eq_of_same h.1, eq_of_sameAll h.2⟩

end

mutual

theorem same_self : ∀ a : SchemaField, same a a = true
  | .mk _ k _ _ _ => by simp [same, sameKind_self k]

theorem sameKind_self : ∀ a : FieldKind, sameKind a a = true
  | .string => rfl
  | .number => rfl
  | .boolean => rfl
  | .object as => by simpa [sameKind] using sameAll_self as
  | .array as => by simpa [sameKind] using sameAll_self as

theorem sameAll_self : ∀ a : List SchemaField, sameAll a a = true
  | [] => rfl
  | a :: as => by simp [sameAll, same_self a, sameAll_self as]

end

theorem same_iff {a b : SchemaField} : same a b = true ↔ a = b :=
  ⟨eq_of_same, fun h => h ▸ same_self a⟩

instance : DecidableEq SchemaField := fun _ _ => decidable_of_iff _ same_iff

/-- A field as it is written: the kind is a name and the children stand beside it. -/
structure Written where
  name : String
  type : String
  required : Bool
  description : String
  constraints : Constraints
  children : Option (List SchemaField)

def Written.resolve (w : Written) : Except DecodeError SchemaField :=
  match FieldKind.ofName w.type w.children with
  | some kind => .ok (.mk w.name kind w.required w.description w.constraints)
  | none => .error (.unknownFieldType w.type w.name)

def writtenFields (children : Decoder (Option (List SchemaField))) : Fields Written :=
  (fun name type required description ex choices minLength maxLength minimum maximum pattern cs =>
      ⟨name, type, required, description,
        ⟨ex, choices, minLength, maxLength, minimum, maximum, pattern⟩, cs⟩)
    <$> Fields.default "name" "" Decoder.text
    <*> Fields.default "type" "string" Decoder.text
    <*> Fields.default "required" false Decoder.bool
    <*> Fields.default "description" "" Decoder.text
    <*> Fields.maybe "example" Decoder.text
    <*> Fields.maybe "enum" (Decoder.list Decoder.text)
    <*> Fields.maybe "minLength" (Decoder.unsigned 64)
    <*> Fields.maybe "maxLength" (Decoder.unsigned 64)
    <*> Fields.maybe "minimum" Decoder.float
    <*> Fields.maybe "maximum" Decoder.float
    <*> Fields.maybe "pattern" Decoder.text
    <*> Fields.default "children" none children

/-- The field that a record spells, whose children were read beforehand. -/
def ofRecord (children : Except DecodeError (Option (List SchemaField))) : Decoder SchemaField :=
  fun j => do
    let written ← Fields.decode "RawSchemaField" (writtenFields fun _ => children) j
    written.resolve

mutual

def decode : Json → Except DecodeError SchemaField
  | .obj fields => ofRecord (childrenOfKey fields) (.obj fields)
  | .arr items => ofRecord (childrenAt 11 items) (.arr items)
  | j => ofRecord (.ok none) j

def childrenOfKey : List (String × Json) → Except DecodeError (Option (List SchemaField))
  | [] => .ok none
  | (key, j) :: rest => if key = "children" then decodeChildren j else childrenOfKey rest

def childrenAt : Nat → List Json → Except DecodeError (Option (List SchemaField))
  | _, [] => .ok none
  | 0, j :: _ => decodeChildren j
  | n + 1, _ :: rest => childrenAt n rest

/-- Reads the children of a field, which may be `null`. -/
def decodeChildren : Json → Except DecodeError (Option (List SchemaField))
  | .null => .ok none
  | .arr items => some <$> decodeAll items
  | j => .error (.wrongType j "a sequence")

def decodeAll : List Json → Except DecodeError (List SchemaField)
  | [] => .ok []
  | j :: rest => do
    let field ← decode j
    return field :: (← decodeAll rest)

end

mutual

def toJson : SchemaField → Json
  | .mk name kind required description c => .record
    [("name", some (.str name)),
     ("type", some (.str kind.name)),
     ("required", some (.bool required)),
     ("description", some (.str description)),
     ("example", c.example?.map .str),
     ("enum", c.choices.map .strings),
     ("minLength", c.minLength.map .nat),
     ("maxLength", c.maxLength.map .nat),
     ("minimum", c.minimum.map .float),
     ("maximum", c.maximum.map .float),
     ("pattern", c.pattern.map .str),
     ("children", kindToJson kind)]

/-- The children of a kind, where it owns any. -/
def kindToJson : FieldKind → Option Json
  | .object cs | .array cs => some (.arr (toJsonAll cs))
  | _ => none

def toJsonAll : List SchemaField → List Json
  | [] => []
  | a :: as => toJson a :: toJsonAll as

end

end SchemaField

end ApiGraph
