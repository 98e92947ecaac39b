import ApiGraph.Json.Decode

/-!
# Data models

A model is a named record type. The type of a field is one of six, or another name that is kept as
it is; that name is never one of the six, so each spelling has one value.
-/

namespace ApiGraph

/-- The names of the field types with a meaning of their own. -/
def FieldType.known : List String := ["String", "Int", "Float", "Boolean", "DateTime", "Json"]

inductive FieldType where
  | string
  | int
  | float
  | boolean
  | dateTime
  | json
  | other (name : String) (unknown : name ∉ FieldType.known)
deriving DecidableEq

namespace FieldType

def name : FieldType → String
  | string => "String"
  | int => "Int"
  | float => "Float"
  | boolean => "Boolean"
  | dateTime => "DateTime"
  | json => "Json"
  | other name _ => name

def ofName (name : String) : FieldType :=
  if h : name ∈ known then
    match name with
    | "String" => string
    | "Int" => int
    | "Float" => float
    | "Boolean" => boolean
    | "DateTime" => dateTime
    | _ => json
  else other name h

def decode : Decoder FieldType := fun j => ofName <$> Decoder.text j

end FieldType

/-- How many records a relation joins. -/
inductive Cardinality where
  | oneToOne
  | oneToMany
  | manyToMany
deriving DecidableEq, Repr

namespace Cardinality

def all : List Cardinality := [oneToOne, oneToMany, manyToMany]

def name : Cardinality → String
  | oneToOne => "one-to-one"
  | oneToMany => "one-to-many"
  | manyToMany => "many-to-many"

def decode : Decoder Cardinality := Decoder.variant (all.map fun c => (c.name, c))

end Cardinality

structure Relation where
  model : String
  field : String
  cardinality : Cardinality
deriving DecidableEq, Repr

namespace Relation

def decode : Decoder Relation :=
  Fields.decode "Relation" <|
    Relation.mk
      <$> Fields.required "model" Decoder.text
      <*> Fields.required "field" Decoder.text
      <*> Fields.required "type" Cardinality.decode

def toJson (r : Relation) : Json := .obj
  [("model", .str r.model), ("field", .str r.field), ("type", .str r.cardinality.name)]

end Relation

structure ModelField where
  name : String
  type : FieldType
  required : Bool := false
  unique : Bool := false
  isId : Bool := false
  default? : Option String := none
  relation : Option Relation := none
deriving DecidableEq

namespace ModelField

def decode : Decoder ModelField :=
  Fields.decode "ModelField" <|
    ModelField.mk
      <$> Fields.required "name" Decoder.text
      <*> Fields.required "type" FieldType.decode
      <*> Fields.default "isRequired" false Decoder.bool
      <*> Fields.default "isUnique" false Decoder.bool
      <*> Fields.default "isId" false Decoder.bool
      <*> Fields.maybe "default" Decoder.text
      <*> Fields.maybe "relation" Relation.decode

def toJson (f : ModelField) : Json := .record
  [("name", some (.str f.name)),
   ("type", some (.str f.type.name)),
   ("isRequired", some (.bool f.required)),
   ("isUnique", some (.bool f.unique)),
   ("isId", some (.bool f.isId)),
   ("default", f.default?.map .str),
   ("relation", f.relation.map Relation.toJson)]

end ModelField

structure Model where
  name : String
  fields : List ModelField := []
deriving DecidableEq

namespace Model

def primaryKey (m : Model) : List ModelField := m.fields.filter (·.isId)

/-- The field that addresses a single record: the first of the primary key, else a field named `id`
or `_id`. -/
def lookupField (m : Model) : Option ModelField :=
  m.fields.find? (·.isId) <|> m.fields.find? fun f => f.name == "id" || f.name == "_id"

def field? (m : Model) (name : String) : Option ModelField := m.fields.find? (·.name == name)

def hasField (m : Model) (name : String) : Bool := m.fields.any (·.name == name)

def decode : Decoder Model :=
  Fields.decode "DataModel" <|
    Model.mk
      <$> Fields.required "name" Decoder.text
      <*> Fields.default "fields" [] (Decoder.list ModelField.decode)

def toJson (m : Model) : Json := .obj
  [("name", .str m.name), ("fields", .arr (m.fields.map ModelField.toJson))]

end Model

end ApiGraph
