import ApiGraph.Dictionary
import ApiGraph.FieldTypes

/-!
# Schemas

The schemas of a document: a reference to a component, or the shape of a value with its facets.
`ofFields` is the schema of a body and `ofModel` that of a model; both keep the order of the fields.
-/

namespace ApiGraph.OpenApi

/-- Remarks on the values of a schema, and their limits. -/
structure Facets where
  description : Option String := none
  limits : Constraints := {}
deriving DecidableEq

inductive Schema where
  /-- The component of a model. -/
  | reference (model : String)
  /-- Any value. -/
  | any
  /-- A type alone. -/
  | plain (type : PlainType) (format : Option String) (facets : Facets)
  /-- An object with its properties. -/
  | record (properties : List (String × Schema)) (required : List String) (facets : Facets)
  /-- An array with the schema of its items. -/
  | array (items : Schema) (facets : Facets)

namespace Schema

/-- An object about whose properties nothing is said. -/
def someObject : Schema := plain .object none {}

def componentPath (model : String) : String := "#/components/schemas/" ++ model

/-- The limits that a schema states: empty choices, examples and patterns are left out. -/
def statedLimits (c : Constraints) : Constraints :=
  { c with
    example? := c.example?.filter (· ≠ "")
    choices := c.choices.filter (· ≠ [])
    pattern := c.pattern.filter (· ≠ "") }

def facetsOf (description : String) (c : Constraints) : Facets :=
  { description := if description = "" then none else some description, limits := statedLimits c }

mutual

def ofField : SchemaField → Schema
  | .mk _ kind _ description c => ofKind (facetsOf description c) kind

/-- The schema of a kind with the facets of its field. -/
def ofKind (facets : Facets) : FieldKind → Schema
  | .string => plain .string none facets
  | .number => plain .number none facets
  | .boolean => plain .boolean none facets
  | .object children =>
    record (Dictionary.ofPairs (properties children)) (requiredNames children) facets
  | .array [] => array any facets
  | .array (c :: cs) =>
    array (record (Dictionary.ofPairs (properties (c :: cs))) (requiredNames (c :: cs)) {}) facets

def properties : List SchemaField → List (String × Schema)
  | [] => []
  | f :: fs => (f.name, ofField f) :: properties fs

def requiredNames : List SchemaField → List String
  | [] => []
  | f :: fs => if f.required then f.name :: requiredNames fs else requiredNames fs

end

def ofFields (fields : List SchemaField) : Schema :=
  record (Dictionary.ofPairs (properties fields)) (requiredNames fields) {}

def ofModel (m : Model) : Schema :=
  record
    (Dictionary.ofPairs (m.fields.map fun f => (f.name, plain f.type.plainType f.type.format {})))
    ((m.fields.filter (·.required)).map (·.name)) {}

/-- The schema with the parts that are present, in the order of a document. -/
def write (type : String) (format : Option String) (properties : Option Json)
    (required : List String) (items : Option Json) (facets : Facets) : Json :=
  .record
    [("type", some (.str type)),
     ("format", format.map .str),
     ("description", facets.description.map .str),
     ("properties", properties),
     ("required", if required.isEmpty then none else some (.strings required)),
     ("items", items),
     ("enum", facets.limits.choices.map .strings),
     ("example", facets.limits.example?.map .str),
     ("minLength", facets.limits.minLength.map .nat),
     ("maxLength", facets.limits.maxLength.map .nat),
     ("minimum", facets.limits.minimum.map .float),
     ("maximum", facets.limits.maximum.map .float),
     ("pattern", facets.limits.pattern.map .str)]

mutual

def toJson : Schema → Json
  | reference model => .obj [("$ref", .str (componentPath model))]
  | any => .obj []
  | plain type format facets => write type.name format none [] none facets
  | record ps required facets =>
    write "object" none (some (.obj (propertiesJson ps))) required none facets
  | array items facets => write "array" none none [] (some (toJson items)) facets

def propertiesJson : List (String × Schema) → List (String × Json)
  | [] => []
  | (name, s) :: rest => (name, toJson s) :: propertiesJson rest

end

end Schema

end ApiGraph.OpenApi
