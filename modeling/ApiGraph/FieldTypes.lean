import ApiGraph.Project.Model
import ApiGraph.Project.SchemaField
import ApiGraph.Project.Settings

/-!
# Field types in the artifacts

What a type is called in the document, in TypeScript, in a table and in a collection. Every function
is total: a type without a meaning of its own is treated as a string.
-/

namespace ApiGraph

/-- A JSON type about whose parts nothing is said. -/
inductive PlainType where
  | string
  | integer
  | number
  | boolean
  | object
deriving DecidableEq, Repr

def PlainType.name : PlainType → String
  | string => "string"
  | integer => "integer"
  | number => "number"
  | boolean => "boolean"
  | object => "object"

namespace FieldType

def plainType : FieldType → PlainType
  | string => .string
  | int => .integer
  | float => .number
  | boolean => .boolean
  | dateTime => .string
  | json => .object
  | other .. => .string

def format : FieldType → Option String
  | dateTime => some "date-time"
  | _ => none

/-- The type of an interface member. A date travels as a string. -/
def memberType : FieldType → String
  | string => "string"
  | int => "number"
  | float => "number"
  | boolean => "boolean"
  | dateTime => "string"
  | json => "unknown"
  | other .. => "string"

/-- The builder method of a table column. -/
def columnMethod (engine : Engine) : FieldType → String
  | string => "string"
  | int => "integer"
  | float => "double"
  | boolean => "boolean"
  | dateTime => "timestamp"
  | json => if engine = .postgresql then "jsonb" else "json"
  | other .. => "string"

def documentType : FieldType → String
  | string => "String"
  | int => "Number"
  | float => "Number"
  | boolean => "Boolean"
  | dateTime => "Date"
  | json => "Schema.Types.Mixed"
  | other .. => "String"

end FieldType

namespace SchemaField

mutual

def kindType : FieldKind → String
  | .string => "string"
  | .number => "number"
  | .boolean => "boolean"
  | .object [] => "Record<string, unknown>"
  | .array [] => "unknown[]"
  | .object (c :: cs) => "\x7b " ++ memberTypes (c :: cs) ++ " \x7d"
  | .array (c :: cs) => "Array<\x7b " ++ memberTypes (c :: cs) ++ " \x7d>"

def memberTypes : List SchemaField → String
  | [] => ""
  | [f] => memberTypeOf f
  | f :: fs => memberTypeOf f ++ "; " ++ memberTypes fs

def memberTypeOf : SchemaField → String
  | .mk name kind required _ _ => name ++ (if required then "" else "?") ++ ": " ++ kindType kind

end

end SchemaField

end ApiGraph
