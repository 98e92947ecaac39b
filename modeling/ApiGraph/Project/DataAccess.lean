import ApiGraph.Number.Digits
import ApiGraph.Project.Endpoint
import ApiGraph.Text.Blank

/-!
# Data access

What a database node does with a model, what an auth node asks for and what a response node
answers. A limit is kept as it was written; `DataAccess.recordLimit` is the count it denotes.
-/

namespace ApiGraph

inductive DataOperation where
  | create
  | read
  | update
  | delete
  | list
deriving DecidableEq, Repr

namespace DataOperation

def all : List DataOperation := [create, read, update, delete, list]

def name : DataOperation → String
  | create => "create"
  | read => "read"
  | update => "update"
  | delete => "delete"
  | list => "list"

def decode : Decoder DataOperation := Decoder.variant (all.map fun o => (o.name, o))

end DataOperation

inductive Comparison where
  | eq
  | ne
  | gt
  | gte
  | lt
  | lte
  | contains
  | isIn
deriving DecidableEq, Repr

namespace Comparison

def all : List Comparison := [eq, ne, gt, gte, lt, lte, contains, isIn]

def name : Comparison → String
  | eq => "eq"
  | ne => "ne"
  | gt => "gt"
  | gte => "gte"
  | lt => "lt"
  | lte => "lte"
  | contains => "contains"
  | isIn => "in"

def decode : Decoder Comparison := Decoder.variant (all.map fun c => (c.name, c))

end Comparison

/-- Where the value of a filter comes from. -/
inductive ValueSource where
  | static
  | query
  | body
  | param
deriving DecidableEq, Repr

namespace ValueSource

def all : List ValueSource := [static, query, body, param]

def name : ValueSource → String
  | static => "static"
  | query => "query"
  | body => "body"
  | param => "param"

def decode : Decoder ValueSource := Decoder.variant (all.map fun s => (s.name, s))

end ValueSource

/-- A comparison of a field with a value: a literal, or a key of the request. -/
structure Filter where
  field : String := ""
  comparison : Comparison := .eq
  value : String := ""
  source : ValueSource := .static
deriving DecidableEq, Repr

namespace Filter

def decode : Decoder Filter :=
  Fields.decode "FilterConfig" <|
    Filter.mk
      <$> Fields.default "field" "" Decoder.text
      <*> Fields.default "operator" .eq Comparison.decode
      <*> Fields.default "value" "" Decoder.text
      <*> Fields.default "source" .static ValueSource.decode

def toJson (f : Filter) : Json := .obj
  [("field", .str f.field),
   ("operator", .str f.comparison.name),
   ("value", .str f.value),
   ("source", .str f.source.name)]

end Filter

inductive Direction where
  | asc
  | desc
deriving DecidableEq, Repr

namespace Direction

def name : Direction → String
  | asc => "asc"
  | desc => "desc"

def decode : Decoder Direction := Decoder.variant ([asc, desc].map fun d => (d.name, d))

end Direction

structure OrderBy where
  field : String
  direction : Direction := .asc
deriving DecidableEq, Repr

namespace OrderBy

def decode : Decoder OrderBy :=
  Fields.decode "OrderBy" <|
    OrderBy.mk
      <$> Fields.required "field" Decoder.text
      <*> Fields.default "direction" .asc Direction.decode

def toJson (o : OrderBy) : Json := .obj
  [("field", .str o.field), ("direction", .str o.direction.name)]

end OrderBy

/-- The work of a database node. The model is a name that no reader checks. -/
structure DataAccess where
  operation : DataOperation := .read
  model : String := ""
  filters : List Filter := []
  select : List String := []
  orderBy : Option OrderBy := none
  limit : Option Json := none
deriving DecidableEq

namespace DataAccess

/-- The number that decimal digits after an optional plus sign spell. -/
def digitsAfterPlus? (cs : List Char) : Option Nat :=
  let digits := if cs.head? = some '+' then cs.drop 1 else cs
  if Digits.isNumeral digits then some (Digits.value digits) else none

/-- The natural number that a written limit denotes. -/
def limitValue? : Json → Option Nat
  | .num (.int n) => if 0 ≤ n then some n.toNat else none
  | .num (.float x) => x.toNat?
  | .str s => digitsAfterPlus? (Text.trimChars s.toList)
  | _ => none

/-- The limit as a record count of 32 bits. -/
def recordLimit (d : DataAccess) : Option Nat :=
  (d.limit.bind limitValue?).filter (· < Nat.pow 2 32)

/-- A limit was written that is no record count. -/
def hasInvalidLimit (d : DataAccess) : Bool := d.limit.isSome && d.recordLimit.isNone

def decode : Decoder DataAccess :=
  Fields.decode "DatabaseConfig" <|
    DataAccess.mk
      <$> Fields.default "operation" .read DataOperation.decode
      <*> Fields.default "model" "" Decoder.text
      <*> Fields.default "filters" [] (Decoder.list Filter.decode)
      <*> Fields.default "select" [] (Decoder.list Decoder.text)
      <*> Fields.maybe "orderBy" OrderBy.decode
      <*> Fields.maybe "limit" (fun j => .ok j)

def toJson (d : DataAccess) : Json := .record
  [("operation", some (.str d.operation.name)),
   ("model", some (.str d.model)),
   ("filters", some (.arr (d.filters.map Filter.toJson))),
   ("select", some (.strings d.select)),
   ("orderBy", d.orderBy.map OrderBy.toJson),
   ("limit", d.limit)]

end DataAccess

/-- What an auth node asks of the callers of its endpoints. -/
structure AuthGate where
  scheme : AuthScheme := .jwt
  location : Option TokenLocation := some .header
  header : Option String := some "Authorization"
  roles : Option (List String) := some []
deriving DecidableEq, Repr

namespace AuthGate

def roleList (a : AuthGate) : List String := a.roles.getD []

/-- Reads an auth node. An option that is absent has its default, `null` leaves it open. -/
def decode : Decoder AuthGate :=
  let d : AuthGate := {}
  Fields.decode "AuthConfig" <|
    AuthGate.mk
      <$> Fields.default "type" d.scheme AuthScheme.decode
      <*> Fields.default "tokenLocation" d.location (Decoder.nullable TokenLocation.decode)
      <*> Fields.default "headerName" d.header (Decoder.nullable Decoder.text)
      <*> Fields.default "roles" d.roles (Decoder.nullable (Decoder.list Decoder.text))

/-- The written form; an open option is left out. -/
def toJson (a : AuthGate) : Json := .record
  [("type", some (.str a.scheme.name)),
   ("tokenLocation", a.location.map fun l => .str l.name),
   ("headerName", a.header.map .str),
   ("roles", a.roles.map .strings)]

end AuthGate

/-- The media type of a response node. -/
inductive ContentType where
  | json
  | text
  | html
deriving DecidableEq, Repr

namespace ContentType

def all : List ContentType := [json, text, html]

def name : ContentType → String
  | json => "json"
  | text => "text"
  | html => "html"

def decode : Decoder ContentType := Decoder.variant (all.map fun t => (t.name, t))

end ContentType

/-- What a response node answers. It is kept for its editor; endpoints declare their responses. -/
structure ResponseShape where
  status : Nat := 200
  contentType : ContentType := .json
  schema : List SchemaField := []
  headers : List (String × String) := []
deriving DecidableEq

namespace ResponseShape

def decode : Decoder ResponseShape :=
  Fields.decode "ResponseConfig" <|
    ResponseShape.mk
      <$> Fields.default "statusCode" 200 (Decoder.unsigned 16)
      <*> Fields.default "contentType" .json ContentType.decode
      <*> Fields.default "schema" [] (Decoder.list SchemaField.decode)
      <*> Fields.default "headers" [] (Decoder.dictionary Decoder.text)

def toJson (r : ResponseShape) : Json := .obj
  [("statusCode", .nat r.status),
   ("contentType", .str r.contentType.name),
   ("schema", .arr (SchemaField.toJsonAll r.schema)),
   ("headers", .obj (r.headers.map fun h => (h.1, .str h.2)))]

end ResponseShape

end ApiGraph
