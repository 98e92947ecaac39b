import ApiGraph.Project.SchemaField

/-!
# Endpoints

An endpoint is one operation of the service: its method and path, its documentation, who may call
it, what it takes and what it answers. Each type comes with its reader and its written form.
-/

namespace ApiGraph

inductive Method where
  | get
  | post
  | put
  | patch
  | delete
deriving DecidableEq, Repr

namespace Method

def all : List Method := [get, post, put, patch, delete]

def name : Method → String
  | get => "GET"
  | post => "POST"
  | put => "PUT"
  | patch => "PATCH"
  | delete => "DELETE"

/-- The name as a key of a path item and as a router call. -/
def lowercase : Method → String
  | get => "get"
  | post => "post"
  | put => "put"
  | patch => "patch"
  | delete => "delete"

def hasBody : Method → Bool
  | post | put | patch => true
  | get | delete => false

def decode : Decoder Method := Decoder.variant (all.map fun m => (m.name, m))

end Method

inductive AuthScheme where
  | none
  | jwt
  | apiKey
  | basic
deriving DecidableEq, Repr

namespace AuthScheme

def all : List AuthScheme := [none, jwt, apiKey, basic]

def name : AuthScheme → String
  | none => "none"
  | jwt => "jwt"
  | apiKey => "apiKey"
  | basic => "basic"

def decode : Decoder AuthScheme := Decoder.variant (all.map fun s => (s.name, s))

end AuthScheme

inductive TokenLocation where
  | header
  | cookie
  | query
deriving DecidableEq, Repr

namespace TokenLocation

def all : List TokenLocation := [header, cookie, query]

def name : TokenLocation → String
  | header => "header"
  | cookie => "cookie"
  | query => "query"

def decode : Decoder TokenLocation := Decoder.variant (all.map fun l => (l.name, l))

end TokenLocation

structure EndpointAuth where
  required : Bool := false
  scheme : AuthScheme := .none
  roles : List String := []
  location : Option TokenLocation := none
  header : Option String := none
deriving DecidableEq, Repr

namespace EndpointAuth

/-- Anybody; a credential would stand in the usual header. -/
def anyone : EndpointAuth := { location := some .header, header := some "Authorization" }

/-- A token in the usual header, for one of the roles where there are any. -/
def jwt (roles : List String) : EndpointAuth :=
  { anyone with required := true, scheme := .jwt, roles }

def decode : Decoder EndpointAuth :=
  Fields.decode "EndpointAuth" <|
    EndpointAuth.mk
      <$> Fields.default "required" false Decoder.bool
      <*> Fields.default "type" .none AuthScheme.decode
      <*> Fields.default "roles" [] (Decoder.list Decoder.text)
      <*> Fields.maybe "tokenLocation" TokenLocation.decode
      <*> Fields.maybe "headerName" Decoder.text

def toJson (a : EndpointAuth) : Json := .record
  [("required", some (.bool a.required)),
   ("type", some (.str a.scheme.name)),
   ("roles", some (.strings a.roles)),
   ("tokenLocation", a.location.map fun l => .str l.name),
   ("headerName", a.header.map .str)]

end EndpointAuth

inductive ParamType where
  | string
  | number
  | boolean
deriving DecidableEq, Repr

namespace ParamType

def all : List ParamType := [string, number, boolean]

def name : ParamType → String
  | string => "string"
  | number => "number"
  | boolean => "boolean"

def decode : Decoder ParamType := Decoder.variant (all.map fun t => (t.name, t))

end ParamType

structure Param where
  name : String := ""
  type : ParamType := .string
  required : Bool := false
  description : String := ""
  example? : Option String := none
  choices : Option (List String) := none
deriving DecidableEq, Repr

namespace Param

def decode : Decoder Param :=
  Fields.decode "ParamConfig" <|
    Param.mk
      <$> Fields.default "name" "" Decoder.text
      <*> Fields.default "type" .string ParamType.decode
      <*> Fields.default "required" false Decoder.bool
      <*> Fields.default "description" "" Decoder.text
      <*> Fields.maybe "example" Decoder.text
      <*> Fields.maybe "enum" (Decoder.list Decoder.text)

def toJson (p : Param) : Json := .record
  [("name", some (.str p.name)),
   ("type", some (.str p.type.name)),
   ("required", some (.bool p.required)),
   ("description", some (.str p.description)),
   ("example", p.example?.map .str),
   ("enum", p.choices.map .strings)]

end Param

structure DeclaredResponse where
  status : Nat := 200
  description : String := ""
  schema : List SchemaField := []
  example? : Option String := none
deriving DecidableEq

namespace DeclaredResponse

/-- The response that an editor puts down for a status. -/
def ofStatus (status : Nat) : DeclaredResponse :=
  { status, description := if status = 200 then "Successful response" else "Error response" }

def isSuccess (r : DeclaredResponse) : Bool := 200 ≤ r.status && r.status < 300

def decode : Decoder DeclaredResponse :=
  Fields.decode "ResponseDefinition" <|
    DeclaredResponse.mk
      <$> Fields.default "statusCode" 200 (Decoder.unsigned 16)
      <*> Fields.default "description" "" Decoder.text
      <*> Fields.default "schema" [] (Decoder.list SchemaField.decode)
      <*> Fields.maybe "example" Decoder.text

def toJson (r : DeclaredResponse) : Json := .record
  [("statusCode", some (.nat r.status)),
   ("description", some (.str r.description)),
   ("schema", some (.arr (SchemaField.toJsonAll r.schema))),
   ("example", r.example?.map .str)]

end DeclaredResponse

/-- How often an endpoint may be called. -/
structure RateLimit where
  enabled : Bool := false
  requests : Nat := 100
  /-- The length of a window in milliseconds. -/
  windowMs : Nat := 60000
deriving DecidableEq, Repr

namespace RateLimit

def decode : Decoder RateLimit :=
  let d : RateLimit := {}
  Fields.decode "RateLimitConfig" <|
    RateLimit.mk
      <$> Fields.default "enabled" d.enabled Decoder.bool
      <*> Fields.default "requests" d.requests (Decoder.unsigned 32)
      <*> Fields.default "windowMs" d.windowMs (Decoder.unsigned 64)

def toJson (r : RateLimit) : Json := .obj
  [("enabled", .bool r.enabled),
   ("requests", .nat r.requests),
   ("windowMs", .nat r.windowMs)]

end RateLimit

structure Endpoint where
  method : Method := .get
  path : String := "/api/resource"
  summary : String := "Get resource"
  description : String := ""
  tags : List String := []
  deprecated : Bool := false
  auth : EndpointAuth := .anyone
  pathParams : List Param := []
  queryParams : List Param := []
  body : List SchemaField := []
  responses : List DeclaredResponse := [.ofStatus 200]
  rateLimit : Option RateLimit := none
deriving DecidableEq

namespace Endpoint

def decode : Decoder Endpoint :=
  let d : Endpoint := {}
  Fields.decode "EndpointConfig" <|
    Endpoint.mk
      <$> Fields.default "method" d.method Method.decode
      <*> Fields.default "path" d.path Decoder.text
      <*> Fields.default "summary" d.summary Decoder.text
      <*> Fields.default "description" d.description Decoder.text
      <*> Fields.default "tags" d.tags (Decoder.list Decoder.text)
      <*> Fields.default "deprecated" d.deprecated Decoder.bool
      <*> Fields.default "auth" d.auth EndpointAuth.decode
      <*> Fields.default "pathParams" d.pathParams (Decoder.list Param.decode)
      <*> Fields.default "queryParams" d.queryParams (Decoder.list Param.decode)
      <*> Fields.default "bodySchema" d.body (Decoder.list SchemaField.decode)
      <*> Fields.default "responses" d.responses (Decoder.list DeclaredResponse.decode)
      <*> Fields.maybe "rateLimit" RateLimit.decode

def toJson (e : Endpoint) : Json := .record
  [("method", some (.str e.method.name)),
   ("path", some (.str e.path)),
   ("summary", some (.str e.summary)),
   ("description", some (.str e.description)),
   ("tags", some (.strings e.tags)),
   ("deprecated", some (.bool e.deprecated)),
   ("auth", some e.auth.toJson),
   ("pathParams", some (.arr (e.pathParams.map Param.toJson))),
   ("queryParams", some (.arr (e.queryParams.map Param.toJson))),
   ("bodySchema", some (.arr (SchemaField.toJsonAll e.body))),
   ("responses", some (.arr (e.responses.map DeclaredResponse.toJson))),
   ("rateLimit", e.rateLimit.map RateLimit.toJson)]

end Endpoint

end ApiGraph
