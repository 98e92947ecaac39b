import ApiGraph.Naming
import ApiGraph.Naming.Fresh
import ApiGraph.OpenApi.Schema
import ApiGraph.Route
import ApiGraph.Warning

/-!
# Operations

The documentation of a route. Every operation documents the standard errors, and a body refers to
the component of a model where the project has the model.
-/

namespace ApiGraph.OpenApi

inductive Place where
  | path
  | query
deriving DecidableEq, Repr

def Place.name : Place → String
  | path => "path"
  | query => "query"

structure Parameter where
  name : String
  place : Place
  required : Bool
  description : String
  schema : Schema
  example? : Option String

structure Answer where
  description : String
  content : Option Schema := none

structure Operation where
  id : String
  summary : String
  description : String
  tags : List String
  deprecated : Bool
  parameters : List Parameter
  /-- The schema of the request body, which is required where there is one. -/
  body : Option Schema
  /-- The responses by status, ascending. -/
  responses : List (Nat × Answer)
  /-- Whether callers must prove who they are. -/
  secured : Bool

/-- A parameter; one of the path is always required. -/
def Parameter.ofParam (place : Place) (p : Param) : Parameter :=
  { name := p.name, place, required := place = .path || p.required, description := p.description,
    schema := .plain (match p.type with
      | .string => .string
      | .number => .number
      | .boolean => .boolean) none { limits := { choices := p.choices.filter (· ≠ []) } },
    example? := p.example?.filter (· ≠ "") }

/-- The schema of a model that a route names, and whether the project has it. -/
def modelSchema (p : Project) (model : String) : Schema × Bool :=
  if (p.model? model).isSome then (.reference model, true) else (.someObject, false)

/-- What a route needs of the models: a schema, and the name of a model that is missing. -/
structure Content where
  schema : Option Schema := none
  missing : Option String := none

def bodyContent (p : Project) (r : Route) : Content :=
  if !r.method.hasBody then {}
  else
    let own := if r.body.isEmpty then none else some (Schema.ofFields r.body)
    match r.bodyModel with
    | none => { schema := own }
    | some model =>
      match modelSchema p model, own with
      | (schema, true), _ => { schema := some schema }
      | (_, false), some schema => { schema := some schema }
      | (schema, false), none => { schema := some schema, missing := some model }

def responseContent (p : Project) (r : Response) : Content :=
  match r.model with
  | none => { schema := if r.schema.isEmpty then none else some (Schema.ofFields r.schema) }
  | some model =>
    let (item, found) := modelSchema p model
    { schema := some (if r.isCollection then .array item {} else item),
      missing := if found then none else some model }

/-- The models that a route names and the project lacks, in the order of their use. -/
def missingModels (p : Project) (r : Route) : List String :=
  (bodyContent p r).missing.toList ++ r.responses.filterMap fun a => (responseContent p a).missing

/-- The responses that every operation documents. -/
def standardErrors : List (Nat × String) :=
  [(400, "Bad request"), (404, "Not found"), (500, "Internal server error")]

def Answer.ofResponse (p : Project) (r : Response) : Answer :=
  { description := if r.description = "" then "Response" else r.description,
    content := (responseContent p r).schema }

/-- The answer under a status: the last declared one, else the standard one. -/
def answerOf (p : Project) (r : Route) (status : Nat) : Answer :=
  match r.responses.reverse.find? (·.status == status) with
  | some a => .ofResponse p a
  | none => { description := (standardErrors.lookup status).getD "" }

def statuses (r : Route) : List Nat :=
  (firsts (r.responses.map (·.status) ++ standardErrors.map (·.1))).mergeSort fun a b =>
    decide (a ≤ b)

/-- The documentation of a route under an id. -/
def Operation.ofRoute (p : Project) (r : Route) (id : String) : Operation :=
  { id
    summary :=
      if r.summary ≠ "" then r.summary
      else if r.description ≠ "" then r.description
      else r.method.name ++ " " ++ r.template
    description := r.description
    tags := r.tags
    deprecated := r.deprecated
    parameters :=
      r.pathParams.map (fun q => .ofParam .path q.param) ++ r.queryParams.map (.ofParam .query)
    body := (bodyContent p r).schema
    responses := (statuses r).map fun s => (s, answerOf p r s)
    secured := r.access.isSome }

/-- The id that a route would like to have: the method and the words of its path. -/
def baseId (r : Route) : String :=
  r.method.lowercase ++ String.ofList
    ((Text.words (!Text.isAsciiAlnum ·) r.path.toList).flatMap Naming.pascalChars)

/-- The ids of routes after the ids that are taken. -/
def operationIds (taken : List String) : List Route → List String
  | [] => []
  | r :: rs =>
    let id := Naming.fresh taken (baseId r)
    id :: operationIds (id :: taken) rs

def contentJson (s : Schema) : Json :=
  .obj [("application/json", .obj [("schema", s.toJson)])]

def Parameter.toJson (q : Parameter) : Json := .record
  [("name", some (.str q.name)),
   ("in", some (.str q.place.name)),
   ("required", some (.bool q.required)),
   ("description", some (.str q.description)),
   ("schema", some q.schema.toJson),
   ("example", q.example?.map .str)]

def Answer.toJson (a : Answer) : Json := .record
  [("description", some (.str a.description)), ("content", a.content.map contentJson)]

def bearerAuth : String := "bearerAuth"

def Operation.toJson (o : Operation) : Json := .record
  [("summary", some (.str o.summary)),
   ("description", some (.str o.description)),
   ("operationId", some (.str o.id)),
   ("tags", some (.strings o.tags)),
   ("deprecated", if o.deprecated then some (.bool true) else none),
   ("parameters",
    if o.parameters.isEmpty then none else some (.arr (o.parameters.map Parameter.toJson))),
   ("requestBody", o.body.map fun s => .obj [("required", .bool true), ("content", contentJson s)]),
   ("responses", some (.obj (o.responses.map fun a => (toString a.1, a.2.toJson)))),
   ("security", if o.secured then some (.arr [.obj [(bearerAuth, .arr [])]]) else none)]

end ApiGraph.OpenApi
