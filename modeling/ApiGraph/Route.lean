import ApiGraph.Path
import ApiGraph.Project.Basic

/-!
# Routes

A route is what all artifacts are made of: an endpoint together with what its neighbours in the
graph say about access, data and models.
-/

namespace ApiGraph

structure PathParam where
  param : Param
  /-- Whether only the template names it. -/
  inferred : Bool
deriving DecidableEq, Repr

structure Response where
  status : Nat
  description : String
  model : Option String
  /-- Whether the body is an array of the model. -/
  isCollection : Bool
  schema : List SchemaField
deriving DecidableEq

/-- The data access of a route, with its limit as a count. -/
structure Query where
  operation : DataOperation
  model : String
  filters : List Filter := []
  select : List String := []
  orderBy : Option OrderBy := none
  limit : Option Nat := none
deriving DecidableEq, Repr

structure Access where
  scheme : AuthScheme
  roles : List String
  location : Option TokenLocation
  header : Option String
deriving DecidableEq, Repr

/-- An operation of the service, ready for every artifact. -/
structure Route where
  /-- The id of the endpoint's node. -/
  node : String
  method : Method
  /-- The path as it was written. -/
  template : String
  /-- The path that the server registers. -/
  path : String
  summary : String
  description : String
  deprecated : Bool
  tags : List String
  /-- What callers must prove, where they must. -/
  access : Option Access
  pathParams : List PathParam
  queryParams : List Param
  /-- The model of the request body. -/
  bodyModel : Option String
  body : List SchemaField
  responses : List Response
  query : Option Query
  rateLimit : Option RateLimit
deriving DecidableEq

namespace Route

def documentPath (r : Route) : String := Path.placeholders r.path

/-- Two routes with the same operation key are one operation. -/
def operationKey (r : Route) : Method × String := (r.method, r.documentPath)

/-- The status that is sent on success: the first declared one from 200 to 299, else 200. -/
def successStatus (r : Route) : Nat :=
  ((r.responses.map (·.status)).find? fun s => 200 ≤ s && s < 300).getD 200

def primaryTag (r : Route) : String := r.tags.head?.getD "default"

/-- Whether requests carry a body that has a schema of its own. -/
def validatesBody (r : Route) : Bool := r.method.hasBody && !r.body.isEmpty

end Route

/-- The scheme that is checked: a token, where none was chosen. -/
def Access.effectiveScheme (a : Access) : AuthScheme :=
  match a.scheme with
  | .none => .jwt
  | s => s

/-- The routes that the server keeps: of each operation the first. -/
def keptRoutes (routes : List Route) : List Route := firstsBy Route.operationKey routes

end ApiGraph
