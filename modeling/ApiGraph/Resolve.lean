import ApiGraph.Graph
import ApiGraph.Route
import ApiGraph.Warning

/-!
# Resolution

Every endpoint becomes one route. What a route takes from its neighbours comes from the first
database node and the first auth node connected to it, in node order; an endpoint that requires
authentication itself does not ask the auth node.
-/

namespace ApiGraph.Resolve

/-- The neighbours of an endpoint that its route depends on. -/
structure Surroundings where
  /-- The database nodes with their ids. -/
  databases : List (String × DataAccess)
  gates : List AuthGate

def surroundings (p : Project) (id : String) : Surroundings :=
  let near := Graph.connected p.edges p.nodes id
  { databases := near.filterMap fun n => n.content.database?.map fun d => (n.id, d),
    gates := near.filterMap fun n => n.content.auth? }

def access (e : Endpoint) (gate : Option AuthGate) : Option Access :=
  if e.auth.required then some ⟨e.auth.scheme, e.auth.roles, e.auth.location, e.auth.header⟩
  else gate.map fun g => ⟨g.scheme, g.roleList, g.location, g.header⟩

/-- The parameter of a token that was not declared. -/
def inferredParam (token : String) : Param :=
  { name := token, required := true, description := token ++ " parameter" }

/-- The declared parameters that the template names, then the tokens that nobody declared. -/
def pathParams (e : Endpoint) : List PathParam :=
  let tokens := Path.tokenNames e.path
  (e.pathParams.filter (·.name ∈ tokens)).map (⟨·, false⟩) ++
    (tokens.filter fun t => !e.pathParams.any (·.name == t)).map fun t => ⟨inferredParam t, true⟩

/-- The declared parameters that the template does not name. -/
def strayParams (id : String) (e : Endpoint) : List Warning :=
  (e.pathParams.filter (·.name ∉ Path.tokenNames e.path)).map fun d =>
    .undeclaredPathParam id d.name e.path

def declaredResponses (e : Endpoint) : List DeclaredResponse :=
  if e.responses.isEmpty then [.ofStatus 200] else e.responses

def modelOf (data : Option DataAccess) : Option String :=
  (data.map (·.model)).filter (· ≠ "")

/-- A response, with the model of the data access where it reports success. -/
def response (data : Option DataAccess) (r : DeclaredResponse) : Response :=
  let model := (modelOf data).filter fun _ => r.isSuccess
  { status := r.status, description := r.description, model,
    isCollection := model.isSome && data.any (·.operation == .list),
    schema := r.schema }

def query (d : DataAccess) : Query :=
  { operation := d.operation, model := d.model, filters := d.filters, select := d.select,
    orderBy := d.orderBy, limit := d.recordLimit }

/-- The route of an endpoint among its neighbours, below a base path. -/
def route (basePath id : String) (e : Endpoint) (near : Surroundings) : Route :=
  let data := near.databases.head?.map (·.2)
  { node := id
    method := e.method
    template := e.path
    path := Path.underBase e.path basePath
    summary := e.summary
    description := e.description
    deprecated := e.deprecated
    tags := if e.tags.isEmpty then [Path.resourceTag e.path] else e.tags
    access := access e near.gates.head?
    pathParams := pathParams e
    queryParams := e.queryParams
    bodyModel := (modelOf data).filter fun _ => e.method.hasBody
    body := e.body
    responses := (declaredResponses e).map (response data)
    query := data.map query
    rateLimit := e.rateLimit.filter (·.enabled) }

def findings (id : String) (e : Endpoint) (near : Surroundings) : List Warning :=
  (match near.databases with
    | (chosen, _) :: _ :: _ => [.multipleDatabaseNodes id chosen near.databases.length]
    | _ => []) ++
  (if Text.isBlank e.path then [.emptyPath id] else []) ++ strayParams id e

def routes (p : Project) : List Route :=
  p.endpoints.map fun e => route p.settings.basePath e.1 e.2 (surroundings p e.1)

def warnings (p : Project) : List Warning :=
  p.endpoints.flatMap fun e => findings e.1 e.2 (surroundings p e.1)

end ApiGraph.Resolve
