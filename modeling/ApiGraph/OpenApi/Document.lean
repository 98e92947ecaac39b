import ApiGraph.Json.Printer
import ApiGraph.OpenApi.Operation

/-!
# Documents

The OpenAPI document of a project. Of the routes with one method and path the first is documented,
and every other one is reported. Paths, methods, components and tags stand in the order of their
first use.
-/

namespace ApiGraph.OpenApi

structure Document where
  title : String
  description : String
  port : Nat
  /-- The operations by path, and by method below it. -/
  paths : List (String × List (Method × Operation))
  /-- The components by the name of their model. -/
  schemas : List (String × Schema)
  tags : List String

namespace Document

/-- The key of a route in the paths: its path, and the name of its method below the path. -/
def entryKey (r : Route) : String × String := (r.documentPath, r.method.lowercase)

/-- The routes that a document keeps: of each key the first. -/
def documented (routes : List Route) : List Route := firstsBy entryKey routes

def operations (p : Project) (routes : List Route) : List (String × Method × Operation) :=
  let kept := documented routes
  (kept.zip (operationIds [] kept)).map fun (r, id) =>
    (r.documentPath, r.method, .ofRoute p r id)

def pathsOf (operations : List (String × Method × Operation)) :
    List (String × List (Method × Operation)) :=
  (groupBy (·.1) operations).map fun g => (g.1, g.2.map (·.2))

/-- The components: of each name the first model. -/
def schemasOf (models : List Model) : List (String × Schema) :=
  (firstsBy Model.name models).map fun m => (m.name, .ofModel m)

def orElse (s blank : String) : String := if Text.isBlank s then blank else s

def assemble (p : Project) (routes : List Route) : Document :=
  { title := orElse p.name "Untitled Project"
    description := orElse p.description "API generated by Routify"
    port := p.settings.port
    paths := pathsOf (operations p routes)
    schemas := schemasOf p.models
    tags := firsts ((documented routes).flatMap (·.tags)) }

/-- The findings with one more, unless it is among them. -/
def note (found : List Warning) (w : Warning) : List Warning :=
  if w ∈ found then found else found ++ [w]

/-- The findings after each route, where some routes were kept before. -/
def warningsFrom (p : Project) (kept : List Route) (found : List Warning) :
    List Route → List Warning
  | [] => found
  | r :: rs =>
    match kept.find? (entryKey · == entryKey r) with
    | some first =>
      warningsFrom p kept
        (found ++ [.duplicateOperation r.method r.documentPath first.node r.node]) rs
    | none =>
      warningsFrom p (kept ++ [r])
        (((missingModels p r).map (.unknownModel r.node)).foldl note found) rs

def warnings (p : Project) (routes : List Route) : List Warning := warningsFrom p [] [] routes

def operationCount (d : Document) : Nat := (d.paths.flatMap (·.2)).length

/-- The operation of a path and a method in small letters. -/
def operation? (d : Document) (path method : String) : Option Operation := do
  let item ← d.paths.lookup path
  let found ← item.find? (·.1.lowercase == method)
  return found.2

def serversJson (port : Nat) : Json := .arr
  [.obj
    [("url", .str s!"http://localhost:{port}"), ("description", .str "Development server")],
   .obj
    [("url", .str "https://your-app.onrender.com"), ("description", .str "Production server")]]

def securityJson : Json := .obj
  [(bearerAuth, .obj
    [("type", .str "http"), ("scheme", .str "bearer"), ("bearerFormat", .str "JWT")])]

def toJson (d : Document) : Json := .obj
  [("openapi", .str "3.0.3"),
   ("info", .obj
    [("title", .str d.title), ("description", .str d.description), ("version", .str "1.0.0")]),
   ("servers", serversJson d.port),
   ("paths", .obj (d.paths.map fun item =>
    (item.1, .obj (item.2.map fun o => (o.1.lowercase, o.2.toJson))))),
   ("components", .obj
    [("schemas", .obj (d.schemas.map fun s => (s.1, s.2.toJson))),
     ("securitySchemes", securityJson)]),
   ("tags", .arr (d.tags.map fun t =>
    .obj [("name", .str t), ("description", .str (t ++ " operations"))]))]

def write (d : Document) : String := d.toJson.pretty ++ "\n"

end Document

end ApiGraph.OpenApi
