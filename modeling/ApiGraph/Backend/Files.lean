import ApiGraph.Backend.Collection
import ApiGraph.Backend.Connection
import ApiGraph.Backend.Guide
import ApiGraph.Backend.Interface
import ApiGraph.Backend.Package
import ApiGraph.Backend.Router
import ApiGraph.Backend.Server
import ApiGraph.Backend.Support.Authentication
import ApiGraph.Backend.Support.Errors
import ApiGraph.Backend.Support.Filters
import ApiGraph.Backend.Support.RateLimits
import ApiGraph.Backend.Support.Validation
import ApiGraph.Backend.Table

/-!
# The files of a backend

All files that a project compiles to, in the order in which they are written. Every file is made of
the same routes and models.
-/

namespace ApiGraph.Backend

def namedModels (p : Project) : List NamedModel := nameModels p.emittedModels

def scaffold (p : Project) (routes : List Route) (document : OpenApi.Document) : List File :=
  [.ofText ["package.json"] (Package.ofProject p routes).write,
   .ofText ["tsconfig.json"] (compilerConfig p.settings.target),
   .ofText [".env.example"] (unlines (Guide.environment p routes)),
   .ofText [".gitignore"] (unlines ignoredFiles),
   .ofText ["README.md"] (unlines (Guide.page p routes)),
   .ofText ["openapi.json"] document.write,
   .ofModule ["src", "index.ts"] (Server.entry p.settings),
   .ofModule ["src", "swagger.ts"] (Server.documentModule document)]

def storeFiles (engine : Engine) (models : List NamedModel) : List File :=
  if engine.isSql then
    [.ofModule ["src", "db", "schema.ts"] (Table.toModule (models.map (Table.ofModel engine)))]
  else
    models.map fun m =>
      .ofModule ["src", "models", m.names.stem ++ ".model.ts"] (Collection.ofModel m).toModule

def dataFiles (p : Project) (models : List NamedModel) : List File :=
  let engine := p.settings.engine
  [.ofModule ["src", "types", "models.ts"] (Interface.toModule (models.map .ofModel)),
   .ofModule ["src", "db", "client.ts"] (Connection.toModule p)] ++
    storeFiles engine models ++
    models.map fun m =>
      .ofModule ["src", "repositories", m.names.stem ++ ".repository.ts"]
        (Repository.ofModel engine m).toModule

def supportFiles (engine : Engine) (routes : List Route) : List File :=
  let folder := ["src", "middleware"]
  [.ofModule (folder ++ ["validate.ts"]) Support.Validation.toModule,
   .ofModule (folder ++ ["errors.ts"]) Support.Errors.toModule] ++
    (if routes.any (·.access.isSome) then
      [.ofModule (folder ++ ["auth.ts"]) Support.Authentication.toModule] else []) ++
    (if routes.any (·.rateLimit.isSome) then
      [.ofModule (folder ++ ["rate-limit.ts"]) Support.RateLimits.toModule] else []) ++
    [.ofModule ["src", "db", "filters.ts"]
      (if engine.isSql then Support.Filters.forTables else Support.Filters.forCollections)]

/-- The files of a project with its routes and its document. -/
def files (p : Project) (routes : List Route) (document : OpenApi.Document) : List File :=
  let models := namedModels p
  let engine := p.settings.engine
  scaffold p routes document ++ dataFiles p models ++
    Router.files p.settings.layout (registrations engine models routes) ++
    supportFiles engine routes

/-- What the files leave out of a project. -/
def warnings (p : Project) (routes : List Route) : List Warning :=
  let models := namedModels p
  (keptRoutes routes).foldl (Handler.report models) (models.filterMap (·.warning?))

end ApiGraph.Backend
