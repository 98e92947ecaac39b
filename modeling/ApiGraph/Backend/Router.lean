import ApiGraph.Backend.Handler
import ApiGraph.Backend.Middleware

/-!
# Routers

The routes of the backend as registrations on routers: one router per resource, or a single one.
Each operation is registered once, and a router imports what its registrations use.
-/

namespace ApiGraph.Backend

structure Registration where
  route : Route
  handler : Handler
deriving DecidableEq

namespace Registration

def summary (r : Route) : String :=
  Text.trim (Text.substitute '\r' " " (Text.substitute '\n' " " r.summary))

def comment (r : Route) : String :=
  "// " ++ r.method.name ++ " " ++ r.path ++
    (if summary r = "" then "" else ": " ++ summary r)

def lines (router : String) (g : Registration) : List String :=
  [comment g.route, router ++ "." ++ g.route.method.lowercase ++ "("] ++
    indent
      ([Text.quote g.route.path ++ ","] ++ (Middleware.chain g.route).flatMap (·.lines) ++
        g.handler.lines g.route) ++
    [");"]

def uses (g : Registration) : List String :=
  (Middleware.chain g.route).map (·.function) ++ g.handler.uses

end Registration

def registrations (engine : Engine) (models : List NamedModel) (routes : List Route) :
    List Registration :=
  (keptRoutes routes).map fun r => ⟨r, .plan engine models r⟩

structure Router where
  name : String
  /-- Whether other modules import the router by its name. -/
  exported : Bool
  registrations : List Registration
deriving DecidableEq

namespace Router

def someOf (names : List (String × Bool)) (source : String) : List Source.Import :=
  match names.filter (·.2) with
  | [] => []
  | used => [Source.values (used.map (·.1)) source]

def repositories (gs : List Registration) : List ModelNames :=
  firstsBy ModelNames.stem <| gs.filterMap fun g =>
    match g.handler with
    | .stub => none
    | .run names .. => some names

def imports (gs : List Registration) : List Source.Import :=
  let routes := gs.map (·.route)
  someOf [("Router", true), ("json", routes.any (·.method.hasBody))] "express" ++
    someOf
      [("authenticate", routes.any (·.access.isSome)),
       ("requireRoles", routes.any fun r => r.access.any fun a => !a.roles.isEmpty)]
      "../middleware/auth" ++
    someOf [("HttpError", gs.any (·.handler.refuses))]
      "../middleware/errors" ++
    someOf [("rateLimit", routes.any (·.rateLimit.isSome))] "../middleware/rate-limit" ++
    someOf [("validateBody", routes.any (·.validatesBody))] "../middleware/validate" ++
    (repositories gs).map fun n =>
      Source.values [n.repository] ("../repositories/" ++ n.stem ++ ".repository")

def declaration (exported : Bool) (name : String) : Source.Declaration :=
  { exported, name, rest := " = Router();" }

def items (r : Router) : List Source.Item :=
  .gap :: .declare (declaration r.exported r.name) ::
    r.registrations.flatMap fun g => [.gap, .code (g.lines r.name)]

/-- The module of a router that others import. -/
def toModule (r : Router) : Source.Module :=
  { comment := Source.generated
    imports := imports r.registrations
    items := r.items ++ if r.exported then [] else [.gap, .exportDefault r.name] }

def stemOf (g : Registration) : String := Naming.kebabOr "default" g.route.primaryTag

def nameOf (stem : String) : String := Naming.identifier stem ++ "Router"

/-- The registrations of each resource, in the order of their first use. -/
def groups (gs : List Registration) : List (String × List Registration) := groupBy stemOf gs

/-- The router that joins the routers of stems. -/
def index (stems : List String) : Source.Module :=
  { comment := Source.generated
    imports := Source.values ["Router"] "express" ::
      stems.map fun s => Source.values [nameOf s] ("./" ++ s ++ ".routes")
    items :=
      [.gap, .declare (declaration false "router"),
       .code (stems.map fun s => "router.use(" ++ nameOf s ++ ");"),
       .gap, .exportDefault "router"] }

def ofLayout (layout : Layout) (gs : List Registration) : List Router :=
  match layout with
  | .minimal => [⟨"router", false, gs⟩]
  | .rest => (groups gs).map fun g => ⟨nameOf g.1, true, g.2⟩

def files (layout : Layout) (gs : List Registration) : List File :=
  let folder := ["src", "routes"]
  match layout with
  | .minimal =>
    (ofLayout .minimal gs).map fun r => .ofModule (folder ++ ["index.ts"]) r.toModule
  | .rest =>
    let stems := (groups gs).map (·.1)
    (stems.zip (ofLayout .rest gs)).map (fun g =>
      .ofModule (folder ++ [g.1 ++ ".routes.ts"]) g.2.toModule) ++
      [.ofModule (folder ++ ["index.ts"]) (index stems)]

end Router

end ApiGraph.Backend
