import ApiGraph.Backend.Source
import ApiGraph.OpenApi.Document

namespace ApiGraph.Backend.Server

def imports (s : Settings) : List Source.Import :=
  [⟨.effect, "dotenv/config"⟩, Source.defaultOf "express" "express"] ++
    (if s.cors then [Source.defaultOf "cors" "cors"] else []) ++
    (if s.docs then
      [Source.defaultOf "swaggerUi" "swagger-ui-express", Source.defaultOf "openapi" "./swagger"]
    else []) ++
    [Source.values ["connectDatabase"] "./db/client"] ++
    (if s.engine.isSql then [Source.values ["ensureSchema"] "./db/schema"] else []) ++
    [Source.values ["errorHandler", "notFoundHandler"] "./middleware/errors",
     Source.defaultOf "routes" "./routes"]

/-- The origins that may call, unless all may. -/
def origins? (s : Settings) : Option (List String) :=
  let origins := (s.corsOrigins.map Text.trim).filter (· ≠ "")
  if origins.isEmpty || origins.contains "*" then none else some origins

def corsLine (s : Settings) : String :=
  match origins? s with
  | none => "app.use(cors());"
  | some origins =>
    "app.use(cors(" ++ inBraces ["origin: " ++ inBrackets (origins.map Text.quote)] ++ "));"

def docsLines : List String :=
  block "app.get('/openapi.json', (_req, res) => " ["res.json(openapi);"] ");" ++
    ["app.use('/docs', swaggerUi.serve, swaggerUi.setup(openapi));"]

def setup (s : Settings) : List String :=
  (if s.cors then [corsLine s] else []) ++ (if s.docs then docsLines else []) ++
    ["app.use(routes);", "app.use(notFoundHandler);", "app.use(errorHandler);"]

def start (s : Settings) : Source.Declaration :=
  .ofBlock false "async function" "main" "(): Promise<void> "
    (["await connectDatabase();"] ++
      (if s.engine.isSql then ["await ensureSchema();"] else []) ++
      block "app.listen(port, () => "
        ["console.log(`Server listening on http://localhost:$\x7bport\x7d`);"] ");") ""

def entry (s : Settings) : Source.Module :=
  { comment := Source.generated
    imports := imports s
    items :=
      [.gap,
       .declare { name := "app", rest := " = express();" },
       .gap,
       .code (setup s),
       .gap,
       .declare { name := "port", rest := s!" = Number(process.env.PORT ?? {s.port});" },
       .gap,
       .declare (start s),
       .gap,
       .code (block "main().catch((err) => " ["console.error(err);", "process.exit(1);"] ");")] }

def documentModule (d : OpenApi.Document) : Source.Module :=
  { comment := Source.generated
    imports := []
    items :=
      [.declare { name := "openapi", rest := " = " ++ d.toJson.pretty ++ ";" }, .gap,
       .exportDefault "openapi"] }

end ApiGraph.Backend.Server
