import ApiGraph.Backend.Source
import ApiGraph.Json.Printer
import ApiGraph.Naming
import ApiGraph.Route
import ApiGraph.Text.Blank

/-!
# Packages

The package of the backend: its name, its scripts and the packages it depends on, which follow from
the engine, the settings and whether any route asks for credentials.
-/

namespace ApiGraph.Backend

structure Package where
  name : String
  description : Option String
  scripts : List (String × String)
  dependencies : List (String × String)
  devDependencies : List (String × String)
deriving DecidableEq, Repr

namespace Package

def nameOf (projectName : String) : String := Naming.kebabOr "routify-api" projectName

def scriptsOf : Target → List (String × String)
  | .nodejs =>
    [("dev", "tsx watch src/index.ts"), ("build", "tsc"), ("start", "node dist/index.js"),
     ("typecheck", "tsc --noEmit")]
  | .typescript =>
    [("dev", "tsx watch src/index.ts"), ("start", "tsx src/index.ts"),
     ("typecheck", "tsc --noEmit")]

def engineDependencies : Engine → List (String × String)
  | .postgresql => [("knex", "^3.1.0"), ("pg", "^8.12.0")]
  | .mysql => [("knex", "^3.1.0"), ("mysql2", "^3.11.0")]
  | .sqlite => [("knex", "^3.1.0"), ("better-sqlite3", "^11.1.2")]
  | .mongodb => [("mongoose", "^8.5.1")]

def engineTypes : Engine → List (String × String)
  | .sqlite => [("@types/better-sqlite3", "^7.6.11")]
  | _ => []

def when (condition : Bool) (entries : List (String × String)) : List (String × String) :=
  if condition then entries else []

def dependenciesOf (s : Settings) (usesAuth : Bool) : List (String × String) :=
  [("express", "^4.19.2"), ("dotenv", "^16.4.5")] ++ engineDependencies s.engine ++
    when s.cors [("cors", "^2.8.5")] ++ when s.docs [("swagger-ui-express", "^5.0.1")] ++
    when usesAuth [("jsonwebtoken", "^9.0.2")]

def devDependenciesOf (s : Settings) (usesAuth : Bool) : List (String × String) :=
  [("typescript", "^5.5.4"), ("tsx", "^4.16.2"), ("@types/node", "^20.14.10"),
   ("@types/express", "^4.17.21")] ++ engineTypes s.engine ++
    when s.cors [("@types/cors", "^2.8.17")] ++
    when s.docs [("@types/swagger-ui-express", "^4.1.6")] ++
    when usesAuth [("@types/jsonwebtoken", "^9.0.6")]

def ofProject (p : Project) (routes : List Route) : Package :=
  let usesAuth := routes.any (·.access.isSome)
  { name := nameOf p.name
    description := (some (Text.trim p.description)).filter (· ≠ "")
    scripts := scriptsOf p.settings.target
    dependencies := dependenciesOf p.settings usesAuth
    devDependencies := devDependenciesOf p.settings usesAuth }

/-- A dictionary of texts with ascending keys. -/
def sorted (entries : List (String × String)) : Json :=
  .obj (Json.sortFields (entries.map fun e => (e.1, .str e.2)))

def toJson (p : Package) : Json := .record
  [("name", some (.str p.name)),
   ("version", some (.str "1.0.0")),
   ("private", some (.bool true)),
   ("description", p.description.map .str),
   ("main", some (.str "dist/index.js")),
   ("scripts", some (sorted p.scripts)),
   ("dependencies", some (sorted p.dependencies)),
   ("devDependencies", some (sorted p.devDependencies)),
   ("engines", some (sorted [("node", ">=18")]))]

def write (p : Package) : String := p.toJson.pretty ++ "\n"

end Package

/-- The options of the TypeScript compiler; compiled output carries a map to its source. -/
def compilerOptions (target : Target) : List (String × Json) :=
  [("target", .str "ES2022"), ("module", .str "CommonJS"), ("moduleResolution", .str "node"),
   ("rootDir", .str "src"), ("outDir", .str "dist")] ++
    (if target = .nodejs then [("sourceMap", .bool true)] else []) ++
    [("strict", .bool true), ("esModuleInterop", .bool true), ("skipLibCheck", .bool true),
     ("resolveJsonModule", .bool true), ("forceConsistentCasingInFileNames", .bool true)]

def compilerConfig (target : Target) : String :=
  let options := (compilerOptions target).map fun o =>
    "    " ++ Json.writeString o.1 ++ ": " ++ o.2.compact
  unlines
    ["\x7b", "  \"compilerOptions\": \x7b", ",\n".intercalate options, "  \x7d,",
     "  \"include\": [\"src/**/*\"]", "\x7d"]

/-- The files that version control leaves out. -/
def ignoredFiles : List String := ["node_modules/", "dist/", "*.sqlite", ".env"]

end ApiGraph.Backend
