import ApiGraph.Json.Decode
import ApiGraph.Text.Pieces

namespace ApiGraph

inductive Engine where
  | postgresql
  | mysql
  | sqlite
  | mongodb
deriving DecidableEq, Repr

namespace Engine

def all : List Engine := [.postgresql, .mysql, .sqlite, .mongodb]

def name : Engine → String
  | .postgresql => "postgresql"
  | .mysql => "mysql"
  | .sqlite => "sqlite"
  | .mongodb => "mongodb"

/-- An engine with tables; the other one keeps documents. -/
def isSql : Engine → Bool
  | .mongodb => false
  | _ => true

/-- A name that no engine has, in lower case. -/
structure Unknown where
  name : String
deriving DecidableEq, Repr

def Unknown.message (e : Unknown) : String :=
  s!"unknown storage engine '{e.name}' (expected postgresql, mysql, sqlite or mongodb)"

/-- The engine of a name or alias, in any ASCII case. -/
def ofName (s : String) : Except Unknown Engine :=
  match Text.asciiLower s with
  | "postgresql" | "postgres" | "pg" => .ok .postgresql
  | "mysql" => .ok .mysql
  | "sqlite" => .ok .sqlite
  | "mongodb" | "mongo" => .ok .mongodb
  | other => .error ⟨other⟩

def decode : Decoder Engine := Decoder.variant (all.map fun e => (e.name, e))

end Engine

/-- What the backend runs on: compiled output or the sources. -/
inductive Target where
  | nodejs
  | typescript
deriving DecidableEq, Repr

namespace Target

def name : Target → String
  | .nodejs => "nodejs"
  | .typescript => "typescript"

def decode : Decoder Target := Decoder.variant ([nodejs, typescript].map fun t => (t.name, t))

end Target

/-- How routes are laid out: a module per resource, or a single one. -/
inductive Layout where
  | rest
  | minimal
deriving DecidableEq, Repr

namespace Layout

def name : Layout → String
  | .rest => "rest"
  | .minimal => "minimal"

def decode : Decoder Layout := Decoder.variant ([rest, minimal].map fun l => (l.name, l))

end Layout

structure Settings where
  engine : Engine := .postgresql
  port : Nat := 3000
  basePath : String := "/api"
  docs : Bool := true
  cors : Bool := true
  corsOrigins : List String := ["*"]
  target : Target := .typescript
  layout : Layout := .rest
deriving DecidableEq, Repr

namespace Settings

def decode : Decoder Settings :=
  let d : Settings := {}
  Fields.decode "ProjectSettings" <|
    Settings.mk
      <$> Fields.default "database" d.engine Engine.decode
      <*> Fields.default "port" d.port (Decoder.unsigned 16)
      <*> Fields.default "basePath" d.basePath Decoder.text
      <*> Fields.default "enableSwagger" d.docs Decoder.bool
      <*> Fields.default "enableCors" d.cors Decoder.bool
      <*> Fields.default "corsOrigins" d.corsOrigins (Decoder.list Decoder.text)
      <*> Fields.default "target" d.target Target.decode
      <*> Fields.default "apiStyle" d.layout Layout.decode

def toJson (s : Settings) : Json := .obj
  [("database", .str s.engine.name),
   ("port", .nat s.port),
   ("basePath", .str s.basePath),
   ("enableSwagger", .bool s.docs),
   ("enableCors", .bool s.cors),
   ("corsOrigins", .strings s.corsOrigins),
   ("target", .str s.target.name),
   ("apiStyle", .str s.layout.name)]

end Settings

/-- Settings given for one compilation in place of the project's own. -/
structure Overrides where
  engine : Option Engine := none
  port : Option Nat := none
deriving DecidableEq, Repr

namespace Overrides

def any (o : Overrides) : Bool := o.engine.isSome || o.port.isSome

def apply (o : Overrides) (s : Settings) : Settings :=
  { s with engine := o.engine.getD s.engine, port := o.port.getD s.port }

end Overrides

end ApiGraph
