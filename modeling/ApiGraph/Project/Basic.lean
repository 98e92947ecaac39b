import ApiGraph.FirstUse
import ApiGraph.Project.DataAccess
import ApiGraph.Project.Model
import ApiGraph.Project.Settings

/-!
# Projects

A project is a graph of nodes and undirected edges together with data models and settings. A node
kind that the compiler does not know is kept with its configuration, so that it survives a round
trip.
-/

namespace ApiGraph

structure Position where
  x : Binary64 := .zero
  y : Binary64 := .zero
deriving DecidableEq, Repr

namespace Position

def decode : Decoder Position :=
  Fields.decode "Position" <|
    Position.mk <$> Fields.required "x" Decoder.float <*> Fields.required "y" Decoder.float

def toJson (p : Position) : Json := .obj [("x", .float p.x), ("y", .float p.y)]

end Position

/-- The names of the node kinds with a meaning of their own. -/
def NodeContent.known : List String := ["endpoint", "database", "auth", "response"]

inductive NodeContent where
  | endpoint (e : Endpoint)
  | database (d : DataAccess)
  | auth (g : AuthGate)
  | response (r : ResponseShape)
  | foreign (kind : String) (config : Json) (unknown : kind ∉ NodeContent.known)
    (present : config ≠ .null)
deriving DecidableEq

namespace NodeContent

/-- The name of the kind; kinds without a meaning share one. -/
def kindName : NodeContent → String
  | endpoint _ => "endpoint"
  | database _ => "database"
  | auth _ => "auth"
  | response _ => "response"
  | foreign .. => "unknown"

/-- The name of the kind in project files. -/
def typeName : NodeContent → String
  | foreign kind _ _ _ => kind
  | c => c.kindName

def endpoint? : NodeContent → Option Endpoint
  | endpoint e => some e
  | _ => none

def database? : NodeContent → Option DataAccess
  | database d => some d
  | _ => none

def auth? : NodeContent → Option AuthGate
  | auth g => some g
  | _ => none

/-- A configuration that was not written is empty. -/
def orEmpty : Json → Json
  | .null => .obj []
  | j => j

theorem orEmpty_ne_null (j : Json) : orEmpty j ≠ .null := by
  cases j <;> simp [orEmpty]

def ofConfig (kind : String) (config : Json) : Except DecodeError NodeContent :=
  if h : kind ∈ known then
    match kind with
    | "endpoint" => endpoint <$> Endpoint.decode (orEmpty config)
    | "database" => database <$> DataAccess.decode (orEmpty config)
    | "auth" => auth <$> AuthGate.decode (orEmpty config)
    | _ => response <$> ResponseShape.decode (orEmpty config)
  else .ok (foreign kind (orEmpty config) h (orEmpty_ne_null config))

/-- Reads what a node is: first the kind, then its configuration. -/
def decode : Decoder NodeContent := fun j => do
  let (kind, config) ← Fields.decode "RawNodeData"
    (Prod.mk
      <$> Fields.required "type" Decoder.text
      <*> Fields.default "config" .null (fun j => .ok j)) j
  ofConfig kind config

def configJson : NodeContent → Json
  | endpoint e => e.toJson
  | database d => d.toJson
  | auth g => g.toJson
  | response r => r.toJson
  | foreign _ config _ _ => config

def toJson (c : NodeContent) : Json := .obj [("type", .str c.typeName), ("config", c.configJson)]

end NodeContent

structure Node where
  id : String
  /-- The name of the kind, as the editor draws it. -/
  type : String := ""
  position : Position := {}
  content : NodeContent
  selected : Option Bool := none
deriving DecidableEq

namespace Node

def ofContent (id : String) (content : NodeContent) : Node :=
  { id, type := content.kindName, content }

def decode : Decoder Node :=
  Fields.decode "Node" <|
    Node.mk
      <$> Fields.required "id" Decoder.text
      <*> Fields.default "type" "" Decoder.text
      <*> Fields.default "position" {} Position.decode
      <*> Fields.required "data" NodeContent.decode
      <*> Fields.maybe "selected" Decoder.bool

def toJson (n : Node) : Json := .record
  [("id", some (.str n.id)),
   ("type", some (.str n.type)),
   ("position", some n.position.toJson),
   ("data", some n.content.toJson),
   ("selected", n.selected.map .bool)]

end Node

structure Edge where
  id : String
  source : String
  target : String
  sourceHandle : Option String := none
  targetHandle : Option String := none
deriving DecidableEq, Repr

namespace Edge

def decode : Decoder Edge :=
  Fields.decode "Edge" <|
    Edge.mk
      <$> Fields.required "id" Decoder.text
      <*> Fields.required "source" Decoder.text
      <*> Fields.required "target" Decoder.text
      <*> Fields.maybe "sourceHandle" Decoder.text
      <*> Fields.maybe "targetHandle" Decoder.text

def toJson (e : Edge) : Json := .record
  [("id", some (.str e.id)),
   ("source", some (.str e.source)),
   ("target", some (.str e.target)),
   ("sourceHandle", e.sourceHandle.map .str),
   ("targetHandle", e.targetHandle.map .str)]

end Edge

structure Project where
  formatVersion : Option Nat := none
  id : String := ""
  name : String := ""
  description : String := ""
  createdAt : Option String := none
  updatedAt : Option String := none
  nodes : List Node := []
  edges : List Edge := []
  models : List Model := []
  settings : Settings := {}
deriving DecidableEq

namespace Project

def endpoints (p : Project) : List (String × Endpoint) :=
  p.nodes.filterMap fun n => n.content.endpoint?.map fun e => (n.id, e)

/-- The models that get artifacts: of each name that is not blank, the first declaration. -/
def emittedModels (p : Project) : List Model :=
  firstsBy Model.name (p.models.filter fun m => !Text.isBlank m.name)

def model? (p : Project) (name : String) : Option Model := p.models.find? (·.name == name)

def decode : Decoder Project :=
  Fields.decode "Project" <|
    Project.mk
      <$> Fields.maybe "formatVersion" (Decoder.unsigned 32)
      <*> Fields.default "id" "" Decoder.text
      <*> Fields.default "name" "" Decoder.text
      <*> Fields.default "description" "" Decoder.text
      <*> Fields.maybe "createdAt" Decoder.text
      <*> Fields.maybe "updatedAt" Decoder.text
      <*> Fields.default "nodes" [] (Decoder.list Node.decode)
      <*> Fields.default "edges" [] (Decoder.list Edge.decode)
      <*> Fields.default "models" [] (Decoder.list Model.decode)
      <*> Fields.default "settings" {} Settings.decode

def toJson (p : Project) : Json := .record
  [("formatVersion", p.formatVersion.map .nat),
   ("id", some (.str p.id)),
   ("name", some (.str p.name)),
   ("description", some (.str p.description)),
   ("createdAt", p.createdAt.map .str),
   ("updatedAt", p.updatedAt.map .str),
   ("nodes", some (.arr (p.nodes.map Node.toJson))),
   ("edges", some (.arr (p.edges.map Edge.toJson))),
   ("models", some (.arr (p.models.map Model.toJson))),
   ("settings", some p.settings.toJson)]

end Project

end ApiGraph
