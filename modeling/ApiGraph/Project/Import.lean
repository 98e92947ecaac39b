import ApiGraph.Json.Parser
import ApiGraph.Project.Basic

/-!
# Import and export

`Project.import?` reads an exported project. Endpoints of older exports lack keys that every
endpoint has now; `migrateNoting` puts stand-ins where a key is absent or `null` and nowhere else.
`exported` writes a project over lines.
-/

namespace ApiGraph

inductive ImportError where
  | syntaxError (e : Json.SyntaxError) (source : String)
  | notAnObject
  | misfit (e : DecodeError)
  | newerFormat (found : Nat)
deriving DecidableEq, Repr

namespace Project

def formatSupported : Nat := 1

end Project

namespace ImportError

def message : ImportError → String
  | syntaxError e source => "Failed to import project: " ++ e.message source
  | notAnObject => "Failed to import project: expected a JSON object at the top level"
  | misfit e => "Failed to import project: " ++ e.message
  | newerFormat found =>
    s!"Project format version {found} is newer than the supported version {Project.formatSupported}"

def code : ImportError → String
  | newerFormat _ => "routify::import::unsupported_version"
  | _ => "routify::import::invalid_project"

def help : ImportError → String
  | newerFormat _ => "Upgrade routify to open this project"
  | _ => "Make sure the file is a project exported from the Routify editor"

end ImportError

namespace Project

/-- A key is missing when it is absent or `null`. -/
def isMissing (fields : List (String × Json)) (key : String) : Bool :=
  (fields.lookup key).getD .null = .null

/-- The text under a key, empty where there is none. -/
def textAt (fields : List (String × Json)) (key : String) : String :=
  match fields.lookup key with
  | some (.str s) => s
  | _ => ""

/-- The only response of an older endpoint, from the two keys that described it. -/
def soleResponse (fields : List (String × Json)) : Json :=
  let status := match fields.lookup "statusCode" with
    | some (.num (.int n)) => if 0 < n then n else 200
    | _ => 200
  let schema := match fields.lookup "responseSchema" with
    | some (.arr items) => items
    | _ => []
  .obj
    [("description", .str "Successful response"),
     ("schema", .arr schema),
     ("statusCode", .num (.int status))]

/-- The keys that every endpoint has, each with what stands in for it in an older one. -/
def standIns (fields : List (String × Json)) : List (String × Json) :=
  [("method", .str "GET"),
   ("path", .str "/api/resource"),
   ("summary", .str (textAt fields "description")),
   ("description", .str ""),
   ("tags", .arr []),
   ("deprecated", .bool false),
   ("auth", .obj [("required", .bool false), ("roles", .arr []), ("type", .str "none")]),
   ("pathParams", .arr []),
   ("queryParams", .arr []),
   ("bodySchema", .arr []),
   ("responses", .arr [soleResponse fields])]

def gaps (fields : List (String × Json)) : List String :=
  ((standIns fields).map (·.1)).filter (isMissing fields)

/-- Fills a gap, and notes that something changed. -/
def fillNoting (state : List (String × Json) × Bool) (s : String × Json) :
    List (String × Json) × Bool :=
  if isMissing state.1 s.1 then (Json.setField s.1 s.2 state.1, true) else state

/-- Puts the stand-ins where keys are missing and drops the older keys. Says whether a key was
missing. -/
def migrateNoting (fields : List (String × Json)) : List (String × Json) × Bool :=
  let filled := (standIns fields).foldl fillNoting (fields, false)
  (Json.dropField "responseSchema" (Json.dropField "statusCode" filled.1), filled.2)

def migrate (fields : List (String × Json)) : List (String × Json) := (migrateNoting fields).1

/-- Changes the values under a key of an object. -/
def within (key : String) (change : Json → Json) : Json → Json
  | .obj fields => .obj (fields.map fun f => if f.1 = key then (f.1, change f.2) else f)
  | j => j

def onFields (change : List (String × Json) → List (String × Json)) : Json → Json
  | .obj fields => .obj (change fields)
  | j => j

def onItems (change : Json → Json) : Json → Json
  | .arr items => .arr (items.map change)
  | j => j

def isEndpointNode (node : Json) : Bool :=
  (node.get? "data").bind (Json.get? "type") = some (.str "endpoint")

def migrateNode (node : Json) : Json :=
  if isEndpointNode node then within "data" (within "config" (onFields migrate)) node else node

/-- A written project in the present form; settings that are `null` count as absent. -/
def migrateAll (root : List (String × Json)) : Json :=
  let root := if root.lookup "settings" = some .null then Json.dropField "settings" root else root
  within "nodes" (onItems migrateNode) (.obj root)

/-- The format version of a written project, if it is beyond the supported one; versions beyond 32
bits are shown as the greatest of 32 bits. -/
def newerFormat? (root : List (String × Json)) : Option Nat :=
  match root.lookup "formatVersion" with
  | some (.num (.int n)) =>
    if formatSupported < n then some (min n.toNat (Nat.pow 2 32 - 1)) else none
  | _ => none

def ofJson : Json → Except ImportError Project
  | .obj root =>
    match newerFormat? root with
    | some found => .error (.newerFormat found)
    | none => (decode (migrateAll root)).mapError .misfit
  | _ => .error .notAnObject

def import? (source : String) : Except ImportError Project :=
  match Json.parse source with
  | .error e => .error (.syntaxError e source)
  | .ok j => ofJson j

def exported (p : Project) : String := p.toJson.pretty

end Project

end ApiGraph
