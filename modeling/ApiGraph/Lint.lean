import ApiGraph.Graph
import ApiGraph.Json.Printer
import ApiGraph.Warning

/-!
# Lint

Problems of the graph and of the models that later stages would work around in silence. Lint never
fails: every finding is a warning.
-/

namespace ApiGraph.Lint

def nodeIds (p : Project) : List Warning := (repeated (p.nodes.map (·.id))).map .duplicateNodeId

def nodeShape (n : Node) : Option Warning :=
  match n.content with
  | .foreign kind _ _ _ => some (.unknownNodeKind n.id kind)
  | .endpoint e => if Text.isBlank e.path then some (.emptyPath n.id) else none
  | _ => none

def danglingEdges (p : Project) : List Warning :=
  (Graph.dangling p.edges p.nodes).map fun d => .danglingEdge d.1.id d.2

def primaryKey (m : Model) : Option Warning :=
  match m.primaryKey with
  | [] => some (.missingPrimaryKey m.name)
  | [_] => none
  | key => some (.compositeKey m.name (key.map (·.name)))

/-- What a model lacks, at its index and after the models of the names given before it. -/
def modelShape (index : Nat) (before : List String) (m : Model) : Option Warning :=
  if Text.isBlank m.name then some (.unnamedModel index)
  else if m.name ∈ before then some (.duplicateModel m.name)
  else primaryKey m

/-- The findings of a list of models that starts at an index. -/
def modelsFrom (index : Nat) (before : List String) : List Model → List Warning
  | [] => []
  | m :: ms =>
    (modelShape index before m).toList ++ modelsFrom (index + 1) (m.name :: before) ms

/-- The model that a database node names, if something is wrong with it. -/
def modelReference (p : Project) (id : String) (d : DataAccess) : Option Warning :=
  if Text.isBlank d.model then some (.emptyModelName id)
  else if (p.model? d.model).isNone then some (.unknownModel id d.model)
  else none

/-- The limit of a database node, if it is no record count. -/
def limit (id : String) (d : DataAccess) : Option Warning :=
  if d.recordLimit.isSome then none else d.limit.map fun l => .invalidLimit id l.compact

def database (p : Project) (n : Node) : List Warning :=
  match n.content.database? with
  | some d => (modelReference p n.id d).toList ++ (limit n.id d).toList
  | none => []

def lint (p : Project) : List Warning :=
  nodeIds p ++ p.nodes.filterMap nodeShape ++ danglingEdges p ++ modelsFrom 0 [] p.models ++
    p.nodes.flatMap (database p)

end ApiGraph.Lint
