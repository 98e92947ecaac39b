import ApiGraph.Project.Endpoint

/-!
# Warnings

What the compiler works around instead of failing. Each warning names the node or model that it is
about; the route or model concerned degrades to the closest sensible output.
-/

namespace ApiGraph

/-- Where a list operation names a field. -/
inductive FieldUse where
  | filter
  | select
  | orderBy
deriving DecidableEq, Repr

def FieldUse.name : FieldUse → String
  | filter => "filter"
  | select => "select"
  | orderBy => "orderBy"

inductive Warning where
  | danglingEdge (edge missing : String)
  | duplicateNodeId (id : String)
  | unknownNodeKind (node kind : String)
  | multipleDatabaseNodes (endpoint chosen : String) (count : Nat)
  | unknownModel (node model : String)
  | missingPrimaryKey (model : String)
  | compositeKey (model : String) (fields : List String)
  | duplicateModel (model : String)
  | modelNameCollision (model other renamed : String)
  | emptyModelName (node : String)
  | unnamedModel (index : Nat)
  | unknownField (node model field : String) (use : FieldUse)
  | duplicateOperation (method : Method) (path first duplicate : String)
  | undeclaredPathParam (endpoint param path : String)
  | invalidLimit (node : String) (limit : String)
  | emptyPath (endpoint : String)
deriving DecidableEq, Repr

namespace Warning

def code : Warning → String
  | danglingEdge .. => "routify::graph::dangling_edge"
  | duplicateNodeId _ => "routify::graph::duplicate_node"
  | unknownNodeKind .. => "routify::graph::unknown_node_kind"
  | multipleDatabaseNodes .. => "routify::graph::multiple_database_nodes"
  | unknownModel .. => "routify::model::unknown"
  | missingPrimaryKey _ => "routify::model::missing_primary_key"
  | compositeKey .. => "routify::model::composite_key"
  | duplicateModel _ => "routify::model::duplicate"
  | modelNameCollision .. => "routify::model::name_collision"
  | emptyModelName _ => "routify::model::empty_name"
  | unnamedModel _ => "routify::model::unnamed"
  | unknownField .. => "routify::model::unknown_field"
  | duplicateOperation .. => "routify::route::duplicate_operation"
  | undeclaredPathParam .. => "routify::route::undeclared_path_param"
  | invalidLimit .. => "routify::route::invalid_limit"
  | emptyPath _ => "routify::route::empty_path"

def message : Warning → String
  | danglingEdge edge missing => s!"Edge '{edge}' references missing node '{missing}'"
  | duplicateNodeId id => s!"Duplicate node id '{id}'"
  | unknownNodeKind node kind => s!"Node '{node}' has unsupported kind '{kind}' and is ignored"
  | multipleDatabaseNodes endpoint chosen count =>
    s!"Endpoint '{endpoint}' is connected to {count} database nodes; using '{chosen}'"
  | unknownModel node model => s!"Model '{model}' referenced by node '{node}' does not exist"
  | missingPrimaryKey model => s!"Model '{model}' has no primary key field"
  | compositeKey model fields =>
    let listed := ", ".intercalate fields
    s!"Model '{model}' has a composite primary key ({listed}); only the first field is used for lookups"
  | duplicateModel model => s!"Model name '{model}' is declared more than once"
  | modelNameCollision model other renamed =>
    s!"Model '{model}' generates the same names as '{other}'; its artifacts use '{renamed}'"
  | emptyModelName node => s!"Database node '{node}' has no model"
  | unnamedModel index => s!"Model #{index} has no name and is skipped"
  | unknownField node model field use =>
    s!"Field '{field}' used in {use.name} on '{node}' is not a field of model '{model}'"
  | duplicateOperation method path first duplicate =>
    s!"{method.name} {path} is declared by '{duplicate}' and '{first}'; keeping '{first}'"
  | undeclaredPathParam endpoint param path =>
    s!"Path parameter '{param}' of endpoint '{endpoint}' does not appear in '{path}'"
  | invalidLimit node limit =>
    s!"Database node '{node}' has limit {limit}, which is not a non-negative integer; no limit is applied"
  | emptyPath endpoint => s!"Endpoint '{endpoint}' has an empty path"

def help : Warning → Option String
  | duplicateNodeId _ => some "Edges to this id connect to every node that shares it"
  | multipleDatabaseNodes .. => some "The first database node in project order wins"
  | unknownModel .. =>
    some "Create the model in the schema panel or fix the name on the database node"
  | missingPrimaryKey _ => some "Mark one field with isId"
  | modelNameCollision .. => some "Rename one of the models so their identifiers differ"
  | _ => none

end Warning

end ApiGraph
