import ApiGraph.FirstUse
import ApiGraph.Project.Basic

/-!
# Adjacency

Edges have no direction: two ids are joined when an edge leads from one to the other either way. An
id may belong to several nodes, and each of them is connected then.
-/

namespace ApiGraph.Graph

/-- The ends of an edge that lie across from an id. -/
def across (id : String) (e : Edge) : List String :=
  (if e.source = id then [e.target] else []) ++ (if e.target = id then [e.source] else [])

/-- The ids that edges join to an id, in the order of the edges. -/
def joined (edges : List Edge) (id : String) : List String := edges.flatMap (across id)

/-- The nodes that are connected to an id, in node order. -/
def connected (edges : List Edge) (nodes : List Node) (id : String) : List Node :=
  let ids := joined edges id
  nodes.filter fun n => n.id ∈ ids

/-- The ids that are joined to an id, each once, in ascending order. -/
def neighbors (edges : List Edge) (id : String) : List String :=
  (firsts (joined edges id)).mergeSort fun a b => decide (a ≤ b)

/-- The end of an edge that is no node; of two the source. -/
def missingEnd? (nodes : List Node) (e : Edge) : Option String :=
  [e.source, e.target].find? fun id => !nodes.any (·.id == id)

/-- The edges that lack a node, each with the id of the node. -/
def dangling (edges : List Edge) (nodes : List Node) : List (Edge × String) :=
  edges.filterMap fun e => (missingEnd? nodes e).map fun id => (e, id)

end ApiGraph.Graph
