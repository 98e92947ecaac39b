import ApiGraph.Project.Basic

namespace ApiGraph

inductive Edit where
  | addNode (n : Node)
  | addEdge (e : Edge)
  | addModel (m : Model)
  | removeNode (index : Nat)
  | removeEdge (index : Nat)
  | removeModel (index : Nat)
  | swapNodes (i j : Nat)
  | swapModels (i j : Nat)
  | rename (name : String)
  | replaceSettings (s : Settings)
deriving DecidableEq

namespace Edit

/-- The list with two of its elements in each other's place. -/
def swap {α : Type} (l : List α) (i j : Nat) : List α :=
  match l[i]?, l[j]? with
  | some a, some b => (l.set i b).set j a
  | _, _ => l

def apply (p : Project) : Edit → Project
  | addNode n => { p with nodes := p.nodes ++ [n] }
  | addEdge e => { p with edges := p.edges ++ [e] }
  | addModel m => { p with models := p.models ++ [m] }
  | removeNode i => { p with nodes := p.nodes.eraseIdx i }
  | removeEdge i => { p with edges := p.edges.eraseIdx i }
  | removeModel i => { p with models := p.models.eraseIdx i }
  | swapNodes i j => { p with nodes := swap p.nodes i j }
  | swapModels i j => { p with models := swap p.models i j }
  | rename name => { p with name }
  | replaceSettings s => { p with settings := s }

end Edit

namespace ModelField

def asRequired (f : ModelField) : ModelField := { f with required := true }

def asUnique (f : ModelField) : ModelField := { f with unique := true }

/-- The field as part of the primary key, which is required and unique. -/
def asId (f : ModelField) : ModelField := { f with isId := true, required := true, unique := true }

end ModelField

end ApiGraph
