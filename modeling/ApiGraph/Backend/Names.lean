import ApiGraph.Naming
import ApiGraph.Naming.Fresh
import ApiGraph.Project.Model
import ApiGraph.Warning

/-!
# Names of models

The names that the artifacts of a model use. Names that clash with those of an earlier model, in any
case of letters, get a number (`nameModels`).
-/

namespace ApiGraph.Backend

structure ModelNames where
  /-- The stem of bindings. -/
  ident : String
  /-- The name of the interface. -/
  type : String
  /-- The stem of files, and the name of the table or collection. -/
  stem : String
deriving DecidableEq, Repr

namespace ModelNames

/-- The names that a model would like to have. -/
def ofName (name : String) : ModelNames :=
  let ident := Naming.identifier name
  { ident, type := Naming.pascal ident, stem := Naming.snake ident }

/-- The names of an index: the wanted ones first, then with a number. -/
def numbered (base : ModelNames) (n : Nat) : ModelNames :=
  { ident := Naming.numbered base.ident "" n
    type := Naming.numbered base.type "" n
    stem := Naming.numbered base.stem "_" n }

def repository (n : ModelNames) : String := n.ident ++ "Repository"

def collection (n : ModelNames) : String := n.type ++ "Model"

/-- The names in the form in which no two models may share one. File systems may fold case. -/
def keys (n : ModelNames) : List String :=
  ["ident:" ++ Text.asciiLower n.ident, "type:" ++ Text.asciiLower n.type,
   "stem:" ++ Text.asciiLower n.stem]

end ModelNames

structure NamedModel where
  model : Model
  names : ModelNames
  /-- The earlier model that has a name this one would like to have. -/
  clash : Option String
deriving DecidableEq

def owner? (taken : List (String × String)) (n : ModelNames) : Option String :=
  n.keys.findSome? fun key => taken.lookup key

/-- The names of a model, where some keys are taken by others. -/
def nameModel (taken : List (String × String)) (m : Model) : NamedModel :=
  let base := ModelNames.ofName m.name
  let free : Nat → Bool := fun n => (owner? taken (base.numbered n)).isNone
  { model := m
    names := base.numbered (Naming.firstFree taken.length free)
    clash := owner? taken base }

def nameFrom (taken : List (String × String)) : List Model → List NamedModel
  | [] => []
  | m :: ms =>
    let named := nameModel taken m
    named :: nameFrom (taken ++ named.names.keys.map (·, m.name)) ms

def nameModels (models : List Model) : List NamedModel := nameFrom [] models

/-- The warning about a model that was renamed. -/
def NamedModel.warning? (m : NamedModel) : Option Warning :=
  m.clash.map fun other => .modelNameCollision m.model.name other m.names.type

end ApiGraph.Backend
