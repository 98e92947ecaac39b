import ApiGraph.Backend.Names
import ApiGraph.Backend.Source
import ApiGraph.FieldTypes

namespace ApiGraph.Backend

structure Member where
  name : String
  isOptional : Bool
  type : String
deriving DecidableEq, Repr

def Member.ofField (f : ModelField) : Member :=
  { name := f.name, isOptional := !f.required, type := f.type.memberType }

def Member.write (m : Member) : String :=
  Text.propertyKey m.name ++ (if m.isOptional then "?" else "") ++ ": " ++ m.type ++ ";"

structure Interface where
  name : String
  members : List Member
deriving DecidableEq, Repr

namespace Interface

def ofModel (m : NamedModel) : Interface :=
  { name := m.names.type, members := m.model.fields.map .ofField }

def declaration (i : Interface) : Source.Declaration :=
  .ofBlock true "interface" i.name " " (i.members.map (·.write)) ""

def toModule (interfaces : List Interface) : Source.Module :=
  { comment := Source.generated
    imports := []
    items := interfaces.flatMap fun i => [.gap, .declare i.declaration] }

end Interface

end ApiGraph.Backend
