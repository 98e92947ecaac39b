import ApiGraph.Backend.FieldDefault
import ApiGraph.Backend.Names
import ApiGraph.Backend.Source
import ApiGraph.FieldTypes

namespace ApiGraph.Backend

structure DocumentPath where
  name : String
  type : String
  required : Bool
  unique : Bool
  default? : Option FieldDefault
deriving DecidableEq, Repr

namespace DocumentPath

/-- The path of a field. A key is unique without being said to be. -/
def ofField (f : ModelField) : DocumentPath :=
  { name := f.name, type := f.type.documentType, required := f.required,
    unique := f.unique && !f.isId, default? := FieldDefault.stored f }

def defaultText (d : FieldDefault) : String := d.literal?.getD "Date.now"

def write (p : DocumentPath) : String :=
  Text.propertyKey p.name ++ ": " ++
    inBraces
      (["type: " ++ p.type] ++ (if p.required then ["required: true"] else []) ++
        (if p.unique then ["unique: true"] else []) ++
        (p.default?.map fun d => "default: " ++ defaultText d).toList) ++ ","

end DocumentPath

structure Collection where
  names : ModelNames
  paths : List DocumentPath
deriving DecidableEq, Repr

namespace Collection

def ofModel (m : NamedModel) : Collection :=
  { names := m.names, paths := m.model.fields.map .ofField }

def schemaDeclaration (c : Collection) : Source.Declaration :=
  { name := c.names.ident ++ "Schema"
    rest := " = new Schema<" ++ c.names.type ++ ">("
    more := indent (block "" (c.paths.map (·.write)) "," ++
        [inBraces ["collection: " ++ Text.quote c.names.stem, "versionKey: false"] ++ ","]) ++
      [");"] }

def modelDeclaration (c : Collection) : Source.Declaration :=
  { exported := true
    name := c.names.collection
    rest := " = model<" ++ c.names.type ++ ">(" ++ Text.quote c.names.type ++ ", " ++
      c.names.ident ++ "Schema);" }

def toModule (c : Collection) : Source.Module :=
  { comment := Source.generated
    imports :=
      [Source.values ["Schema", "model"] "mongoose", Source.types [c.names.type] "../types/models"]
    items := [.gap, .declare c.schemaDeclaration, .gap, .declare c.modelDeclaration] }

end Collection

end ApiGraph.Backend
