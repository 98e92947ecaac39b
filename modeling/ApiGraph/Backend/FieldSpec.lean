import ApiGraph.Backend.Source
import ApiGraph.Number.Notation
import ApiGraph.Project.SchemaField

namespace ApiGraph.Backend

inductive FieldSpec where
  | mk (name type : String) (required : Bool) (limits : Constraints) (children : List FieldSpec)

namespace FieldSpec

/-- Numbers in TypeScript are written without an exponent and without `.0`. -/
def numberStyle : NumberStyle where
  positional _ := true
  pointZero := false
  tie := .up

/-- The limits that are checked. Empty choices are none; an example is no limit. -/
def checked (c : Constraints) : Constraints :=
  { c with example? := none, choices := c.choices.filter (· ≠ []) }

mutual

def ofField : SchemaField → FieldSpec
  | .mk name kind required _ c => .mk name kind.name required (checked c) (ofKind kind)

def ofKind : FieldKind → List FieldSpec
  | .object children | .array children => ofFields children
  | _ => []

def ofFields : List SchemaField → List FieldSpec
  | [] => []
  | f :: fs => ofField f :: ofFields fs

end

def limitParts (c : Constraints) : List String :=
  (c.choices.map fun l => "enum: " ++ inBrackets (l.map Text.quote)).toList ++
    (c.minLength.map fun n => s!"minLength: {n}").toList ++
    (c.maxLength.map fun n => s!"maxLength: {n}").toList ++
    (c.minimum.map fun x => "minimum: " ++ numberStyle.write x).toList ++
    (c.maximum.map fun x => "maximum: " ++ numberStyle.write x).toList ++
    (c.pattern.map fun p => "pattern: " ++ Text.quote p).toList

mutual

def write : FieldSpec → String
  | .mk name type required limits children =>
    inBraces
      (["name: " ++ Text.quote name, "type: " ++ Text.quote type] ++
        (if required then ["required: true"] else []) ++ limitParts limits ++
        (if children.isEmpty then []
          else ["children: " ++ inBrackets (writeAll children)]))

def writeAll : List FieldSpec → List String
  | [] => []
  | f :: fs => write f :: writeAll fs

end

end FieldSpec

end ApiGraph.Backend
