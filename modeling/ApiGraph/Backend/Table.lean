import ApiGraph.Backend.FieldDefault
import ApiGraph.Backend.Names
import ApiGraph.Backend.Source
import ApiGraph.FieldTypes

namespace ApiGraph.Backend

inductive Column where
  /-- An integer key that counts by itself. -/
  | increments (name : String)
  | typed (name method : String) (notNull : Bool) (default? : Option FieldDefault)
deriving DecidableEq, Repr

def Column.name : Column → String
  | increments name => name
  | typed name .. => name

def Column.defaultText (d : FieldDefault) : String := d.literal?.getD "knex.fn.now()"

def Column.write : Column → String
  | increments name => "table.increments(" ++ Text.quote name ++ ");"
  | typed name method notNull default? =>
    "table." ++ method ++ "(" ++ Text.quote name ++ ")" ++
      (if notNull then ".notNullable()" else "") ++
      (match default? with
        | some d => ".defaultTo(" ++ defaultText d ++ ")"
        | none => "") ++ ";"

structure Table where
  name : String
  columns : List Column
  /-- The columns of a primary key that is declared below the columns. -/
  primary : List String
  /-- The columns without repetitions. -/
  unique : List String
deriving DecidableEq, Repr

namespace Table

/-- The name of a key that counts by itself. -/
def counter? (m : Model) : Option String :=
  match m.primaryKey with
  | [f] => if f.type = .int then some f.name else none
  | _ => none

def column (engine : Engine) (counter : Option String) (f : ModelField) : Column :=
  if counter = some f.name then .increments f.name
  else .typed f.name (f.type.columnMethod engine) f.required (FieldDefault.stored f)

def ofModel (engine : Engine) (m : NamedModel) : Table :=
  let counter := counter? m.model
  { name := m.names.stem
    columns := m.model.fields.map (column engine counter)
    primary := if counter.isSome then [] else m.model.primaryKey.map (·.name)
    unique := (m.model.fields.filter fun f => f.unique && !f.isId).map (·.name) }

/-- The lines inside the creation of a table. -/
def body (t : Table) : List String :=
  t.columns.map (·.write) ++
    (if t.primary.isEmpty then []
      else ["table.primary(" ++ inBrackets (t.primary.map Text.quote) ++ ");"]) ++
    t.unique.map fun name => "table.unique([" ++ Text.quote name ++ "]);"

/-- The lines that create a table unless it exists. -/
def write (t : Table) : List String :=
  let name := Text.quote t.name
  block ("if (!(await knex.schema.hasTable(" ++ name ++ "))) ")
    (block ("await knex.schema.createTable(" ++ name ++ ", (table) => ") t.body ");") ""

/-- The lines of tables, with an empty line between any two. -/
def writeAll : List Table → List String
  | [] => []
  | [t] => indent t.write
  | t :: ts => indent t.write ++ "" :: writeAll ts

def ensureSchema (tables : List Table) : Source.Declaration :=
  { exported := true
    keyword := "async function"
    name := "ensureSchema"
    rest := "(knex: Knex = db): Promise<void> \x7b"
    more := writeAll tables ++ ["\x7d"] }

def toModule (tables : List Table) : Source.Module :=
  { comment := Source.generated
    imports := [Source.types ["Knex"] "knex", Source.values ["db"] "./client"]
    items := [.gap, .declare (ensureSchema tables)] }

end Table

end ApiGraph.Backend
