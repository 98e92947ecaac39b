import ApiGraph.Backend.Names
import ApiGraph.Backend.Source
import ApiGraph.Project.Settings

/-!
# Repositories

The data access module of each model. All repositories offer the same functions, whatever the
engine, so that handlers do not depend on it: `findMany` and `create`, and for a model with a record
key also `findById`, `update` and `remove`.
-/

namespace ApiGraph.Backend

structure RecordKey where
  name : String
  /-- Whether a new record without a key gets a random one. -/
  isGenerated : Bool
deriving DecidableEq, Repr

/-- The record key of a model; a document always has an `_id`. -/
def recordKey (engine : Engine) (m : Model) : Option RecordKey :=
  match m.lookupField with
  | some f => some ⟨f.name, f.type = .string⟩
  | none => if engine.isSql then none else some ⟨"_id", false⟩

structure Repository where
  names : ModelNames
  engine : Engine
  columns : List String
  key : Option RecordKey
deriving DecidableEq, Repr

namespace Repository

def ofModel (engine : Engine) (m : NamedModel) : Repository :=
  { names := m.names, engine, columns := m.model.fields.map (·.name),
    key := recordKey engine m.model }

def methods (r : Repository) : List String :=
  if r.key.isSome then ["findMany", "findById", "create", "update", "remove"]
  else ["findMany", "create"]

def function (name parameters result : String) (body : List String) : List Source.Item :=
  [.declare (.ofBlock false "async function" name
    ("(" ++ parameters ++ "): Promise<" ++ result ++ "> ") body ""), .gap]

def searchParameters : String := "req: Request, options: FindManyOptions = \x7b\x7d"

def inputParameter : String := "input: Record<string, unknown>"

/-- The line that gives a new row its key. -/
def fillKey (r : Repository) : List String :=
  match r.key with
  | some k =>
    if k.isGenerated then
      let cell := "row[" ++ Text.quote k.name ++ "]"
      ["if (" ++ cell ++ " === undefined) " ++ cell ++ " = randomUUID();"]
    else []
  | none => []

def limitLine : String :=
  "if (options.limit !== undefined) query = query.limit(options.limit);"

def tableSearch (r : Repository) : List Source.Item :=
  function "findMany" searchParameters (r.names.type ++ "[]")
    ["let query = db(TABLE).select(options.select?.length ? options.select : '*');",
     "query = applyFilters(query, options.filters ?? [], req);",
     "if (options.orderBy) query = query.orderBy(options.orderBy.field, options.orderBy.direction);",
     limitLine,
     "return (await query) as " ++ r.names.type ++ "[];"]

/-- How a table takes a new row. -/
def tableInsertion (r : Repository) : List String :=
  match r.engine, r.key with
  | .postgresql, _ =>
    ["const [created] = await db(TABLE).insert(row).returning('*');",
     "return created as " ++ r.names.type ++ ";"]
  | _, some k =>
    ["const [insertedId] = await db(TABLE).insert(row);",
     "const created = await findById(String(row[" ++ Text.quote k.name ++ "] ?? insertedId));",
     "return created ?? (row as unknown as " ++ r.names.type ++ ");"]
  | _, none =>
    ["await db(TABLE).insert(row);", "return row as unknown as " ++ r.names.type ++ ";"]

def tableLookup (r : Repository) (k : RecordKey) : List Source.Item :=
  function "findById" "id: string" (r.names.type ++ " | null")
    ["const row = await db(TABLE).where(" ++ Text.quote k.name ++ ", id).first();",
     "return (row as " ++ r.names.type ++ " | undefined) ?? null;"]

def tableChanges (r : Repository) (k : RecordKey) : List Source.Item :=
  let key := Text.quote k.name
  function "update" ("id: string, " ++ inputParameter) (r.names.type ++ " | null")
    (["const changes = pick(input);",
      "delete changes[" ++ key ++ "];"] ++
      block "if (Object.keys(changes).length > 0) "
        ["await db(TABLE).where(" ++ key ++ ", id).update(changes);"] "" ++
      ["return findById(id);"]) ++
  function "remove" "id: string" "boolean"
    ["const count = await db(TABLE).where(" ++ key ++ ", id).del();", "return count > 0;"]

def collectionSearch (r : Repository) : List Source.Item :=
  function "findMany" searchParameters (r.names.type ++ "[]")
    (["let query = " ++ r.names.collection ++ ".find(buildFilter(options.filters ?? [], req));",
      "if (options.select?.length) query = query.select(options.select.join(' '));"] ++
      block "if (options.orderBy) "
        ["query = query.sort(" ++
          inBraces ["[options.orderBy.field]: options.orderBy.direction === 'desc' ? -1 : 1"] ++
          ");"] "" ++
      [limitLine, "return (await query.lean()) as " ++ r.names.type ++ "[];"])

def idFilter (k : RecordKey) : String := inBraces ["[" ++ Text.quote k.name ++ "]: id"]

def collectionLookup (r : Repository) (k : RecordKey) : List Source.Item :=
  function "findById" "id: string" (r.names.type ++ " | null")
    ["return (await " ++ r.names.collection ++ ".findOne(" ++ idFilter k ++ ").lean()) as " ++
      r.names.type ++ " | null;"]

def collectionChanges (r : Repository) (k : RecordKey) : List Source.Item :=
  function "update" ("id: string, " ++ inputParameter) (r.names.type ++ " | null")
    ["const changes = pick(input);",
     "delete changes[" ++ Text.quote k.name ++ "];",
     "return (await " ++ r.names.collection ++ ".findOneAndUpdate(" ++ idFilter k ++ ", " ++
      inBraces ["$set: changes"] ++ ", " ++ inBraces ["new: true"] ++ ").lean()) as " ++
      r.names.type ++ " | null;"] ++
  function "remove" "id: string" "boolean"
    ["const result = await " ++ r.names.collection ++ ".deleteOne(" ++ idFilter k ++ ");",
     "return result.deletedCount > 0;"]

/-- The creation of a record, with the lines that store the row. -/
def creation (r : Repository) (storing : List String) : List Source.Item :=
  function "create" inputParameter r.names.type
    (["const row = pick(input);"] ++ r.fillKey ++ storing)

def functions (r : Repository) : List Source.Item :=
  if r.engine.isSql then
    r.tableSearch ++ r.key.toList.flatMap r.tableLookup ++ r.creation r.tableInsertion ++
      r.key.toList.flatMap r.tableChanges
  else
    r.collectionSearch ++ r.key.toList.flatMap r.collectionLookup ++
      r.creation
        ["const created = await " ++ r.names.collection ++ ".create(row);",
         "return created.toObject() as " ++ r.names.type ++ ";"] ++
      r.key.toList.flatMap r.collectionChanges

def imports (r : Repository) : List Source.Import :=
  (if r.key.any (·.isGenerated) then [Source.values ["randomUUID"] "node:crypto"] else []) ++
    [Source.types ["Request"] "express"] ++
    (if r.engine.isSql then
      [Source.values ["db"] "../db/client",
       ⟨.names [⟨"applyFilters", false⟩, ⟨"FindManyOptions", true⟩], "../db/filters"⟩]
    else
      [⟨.names [⟨"buildFilter", false⟩, ⟨"FindManyOptions", true⟩], "../db/filters"⟩,
       Source.values [r.names.collection] ("../models/" ++ r.names.stem ++ ".model")]) ++
    [Source.types [r.names.type] "../types/models"]

/-- The function that keeps the columns of an input. -/
def pick : Source.Declaration :=
  .ofBlock false "function" "pick" ("(" ++ inputParameter ++ "): Record<string, unknown> ")
    (["const row: Record<string, unknown> = \x7b\x7d;"] ++
      block "for (const column of COLUMNS) "
        ["if (input[column] !== undefined) row[column] = input[column];"] "" ++
      ["return row;"]) ""

def toModule (r : Repository) : Source.Module :=
  { comment := Source.generated
    imports := r.imports
    items :=
      .gap ::
      (if r.engine.isSql then
        [.declare { name := "TABLE", rest := " = " ++ Text.quote r.names.stem ++ ";" }]
      else []) ++
      [.declare
        { name := "COLUMNS", rest := " = " ++ inBrackets (r.columns.map Text.quote) ++ ";" },
       .gap, .declare pick, .gap] ++
      r.functions ++
      [.declare
        { exported := true, name := r.names.repository,
          rest := " = " ++ inBraces r.methods ++ ";" }] }

end Repository

end ApiGraph.Backend
