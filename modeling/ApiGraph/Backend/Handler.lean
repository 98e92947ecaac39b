import ApiGraph.Backend.Repository
import ApiGraph.Route
import ApiGraph.Warning

/-!
# Handlers

What a route does once a request has passed its middleware: one call of the model's repository, or
the answer that nothing is implemented where the route has no data access that can be carried out.
-/

namespace ApiGraph.Backend

structure SearchOptions where
  filters : List Filter := []
  select : List String := []
  orderBy : Option OrderBy := none
  limit : Option Nat := none
deriving DecidableEq, Repr

/-- A call of a repository. A record is addressed by a path parameter. -/
inductive Action where
  | list (options : SearchOptions)
  | create
  | read (param : String)
  | update (param : String)
  | delete (param : String)
deriving DecidableEq, Repr

namespace Action

def method : Action → String
  | list _ => "findMany"
  | create => "create"
  | read _ => "findById"
  | update _ => "update"
  | delete _ => "remove"

/-- The path parameter that addresses the record. -/
def param? : Action → Option String
  | read p | update p | delete p => some p
  | _ => none

end Action

inductive Handler where
  | stub
  /-- An action on the repository of a model, and the status of success. -/
  | run (names : ModelNames) (model : String) (action : Action) (status : Nat)
deriving DecidableEq, Repr

namespace Handler

/-- The options of a search that a model can answer: what names another field is left out. -/
def searchOptions (m : Model) (q : Query) : SearchOptions :=
  { filters := q.filters.filter fun f => m.hasField f.field
    select := q.select.filter m.hasField
    orderBy := q.orderBy.filter fun o => m.hasField o.field
    limit := q.limit }

/-- The parameter that addresses a record: `id`, else the last one. -/
def recordParam (r : Route) : Option String :=
  let names := r.pathParams.map (·.param.name)
  names.find? (· == "id") <|> names.getLast?

/-- The parameter that addresses a record, where the model has a key to look it up. -/
def addressed (engine : Engine) (m : Model) (r : Route) : Option String :=
  if (recordKey engine m).isSome then recordParam r else none

def action? (engine : Engine) (m : Model) (r : Route) (q : Query) : Option Action :=
  match q.operation with
  | .list => some (.list (searchOptions m q))
  | .create => some .create
  | .read => (addressed engine m r).map .read
  | .update => (addressed engine m r).map .update
  | .delete => (addressed engine m r).map .delete

/-- The data access of a route that names a model. -/
def namedQuery? (r : Route) : Option Query := r.query.filter fun q => !Text.isBlank q.model

def plan (engine : Engine) (models : List NamedModel) (r : Route) : Handler :=
  match namedQuery? r with
  | none => stub
  | some q =>
    match models.find? (·.model.name == q.model) with
    | none => stub
    | some m =>
      match action? engine m.model r q with
      | none => stub
      | some action => run m.names m.model.name action r.successStatus

/-- The fields of a search that a model lacks, with their use. -/
def unknownFields (m : Model) (q : Query) : List (String × FieldUse) :=
  let named := q.filters.map (fun f => (f.field, FieldUse.filter)) ++
    q.select.map (fun field => (field, FieldUse.select)) ++
    q.orderBy.toList.map (fun o => (o.field, FieldUse.orderBy))
  named.filter fun f => !m.hasField f.1

/-- What the plan of a route leaves out, after some warnings. A model that is missing is reported
once for each node. -/
def warnings (models : List NamedModel) (noted : List Warning) (r : Route) : List Warning :=
  match namedQuery? r with
  | none => []
  | some q =>
    match models.find? (·.model.name == q.model) with
    | none => [.unknownModel r.node q.model].filter (· ∉ noted)
    | some m =>
      if q.operation = .list then
        (unknownFields m.model q).map fun f => .unknownField r.node m.model.name f.1 f.2
      else []

def report (models : List NamedModel) (noted : List Warning) (r : Route) : List Warning :=
  noted ++ warnings models noted r

def paramAccess (name : String) : String :=
  if Text.isPlainIdent name.toList then "req.params." ++ name
  else "req.params[" ++ Text.quote name ++ "]"

def writeFilter (f : Filter) : String :=
  inBraces
    ["field: " ++ Text.quote f.field, "operator: " ++ Text.quote f.comparison.name,
     "value: " ++ Text.quote f.value, "source: " ++ Text.quote f.source.name]

def optionParts (o : SearchOptions) : List String :=
  (if o.filters.isEmpty then [] else ["filters: " ++ inBrackets (o.filters.map writeFilter)]) ++
    (if o.select.isEmpty then [] else ["select: " ++ inBrackets (o.select.map Text.quote)]) ++
    (o.orderBy.map fun order => "orderBy: " ++ inBraces
      ["field: " ++ Text.quote order.field,
       "direction: " ++ Text.quote order.direction.name]).toList ++
    (o.limit.map fun n => s!"limit: {n}").toList

def respond (status : Nat) (value : String) : String :=
  if status = 204 then "res.status(204).end();"
  else s!"res.status({status}).json({value});"

/-- A call whose result is bound to a name. -/
def callAs (result : String) (names : ModelNames) (action : Action) (arguments : String) : String :=
  "const " ++ result ++ " = await " ++ names.repository ++ "." ++ action.method ++ "(" ++ arguments

def refuse (result model : String) : String :=
  "if (!" ++ result ++ ") throw new HttpError(404, " ++ Text.quote (model ++ " not found") ++ ");"

def requestBody : String := "req.body ?? \x7b\x7d"

def actionLines (names : ModelNames) (model : String) (status : Nat) (action : Action) :
    List String :=
  match action with
  | .list options =>
    let parts := optionParts options
    (if parts.isEmpty then [callAs "items" names action "req);"]
      else block (callAs "items" names action "req, ") (parts.map (· ++ ",")) ");") ++
      [respond status "items"]
  | .create =>
    [callAs "created" names action (requestBody ++ ");"), respond status "created"]
  | .read param =>
    [callAs "item" names action (paramAccess param ++ ");"), refuse "item" model,
     respond status "item"]
  | .update param =>
    [callAs "updated" names action (paramAccess param ++ ", " ++ requestBody ++ ");"),
     refuse "updated" model, respond status "updated"]
  | .delete param =>
    [callAs "removed" names action (paramAccess param ++ ");"), refuse "removed" model,
     respond status (inBraces ["deleted: true"])]

def lines (r : Route) : Handler → List String
  | stub =>
    block "(_req, res) => "
      ["res.status(501).json(" ++ inBraces
        ["error: 'Not Implemented'",
         "operation: " ++ Text.quote (r.method.name ++ " " ++ r.path)] ++
        ");"] ","
  | run names model action status =>
    block "async (req, res, next) => "
      (["try \x7b"] ++ indent (actionLines names model status action) ++
        ["\x7d catch (err) \x7b"] ++ indent ["next(err);"] ++ ["\x7d"]) ","

/-- Whether a handler refuses requests for records that do not exist. -/
def refuses : Handler → Bool
  | stub => false
  | run _ _ action _ => action.param?.isSome

/-- The names that a handler needs beside its request. -/
def uses : Handler → List String
  | stub => []
  | run names _ action _ =>
    names.repository :: (if action.param?.isSome then ["HttpError"] else [])

end Handler

end ApiGraph.Backend
