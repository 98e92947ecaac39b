import ApiGraph.Text.Quoted

/-!
# TypeScript modules

A module is its imports and its items; text comes last. So what a module imports, declares and
exports can be read off it (`Module.bindings`, `Module.exports`).
-/

namespace ApiGraph.Backend

/-- The text of lines, each with a line feed behind it. -/
def unlines (lines : List String) : String := String.join (lines.map (· ++ "\n"))

/-- Lines two blanks further in. -/
def indent (lines : List String) : List String := lines.map ("  " ++ ·)

/-- Lines between a head with an opening brace and a tail with the closing one. -/
def block (head : String) (body : List String) (tail : String) : List String :=
  (head ++ "\x7b") :: indent body ++ ["\x7d" ++ tail]

def inBraces (parts : List String) : String := "\x7b " ++ ", ".intercalate parts ++ " \x7d"

def inBrackets (parts : List String) : String := "[" ++ ", ".intercalate parts ++ "]"

namespace Source

structure ImportedName where
  name : String
  isType : Bool := false
deriving DecidableEq, Repr

inductive Clause where
  /-- Nothing; the module runs. -/
  | effect
  /-- The default export under a name. -/
  | default (name : String)
  /-- Exports by name. -/
  | names (names : List ImportedName)
  /-- Types by name. -/
  | types (names : List String)
deriving DecidableEq, Repr

structure Import where
  clause : Clause
  source : String
deriving DecidableEq, Repr

def Clause.bindings : Clause → List String
  | effect => []
  | default name => [name]
  | names l => l.map (·.name)
  | types l => l

def Clause.requested : Clause → List String
  | effect => []
  | default _ => ["default"]
  | names l => l.map (·.name)
  | types l => l

def ImportedName.write (n : ImportedName) : String := if n.isType then "type " ++ n.name else n.name

def Import.write (i : Import) : String :=
  let source := Text.quote i.source ++ ";"
  match i.clause with
  | .effect => "import " ++ source
  | .default name => "import " ++ name ++ " from " ++ source
  | .names l => "import " ++ inBraces (l.map (·.write)) ++ " from " ++ source
  | .types l => "import type " ++ inBraces l ++ " from " ++ source

def values (names : List String) (source : String) : Import :=
  ⟨.names (names.map (⟨·, false⟩)), source⟩

def types (names : List String) (source : String) : Import := ⟨.types names, source⟩

def defaultOf (name source : String) : Import := ⟨.default name, source⟩

/-- A declaration: its name stands between a keyword and the rest of its lines. -/
structure Declaration where
  exported : Bool := false
  keyword : String := "const"
  name : String
  /-- The rest of the first line. -/
  rest : String
  more : List String := []
deriving DecidableEq, Repr

def Declaration.lines (d : Declaration) : List String :=
  ((if d.exported then "export " else "") ++ d.keyword ++ " " ++ d.name ++ d.rest) :: d.more

def Declaration.ofBlock (exported : Bool) (keyword name rest : String) (body : List String)
    (tail : String) : Declaration :=
  { exported, keyword, name, rest := rest ++ "\x7b", more := indent body ++ ["\x7d" ++ tail] }

/-- A part of a module at its top level. -/
inductive Item where
  /-- An empty line. -/
  | gap
  /-- A declaration. -/
  | declare (d : Declaration)
  /-- Lines that declare nothing. -/
  | code (lines : List String)
  /-- A name as the default export. -/
  | exportDefault (name : String)
deriving DecidableEq, Repr

def Item.lines : Item → List String
  | gap => [""]
  | declare d => d.lines
  | code lines => lines
  | exportDefault name => ["export default " ++ name ++ ";"]

def Item.declared? : Item → Option String
  | declare d => some d.name
  | _ => none

def Item.export? : Item → Option String
  | declare d => if d.exported then some d.name else none
  | exportDefault _ => some "default"
  | _ => none

/-- A module: a comment, its imports and its items. -/
structure Module where
  comment : List String
  imports : List Import
  items : List Item
deriving DecidableEq, Repr

def generated : List String :=
  ["// Generated by Routify. Changes will be overwritten on the next export."]

def Module.lines (m : Module) : List String :=
  m.comment ++ m.imports.map (·.write) ++ m.items.flatMap (·.lines)

/-- The names that a module binds at its top level. -/
def Module.bindings (m : Module) : List String :=
  m.imports.flatMap (·.clause.bindings) ++ m.items.filterMap (·.declared?)

def Module.exports (m : Module) : List String := m.items.filterMap (·.export?)

end Source

inductive Content where
  | text (s : String)
  | source (m : Source.Module)
deriving DecidableEq, Repr

/-- A file of the generated project: the names on its path, and what it holds. -/
structure File where
  path : List String
  content : Content
deriving DecidableEq, Repr

def File.name (f : File) : String := "/".intercalate f.path

def File.text (f : File) : String :=
  match f.content with
  | .text s => s
  | .source m => unlines m.lines

def File.ofText (path : List String) (s : String) : File := ⟨path, .text s⟩

def File.ofModule (path : List String) (m : Source.Module) : File := ⟨path, .source m⟩

end ApiGraph.Backend
