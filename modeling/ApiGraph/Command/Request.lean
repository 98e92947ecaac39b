import ApiGraph.Build
import ApiGraph.Command.Options
import ApiGraph.Number.Digits

/-!
# Requests

What a command line asks for. A path that is not given comes from the environment, or is the usual
one.
-/

namespace ApiGraph.Command

inductive Request where
  | version
  | init (path : String) (name : Option String) (empty force : Bool)
  | check (project : String) (strict : Bool)
  | spec (project : String) (output : Option String)
  | generate (project : String) (output : String) (overrides : Overrides)
deriving DecidableEq, Repr

abbrev Environment := List (String × String)

def pathValue (s : String) : Option String := if s.isEmpty then none else some s

/-- A path that may be left out. -/
def pathOption : Option String → Option (Option String)
  | none => some none
  | some s => (pathValue s).map some

/-- A port: a number of 16 bits behind an optional sign. -/
def portValue (s : String) : Option Nat :=
  let (negative, digits) := Digits.splitSign s.toList
  let n := Digits.value digits
  if !Digits.isNumeral digits then none
  else if n < Nat.pow 2 16 && (!negative || n == 0) then some n else none

/-- A value that may be left out. -/
def valueOption {α : Type} (read : String → Option α) : Option String → Option (Option α)
  | none => some none
  | some s => (read s).map some

/-- The operand of a command that takes at most one. -/
def soleOperand (w : Words) : Option (Option String) :=
  match w.operands with
  | [] => some none
  | [s] => some (some s)
  | _ => none

/-- A path that was given, else that of a variable, else the usual one. -/
def pathOr (given : Option String) (env : Environment) (variableName usual : String) :
    Option String :=
  match given with
  | some s => pathValue s
  | none =>
    match env.lookup variableName with
    | some s => pathValue s
    | none => some usual

def verbose : OptionSpec := { name := "verbose", letter := some 'v', repeatable := true }

def versionOption : OptionSpec := { name := "version", letter := some 'V', kind := .final }

/-- An option with a value and the first letter of its name. -/
def valued (name : String) : OptionSpec := { name, letter := name.toList.head?, kind := .value }

def usualProject : String := "routify.json"

/-- The words of a command with options, each given as often as it may be. -/
def wordsOf (specs : List OptionSpec) (words : List String) : Option Words :=
  (readWords (verbose :: specs) words).filter (·.countsOk)

def projectOf (w : Words) (env : Environment) : Option String := do
  pathOr (← soleOperand w) env "ROUTIFY_PROJECT" usualProject

def readInit (words : List String) : Option Request := do
  let w ← wordsOf [valued "name", { name := "empty" }, { name := "force" }] words
  let path ← pathOr (← soleOperand w) [] "" usualProject
  return .init path (w.value? "name") (w.has "empty") (w.has "force")

def readCheck (env : Environment) (words : List String) : Option Request := do
  let w ← wordsOf [{ name := "strict" }] words
  return .check (← projectOf w env) (w.has "strict")

def readSpec (env : Environment) (words : List String) : Option Request := do
  let w ← wordsOf [valued "output"] words
  return .spec (← projectOf w env) (← pathOption (w.value? "output"))

def readGenerate (env : Environment) (words : List String) : Option Request := do
  let w ← wordsOf [valued "output", valued "engine", valued "port"] words
  let output ← pathOr (w.value? "output") env "ROUTIFY_OUTPUT" "generated"
  let engine ← valueOption (fun s => (Engine.ofName s).toOption) (w.value? "engine")
  let port ← valueOption portValue (w.value? "port")
  return .generate (← projectOf w env) output { engine, port }

/-- The request of a command line; a command follows the options that all commands have. -/
def Request.ofWords (env : Environment) : List String → Option Request
  | [] => none
  | word :: rest =>
    match readWord [verbose, versionOption] word with
    | .operand =>
      match word with
      | "init" => readInit rest
      | "check" => readCheck env rest
      | "spec" => readSpec env rest
      | "generate" => readGenerate env rest
      | _ => none
    | .options given _ =>
      if given.any (·.spec == versionOption) then some .version else Request.ofWords env rest
    | .unknown => none

end ApiGraph.Command
