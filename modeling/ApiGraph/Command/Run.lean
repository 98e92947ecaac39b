import ApiGraph.Command.Request
import ApiGraph.Command.Screen
import ApiGraph.Project.Demo

/-!
# Commands

What each request does to the files, what it prints and how it ends. What was printed before a
failure stays printed.
-/

namespace ApiGraph.Command

inductive Failure where
  | usage
  | build (e : BuildError)
  | noProject (path : String)
  | alreadyExists (path : String)
  | cannotWrite (path : String) (e : FileError)
  | strict (warnings : Nat)
deriving DecidableEq, Repr

namespace Failure

def exitCode : Failure → Nat
  | usage => 2
  | _ => 1

def message : Failure → String
  | usage => "Usage: routify [OPTIONS] <COMMAND>"
  | build e => e.message
  | noProject path => "Project file not found: " ++ path
  | alreadyExists path => path ++ " already exists"
  | cannotWrite path e => s!"Failed to write {path}: {e.message}"
  | strict n => counted n "warning" ++ " raised in strict mode"

def help : Failure → Option String
  | build e => e.help
  | noProject _ => some "Run `routify init` to create one, or pass the path to an exported project"
  | alreadyExists _ => some "Pass --force to overwrite it"
  | _ => none

end Failure

/-- What a command printed, the warnings it reports and how it ended. -/
structure Outcome where
  output : String := ""
  warnings : List Warning := []
  failure : Option Failure := none
deriving DecidableEq, Repr

def Outcome.exitCode (o : Outcome) : Nat := (o.failure.map Failure.exitCode).getD 0

def printed (lines : List String) (warnings : List Warning) (failure : Option Failure) : Outcome :=
  { output := Backend.unlines lines, warnings, failure }

variable {m : Type → Type} [Monad m] [Storage m]

abbrev Run (m : Type → Type) := ExceptT Failure m

def work {α : Type} (w : Work m α) : Run m α := ExceptT.adapt .build w

def loadProject (path : String) : Run m Project := do
  match ← work (Project.load path) with
  | some p => return p
  | none => throw (.noProject path)

def runInit (path : String) (name : Option String) (empty force : Bool) : Run m Outcome := do
  if (← ExceptT.lift (Storage.isPresent path)) && !force then throw (.alreadyExists path)
  let plain : Project := if empty then { name := "Untitled Project" } else .demo
  let p := { plain with name := name.getD plain.name }
  work (p.save path)
  let summary := dotted
    [counted p.endpoints.length "endpoint", counted p.models.length "model", p.settings.engine.name]
  return printed
    ([successLine ("Created " ++ path), "", infoLine summary] ++ divider ++
      ["  Now do this:", "", "    routify generate " ++ path, ""]) [] none

def runCheck (path : String) (strict : Bool) : Run m Outcome := do
  let p ← loadProject path
  let c := p.compile
  let lines :=
    [noticeLine ("routify " ++ versionNumber), "", infoLine ("Routes in " ++ p.name), ""] ++
      c.routes.map routeLine ++ [""]
  if c.warnings.isEmpty then
    let summary := dotted [counted c.routes.length "route", counted p.models.length "model"]
    return printed (lines ++ [successLine "Looking good.", "    " ++ summary]) [] none
  else
    return printed (lines ++ headsUp c.warnings.length) c.warnings
      (if strict then some (.strict c.warnings.length) else none)

/-- Prints the document of a project, or writes it to a file. -/
def runSpec (path : String) (output : Option String) : Run m Outcome := do
  let c := (← loadProject path).compile
  match output with
  | none => return { output := c.document.write }
  | some file =>
    ExceptT.adapt (.cannotWrite file) (Storage.writeText file c.document.write)
    let operations := counted c.document.operationCount "operation"
    return printed [successLine ("Wrote " ++ file ++ " (" ++ operations ++ ")")] [] none

/-- Generates the backend of a project; `elapsed` gives the milliseconds that it took. -/
def runGenerate (elapsed : m String) (path output : String) (o : Overrides) : Run m Outcome := do
  let p ← loadProject path
  let destination := Destination.ofPath output
  let report ← work (p.build o destination)
  let ms ← ExceptT.lift elapsed
  let summary := dotted
    [counted report.routes "route", counted report.models "model", counted report.files "file"]
  let notice := if report.warnings.isEmpty then [] else headsUp report.warnings.length
  return printed
    ([successLine summary, infoLine ("Done in " ++ ms ++ "ms")] ++ notice ++
      nextSteps destination (o.port.getD p.settings.port)) report.warnings none

def run (elapsed : m String) : Request → Run m Outcome
  | .version => return printed ["routify " ++ versionNumber] [] none
  | .init path name empty force => runInit path name empty force
  | .check path strict => runCheck path strict
  | .spec path output => runSpec path output
  | .generate path output o => runGenerate elapsed path output o

def runWords (elapsed : m String) (env : Environment) (words : List String) : m Outcome := do
  match Request.ofWords env words with
  | none => return { failure := some .usage }
  | some request =>
    match ← (run elapsed request).run with
    | .ok outcome => return outcome
    | .error failure => return { failure := some failure }

end ApiGraph.Command
