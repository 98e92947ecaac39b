import ApiGraph.Compiler
import ApiGraph.Disk.Archive
import ApiGraph.Disk.Storage
import ApiGraph.Project.Import

/-!
# Builds

Projects on disk: loading and saving them, and writing what they compile to, as a folder or as an
archive.
-/

namespace ApiGraph

inductive BuildError where
  | file (path : String) (e : FileError)
  | importing (e : ImportError)
deriving DecidableEq, Repr

namespace BuildError

def message : BuildError → String
  | file path e => s!"I/O error on '{path}': {e.message}"
  | importing e => e.message

def code : BuildError → String
  | file .. => "routify::io::failed"
  | importing e => e.code

def help : BuildError → Option String
  | file .. => none
  | importing e => some e.help

end BuildError

inductive Destination where
  | folder (path : String)
  | archive (path : String)
deriving DecidableEq, Repr

/-- The destination of a path: an archive if its extension is `zip`, else a folder. -/
def Destination.ofPath (path : String) : Destination :=
  if (Location.extension? path).map Text.asciiLower = some "zip" then archive path else folder path

structure BuildReport where
  routes : Nat
  models : Nat
  files : Nat
  warnings : List Warning
deriving DecidableEq, Repr

section

variable {m : Type → Type} [Monad m] [Storage m]

abbrev Work (m : Type → Type) := ExceptT BuildError m

/-- An operation on a path, with the path in its error. -/
def onFile {α : Type} (path : String) (operation : ExceptT FileError m α) : Work m α :=
  ExceptT.adapt (.file path) operation

def makeParent (path : String) : Work m Unit :=
  match (Location.parent? path).filter (· ≠ "") with
  | some folder => onFile folder (Storage.makeFolders folder)
  | none => return ()

def Project.load (path : String) : Work m (Option Project) := do
  unless ← ExceptT.lift (Storage.isPresent path) do return none
  let source ← onFile path (Storage.readText path)
  match Project.import? source with
  | .ok p => return some p
  | .error e => throw (.importing e)

def Project.save (p : Project) (path : String) : Work m Unit := do
  makeParent path
  onFile path (Storage.writeText path (p.exported ++ "\n"))

def writeBelow (folder : String) (f : Backend.File) : Work m Unit := do
  let path := Location.join folder f.name
  match Location.parent? path with
  | some around => onFile around (Storage.makeFolders around)
  | none => pure ()
  onFile path (Storage.writeText path f.text)

/-- The archive of files below a root. -/
def archiveOf (root : String) (files : List Backend.File) : Bytes :=
  Archive.encode (files.map fun f =>
    { name := root ++ "/" ++ f.name, data := Storage.textBytes f.text })

def Destination.write (root : String) (files : List Backend.File) : Destination → Work m Unit
  | folder path => do
    onFile path (Storage.makeFolders path)
    files.forM (writeBelow path)
  | archive path => do
    makeParent path
    onFile path (ExceptT.mk (Storage.write path (archiveOf root files)))

def Project.build (p : Project) (o : Overrides) (destination : Destination) :
    Work m BuildReport := do
  let c := p.compileWith o
  destination.write (Backend.Package.nameOf p.name) c.files
  return { routes := c.routes.length, models := p.emittedModels.length, files := c.files.length,
           warnings := c.warnings }

end

end ApiGraph
