import ApiGraph.Disk.Basic

/-!
# Storage

Files as commands see them. The same commands run on a disk in memory (`StateM Disk`) and on
a machine.
-/

namespace ApiGraph

/-- The operations on files that commands are made of. -/
class Storage (m : Type → Type) where
  isPresent : String → m Bool
  isFolder : String → m Bool
  read : String → m (Except FileError Bytes)
  write : String → Bytes → m (Except FileError Unit)
  makeFolder : String → m (Except FileError Unit)

namespace Disk

def attempt (operation : Disk → Except FileError Disk) : StateM Disk (Except FileError Unit) :=
  fun d =>
    match operation d with
    | .ok d' => (.ok (), d')
    | .error e => (.error e, d)

instance : Storage (StateM Disk) where
  isPresent path d := (d.isPresent path, d)
  isFolder path d := (d.isFolder path, d)
  read path d := (d.read path, d)
  write path content := attempt (·.write path content)
  makeFolder path := attempt (·.makeFolder path)

end Disk

namespace Storage

variable {m : Type → Type} [Monad m] [Storage m]

def textBytes (s : String) : Bytes := s.toUTF8.toList

def bytesText (bytes : Bytes) : Except FileError String :=
  match String.fromUTF8? ⟨bytes.toArray⟩ with
  | some s => .ok s
  | none => .error .notText

def readText (path : String) : ExceptT FileError m String := do
  bytesText (← ExceptT.mk (read path))

def writeText (path : String) (s : String) : ExceptT FileError m Unit :=
  ExceptT.mk (write path (textBytes s))

/-- Makes a folder, unless it is there or a folder around it is missing; whether it is there now. -/
def tryFolder (path : String) : ExceptT FileError m Bool := do
  match ← ExceptT.lift (makeFolder path) with
  | .ok () => return true
  | .error .notFound => return false
  | .error e => if ← ExceptT.lift (isFolder path) then return true else throw e

/-- The folders around a path, from the inside, with the path itself first. -/
def surrounding : Nat → String → List String
  | 0, _ => []
  | n + 1, path =>
    if path.isEmpty then []
    else path :: (match Location.parent? path with
      | some folder => surrounding n folder
      | none => [])

/-- Makes the folders of a list that is given from the inside; the outer ones only if needed. -/
def makeChain : List String → ExceptT FileError m Unit
  | [] => return ()
  | path :: outer => do
    if ← tryFolder path then return ()
    makeChain outer
    unless ← tryFolder path do throw .notFound

/-- Makes a folder and those around it. -/
def makeFolders (path : String) : ExceptT FileError m Unit :=
  makeChain (surrounding (path.length + 1) path)

end Storage

end ApiGraph
