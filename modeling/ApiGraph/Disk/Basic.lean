import ApiGraph.Disk.Location

/-!
# Disks

A disk in memory: the folders and files below its root, each under the list of the names that lead
to it. Operations fail for the reasons, and in the order, of a file system.
-/

namespace ApiGraph

abbrev Bytes := List UInt8

inductive FileError where
  | notFound
  | alreadyExists
  | notAFolder
  | isAFolder
  | nameTooLong
  | zeroInName
  | notText
  /-- Any other reason, in the words of the system. -/
  | other (message : String)
deriving DecidableEq, Repr

def FileError.message : FileError → String
  | notFound => "No such file or directory (os error 2)"
  | alreadyExists => "File exists (os error 17)"
  | notAFolder => "Not a directory (os error 20)"
  | isAFolder => "Is a directory (os error 21)"
  | nameTooLong => "File name too long (os error 36)"
  | zeroInName => "file name contained an unexpected NUL byte"
  | notText => "stream did not contain valid UTF-8"
  | other message => message

inductive DiskEntry where
  | folder
  | file (content : Bytes)
deriving DecidableEq, Repr

structure Disk where
  entries : List (List String × DiskEntry) := []
deriving DecidableEq, Repr

namespace Disk

/-- The entry at a place; the root is a folder. -/
def entry? (d : Disk) (place : List String) : Option DiskEntry :=
  if place.isEmpty then some .folder else d.entries.lookup place

def hasFolder (d : Disk) (place : List String) : Bool := d.entry? place == some .folder

def put (d : Disk) (place : List String) (e : DiskEntry) : Disk :=
  { entries := d.entries.filter (·.1 ≠ place) ++ [(place, e)] }

def maxName : Nat := 255

/-- The place below a folder that names lead to; all of them must exist. -/
def follow (d : Disk) (place : List String) : List String → Except FileError (List String)
  | [] => .ok place
  | name :: rest =>
    if !d.hasFolder place then .error .notAFolder
    else if name = "." then d.follow place rest
    else if name = ".." then d.follow place.dropLast rest
    else if maxName < name.utf8ByteSize then .error .nameTooLong
    else if (d.entry? (place ++ [name])).isNone then .error .notFound
    else d.follow (place ++ [name]) rest

def maxPath : Nat := 4095

def checkPath (path : String) : Except FileError Unit :=
  if path.toList.contains '\x00' then .error .zeroInName
  else if path.isEmpty then .error .notFound
  else if maxPath < path.utf8ByteSize then .error .nameTooLong
  else .ok ()

def locate (d : Disk) (path : String) : Except FileError (List String) := do
  checkPath path
  let place ← d.follow [] (Location.names path)
  if Location.endsInSlash path && !d.hasFolder place then .error .notAFolder else .ok place

/-- The folder around a path, and the last name. -/
def locateNew (d : Disk) (path : String) : Except FileError (List String × String) := do
  checkPath path
  let names := Location.names path
  let folder ← d.follow [] names.dropLast
  if d.hasFolder folder then .ok (folder, names.getLast?.getD ".") else .error .notAFolder

def isPresent (d : Disk) (path : String) : Bool := (d.locate path).isOk

def isFolder (d : Disk) (path : String) : Bool :=
  match d.locate path with
  | .ok place => d.hasFolder place
  | .error _ => false

def read (d : Disk) (path : String) : Except FileError Bytes := do
  match d.entry? (← d.locate path) with
  | some (.file content) => .ok content
  | _ => .error .isAFolder

/-- The disk with a new folder at a path. -/
def makeFolder (d : Disk) (path : String) : Except FileError Disk := do
  let (folder, name) ← d.locateNew path
  if name = "." || name = ".." then .error .alreadyExists
  else if maxName < name.utf8ByteSize then .error .nameTooLong
  else if (d.entry? (folder ++ [name])).isSome then .error .alreadyExists
  else .ok (d.put (folder ++ [name]) .folder)

def write (d : Disk) (path : String) (content : Bytes) : Except FileError Disk := do
  let (folder, name) ← d.locateNew path
  if name = "." || name = ".." || Location.endsInSlash path then .error .isAFolder
  else if maxName < name.utf8ByteSize then .error .nameTooLong
  else if d.hasFolder (folder ++ [name]) then .error .isAFolder
  else .ok (d.put (folder ++ [name]) (.file content))

/-- Whether a list of names comes before another one, name by name. -/
def before : List String → List String → Bool
  | [], _ => true
  | _ :: _, [] => false
  | a :: as, b :: bs => if a = b then before as bs else decide (a < b)

/-- The paths of all entries, each folder before what is below it. -/
def list (d : Disk) : List String :=
  (d.entries.mergeSort fun a b => before a.1 b.1).map fun e =>
    "/".intercalate e.1 ++ (if e.2 = .folder then "/" else "")

end Disk

end ApiGraph
