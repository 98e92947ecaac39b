import ApiGraph.Disk.Basic

/-!
# Archives

Zip archives with deflated entries. Data is kept in stored blocks, which every inflater reads.
`listing` reads the directory of an archive back.
-/

namespace ApiGraph.Archive

structure Member where
  name : String
  data : Bytes
deriving DecidableEq, Repr

def littleEndian : Nat → Nat → Bytes
  | 0, _ => []
  | width + 1, n => UInt8.ofNat (n % 256) :: littleEndian width (n / 256)

/-- The number that bytes spell, the lowest first. -/
def number : Bytes → Nat
  | [] => 0
  | b :: bs => b.toNat + 256 * number bs

/-- One bit of a cyclic redundancy check. -/
def checkBit (c : UInt32) : UInt32 :=
  if c &&& 1 = 1 then (c >>> 1) ^^^ 0xEDB88320 else c >>> 1

/-- One byte of a cyclic redundancy check. -/
def checkByte (c : UInt32) (b : UInt8) : UInt32 :=
  Nat.repeat checkBit 8 (c ^^^ b.toUInt32)

/-- The cyclic redundancy check of 32 bits. -/
def checksum (data : Bytes) : UInt32 := data.foldl checkByte 0xFFFFFFFF ^^^ 0xFFFFFFFF

def maxBlock : Nat := 65535

def storedBlock (isLast : Bool) (data : Bytes) : Bytes :=
  (if isLast then 1 else 0) ::
    (littleEndian 2 data.length ++ littleEndian 2 (maxBlock - data.length) ++ data)

def deflate (data : Bytes) : Bytes :=
  if data.length ≤ maxBlock then storedBlock true data
  else storedBlock false (data.take maxBlock) ++ deflate (data.drop maxBlock)
termination_by data.length
decreasing_by
  simp only [List.length_drop]
  have : 0 < maxBlock := by decide
  omega

def deflated : Nat := 8

/-- The first of January 1980, in the form of an archive. -/
def firstDay : Nat := 0x21

/-- The fields that both headers of a member share. -/
def sharedFields (m : Member) (packed : Bytes) : Bytes :=
  littleEndian 2 20 ++ littleEndian 2 0x800 ++ littleEndian 2 deflated ++ littleEndian 2 0 ++
    littleEndian 2 firstDay ++ littleEndian 4 (checksum m.data).toNat ++
    littleEndian 4 packed.length ++ littleEndian 4 m.data.length ++
    littleEndian 2 m.name.utf8ByteSize ++ littleEndian 2 0

def localRecord (m : Member) : Bytes :=
  let packed := deflate m.data
  littleEndian 4 0x04034b50 ++ sharedFields m packed ++ m.name.toUTF8.toList ++ packed

/-- The directory entry of a member that begins at an offset. -/
def directoryRecord (m : Member) (offset : Nat) : Bytes :=
  littleEndian 4 0x02014b50 ++ littleEndian 2 0x314 ++ sharedFields m (deflate m.data) ++
    littleEndian 6 0 ++ littleEndian 4 0x81A40000 ++ littleEndian 4 offset ++
    m.name.toUTF8.toList

/-- The local records from an offset on, and the directory. -/
def records (offset : Nat) : List Member → Bytes × Bytes
  | [] => ([], [])
  | m :: ms =>
    let record := localRecord m
    let (rest, directory) := records (offset + record.length) ms
    (record ++ rest, directoryRecord m offset ++ directory)

def encode (members : List Member) : Bytes :=
  let (data, directory) := records 0 members
  data ++ directory ++ littleEndian 4 0x06054b50 ++ littleEndian 4 0 ++
    littleEndian 2 members.length ++ littleEndian 2 members.length ++
    littleEndian 4 directory.length ++ littleEndian 4 data.length ++ littleEndian 2 0

/-- What the directory of an archive says about a member. -/
structure Listed where
  name : String
  method : Nat
  size : Nat
deriving DecidableEq, Repr

def numberAt (bytes : Bytes) (offset width : Nat) : Nat := number ((bytes.drop offset).take width)

def readDirectory : Nat → Bytes → Option (List Listed)
  | 0, _ => some []
  | count + 1, bytes => do
    guard (numberAt bytes 0 4 = 0x02014b50)
    let nameLength := numberAt bytes 28 2
    let name ← String.fromUTF8? ⟨((bytes.drop 46).take nameLength).toArray⟩
    let rest := bytes.drop (46 + nameLength + numberAt bytes 30 2 + numberAt bytes 32 2)
    let entries ← readDirectory count rest
    return { name, method := numberAt bytes 10 2, size := numberAt bytes 24 4 } :: entries

/-- The members that the directory of an archive lists. -/
def listing (bytes : Bytes) : Option (List Listed) := do
  let tail := bytes.drop (bytes.length - 22)
  guard (numberAt tail 0 4 = 0x06054b50)
  readDirectory (numberAt tail 10 2) (bytes.drop (numberAt tail 16 4))

end ApiGraph.Archive
