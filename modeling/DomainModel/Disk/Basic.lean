import DomainModel.Disk.Fault
import DomainModel.Disk.Path

/-! A disk: what is found at each place, and the operations on files and directories. An operation
that fails leaves the files as they were; only of a text that is added the first bytes may have come
to the file. -/

namespace DomainModel

/-- A place on a disk: the names on the way from the root. -/
abbrev Place := List String

/-- What a file holds. -/
inductive Content where
  | text (text : String)
  /-- Bytes that are no UTF-8 text. -/
  | bytes (bytes : List Nat)
  deriving DecidableEq, Repr

namespace Content

/-- A text after what a file held. Bytes that are no text stay none. -/
def append (content : Content) (text : String) : Content :=
  match content with
  | .text before => .text (before ++ text)
  | .bytes before => .bytes (before ++ text.toUTF8.toList.map (·.toNat))

/-- Bytes as the content of a file: a text, if they are UTF-8. -/
def ofBytes (bytes : List UInt8) : Content :=
  match String.fromUTF8? ⟨bytes.toArray⟩ with
  | some decoded => .text decoded
  | none => .bytes (bytes.map (·.toNat))

/-- The first bytes of a text after what a file held. -/
def appendPart (content : Content) (text : String) (count : Nat) : Content :=
  let added := text.toUTF8.toList.take count
  match content with
  | .text before => .ofBytes (before.toUTF8.toList ++ added)
  | .bytes before => .bytes (before ++ added.map (·.toNat))

end Content

/-- What is found at a place. -/
inductive Entry where
  | directory
  | file (content : Content)
  deriving DecidableEq, Repr

/-- The entries of a disk, and the place that relative paths start from. The root needs no entry. -/
structure Disk where
  entries : List (Place × Entry) := []
  here : Place := []
  deriving DecidableEq, Repr

namespace Disk

/-- What is found at a place, if anything. -/
def entry? (disk : Disk) (place : Place) : Option Entry :=
  if place.isEmpty then some .directory else disk.entries.lookup place

/-- Sets the first entry of a list for a place, or adds one at the end. -/
def putEntry (place : Place) (entry : Entry) : List (Place × Entry) → List (Place × Entry)
  | [] => [(place, entry)]
  | (p, e) :: rest => if p == place then (place, entry) :: rest else (p, e) :: putEntry place entry rest

/-- Puts an entry at a place. -/
def put (disk : Disk) (place : Place) (entry : Entry) : Disk :=
  { disk with entries := putEntry place entry disk.entries }

/-- Takes away what is at a place. -/
def erase (disk : Disk) (place : Place) : Disk :=
  { disk with entries := disk.entries.filter (·.1 != place) }

/-- A name may have this many bytes. -/
def maxNameLength : Nat := 255

/-- Follows steps from a place. Each must start from a directory; what the last one leads to need
not be there. -/
def walk (disk : Disk) (place : Place) : List Step → Except DiskFault Place
  | [] => .ok place
  | step :: rest =>
    match disk.entry? place with
    | none => .error .notFound
    | some (.file _) => .error .notDirectory
    | some .directory =>
      match step with
      | .up => walk disk place.dropLast rest
      | .down name =>
        if maxNameLength < name.utf8ByteSize then .error .nameTooLong else walk disk (place ++ [name]) rest

/-- Whether a name on the path has a null character in it. -/
def hasNull (path : Path) : Bool :=
  path.steps.any fun
    | .up => false
    | .down name => name.toList.contains '\x00'

/-- The place that a path leads to. -/
def locate (disk : Disk) (path : Path) : Except DiskFault Place :=
  if hasNull path then .error .nameHasNull
  else disk.walk (if path.absolute then [] else disk.here) path.steps

/-- What a path leads to, if anything. -/
def find? (disk : Disk) (path : Path) : Option Entry :=
  match disk.locate path with
  | .ok place => disk.entry? place
  | .error _ => none

/-- Whether a path leads to a directory. -/
def isDirectory (disk : Disk) (path : Path) : Bool := disk.find? path == some .directory

/-- Whether a path leads to something. What is not a directory has no slash after it. -/
def isThere (disk : Disk) (path : Path) : Bool :=
  match disk.find? path with
  | some .directory => true
  | some (.file _) => path.ending == .plain
  | none => false

/-- The text of the file that a path leads to. -/
def readText (disk : Disk) (path : Path) : Except DiskFault String := do
  match disk.entry? (← disk.locate path) with
  | none => .error .notFound
  | some .directory => .error .isDirectory
  | some (.file content) =>
    if path.ending != .plain then .error .notDirectory
    else
      match content with
      | .text text => .ok text
      | .bytes _ => .error .notText

/-- Makes a directory where nothing is yet. -/
def makeDirectory (disk : Disk) (path : Path) : Except DiskFault Disk := do
  let place ← disk.locate path
  match disk.entry? place with
  | some _ => .error .alreadyThere
  | none => .ok (disk.put place .directory)

/-- The place of a file to be written; there may be a file already. -/
def writable (disk : Disk) (path : Path) : Except DiskFault Place := do
  let place ← disk.locate path
  match disk.entry? place with
  | some .directory => .error .isDirectory
  | _ => .ok place

/-- Opens a file to be written: makes it, or takes away what it held. -/
def createFile (disk : Disk) (path : Path) : Except DiskFault Disk := do
  return disk.put (← disk.writable path) (.file (.text ""))

/-- Adds to the end of a file; makes the file if it is not there. -/
def appendText (disk : Disk) (path : Path) (text : String) : Except DiskFault Disk := do
  let place ← disk.writable path
  match disk.entry? place with
  | some (.file content) => return disk.put place (.file (content.append text))
  | _ => return disk.put place (.file (.text text))

/-- Adds the first bytes of a text to a file that is there. -/
def appendPart (disk : Disk) (path : Path) (text : String) (count : Nat) : Disk :=
  match disk.locate path with
  | .error _ => disk
  | .ok place =>
    match disk.entry? place with
    | some (.file content) => disk.put place (.file (content.appendPart text count))
    | _ => disk

/-- Opens what a path leads to. -/
def openEntry (disk : Disk) (path : Path) : Except DiskFault Unit := do
  match disk.entry? (← disk.locate path) with
  | none => .error .notFound
  | some _ => .ok ()

/-- The place of the target of a renaming: not a directory, and not spelled as one. -/
def renameTarget (disk : Disk) (target : Path) : Except DiskFault Place := do
  let place ← disk.locate target
  match target.ending, disk.entry? place with
  | .dot, none => .error .notFound
  | .dot, some (.file _) => .error .notDirectory
  | .dot, some .directory => .error .busy
  | .slash, _ => .error .notDirectory
  | .plain, some .directory => .error .isDirectory
  | .plain, _ => .ok place

/-- Moves a file, in place of the one that is at the target. -/
def rename (disk : Disk) (source target : Path) : Except DiskFault Disk := do
  let origin ← disk.locate source
  let place ← disk.renameTarget target
  match disk.entry? origin with
  | none => .error .notFound
  | some entry => return (disk.erase origin).put place entry

/-- Takes away the file that a path leads to, if it is there. -/
def remove (disk : Disk) (path : Path) : Disk :=
  match disk.locate path with
  | .error _ => disk
  | .ok place =>
    match disk.entry? place with
    | some (.file _) => disk.erase place
    | _ => disk

end Disk

end DomainModel
