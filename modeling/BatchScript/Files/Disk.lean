import BatchScript.Files.Access

/-!
# Files in memory

A disk is a table from places to files, directories and devices, with a working directory in which
relative paths start. A place is the list of names from the root on. Paths are followed name by name
as a system does it: each directory on the way must exist.

A disk may refuse what it is asked at any place, for want of permission or for another cause. A file
is written in two steps. It is opened, which makes it or empties it, and then it takes the bytes, of
which only the first may get into it. So a write that fails can leave a file behind that is not what
it was.
-/
namespace BatchScript

/-- What stands at a place. -/
inductive Entry where
  /-- A file with its bytes. -/
  | file (contents : ByteArray)
  /-- A directory. -/
  | directory
  /-- A device that takes what is written to it, keeps nothing of it and is empty when it is
  read. -/
  | device

/-- The names from the root to a file or directory. -/
abbrev Place := List Text

/-- What is to be done at a place. -/
inductive Use where
  /-- To pass through a directory. -/
  | pass
  /-- To ask what stands there. -/
  | ask
  /-- To read. -/
  | read
  /-- To open for writing. -/
  | write
  deriving DecidableEq, Repr

/-- Files and directories by their places. -/
structure Disk where
  /-- The working directory. -/
  workingDirectory : Place
  /-- What stands at which place, apart from the working directory and those above it. -/
  entries : List (Place × Entry)
  /-- The refusal of a use of what stands at a place. -/
  refusal : Use → Place → Option FileError := fun _ _ => none
  /-- The number of bytes after which a write to a place stops, and why, if it does. -/
  breakdown : Place → ByteArray → Option (Nat × FileError) := fun _ _ => none

namespace Disk

/-- The greatest number of bytes of a name. -/
def maxNameBytes : Nat := 255

/-- The number of bytes from which on a path is refused. -/
def pathLimit : Nat := 4096

/-- The number of bytes of a text. -/
def byteCount (text : Text) : Nat := (String.ofList text).utf8ByteSize

/-- The place of the device that every disk has. -/
def nullDevice : Place := ["dev".toList, "null".toList]

/-- An empty working directory, beside the device, on a disk that refuses nothing. -/
def empty (workingDirectory : Place) : Disk where
  workingDirectory
  entries := [(nullDevice.dropLast, .directory), (nullDevice, .device)]

/-- What stands at a place. The working directory and all above it exist. -/
def find? (disk : Disk) (place : Place) : Option Entry :=
  if place.isPrefixOf disk.workingDirectory then some .directory else disk.entries.lookup place

/-- The entries with one set at a place: in place of the old one, or behind all others. -/
def setEntry (place : Place) (entry : Entry) : List (Place × Entry) → List (Place × Entry)
  | [] => [(place, entry)]
  | (other, old) :: rest =>
    if other = place then (place, entry) :: rest else (other, old) :: setEntry place entry rest

/-- The disk with an entry set at a place. -/
def set (disk : Disk) (place : Place) (entry : Entry) : Disk :=
  { disk with entries := setEntry place entry disk.entries }

/-- Refuses a use of what stands at a place, if the disk does. -/
def allow (disk : Disk) (use : Use) (place : Place) : Except FileError Unit :=
  match disk.refusal use place with
  | none => .ok ()
  | some cause => .error cause

/-- The place one step from a directory, whether it exists or not. -/
def stepTo (place : Place) (part : Text) : Place :=
  if part = ['.', '.'] then place.dropLast else place ++ [part]

/-- One step from a directory: up, or to the place of a name in it. -/
def step (disk : Disk) (place : Place) (part : Text) : Except FileError Place :=
  match disk.find? place with
  | none => .error .notFound
  | some .directory => do
    disk.allow .pass place
    if maxNameBytes < byteCount part then .error .nameTooLong else .ok (stepTo place part)
  | some _ => .error .notDirectory

/-- The place to which a path leads, whether something stands there or not. -/
def locate (disk : Disk) (path : Path) : Except FileError Place :=
  if pathLimit ≤ byteCount path.toText then .error .nameTooLong
  else path.parts.foldlM disk.step (if path.root.isEmpty then disk.workingDirectory else [])

/-- The bytes of a file. -/
def read (disk : Disk) (path : Path) : Except FileError ByteArray := do
  let place ← disk.locate path
  match disk.find? place with
  | none => throw .notFound
  | some entry =>
    disk.allow .read place
    match entry with
    | .file contents => return contents
    | .directory => throw .isDirectory
    | .device => return .empty

/-- Whether what a path leads to is a file. A file that may not be read is one. -/
def isFile (disk : Disk) (path : Path) : Except FileError Bool := do
  let place ← disk.locate path
  disk.allow .ask place
  match disk.find? place with
  | none => throw .notFound
  | some (.file _) => return true
  | some _ => return false

/-- The disk with bytes in the file at a place, unless it is a device. -/
def keep (disk : Disk) (place : Place) (contents : ByteArray) : Disk :=
  match disk.find? place with
  | some .device => disk
  | _ => disk.set place (.file contents)

/-- Opens a file for writing: it is made, or emptied. Gives its place and the disk. -/
def openFile (disk : Disk) (path : Path) : Except FileError (Place × Disk) := do
  let place ← disk.locate path
  match disk.find? place with
  | some .directory => throw .isDirectory
  | _ =>
    disk.allow .write place
    return (place, disk.keep place .empty)

/-- Writes to the empty file at a place. Only the first bytes are written if the write breaks
down. -/
def fill (disk : Disk) (place : Place) (contents : ByteArray) : Except FileError Unit × Disk :=
  match disk.breakdown place contents with
  | none => (.ok (), disk.keep place contents)
  | some (count, cause) => (.error cause, disk.keep place (contents.extract 0 count))

/-- Writes a file: opens it and fills it. -/
def write (disk : Disk) (path : Path) (contents : ByteArray) : Except FileError Unit × Disk :=
  match disk.openFile path with
  | .error cause => (.error cause, disk)
  | .ok (place, opened) => opened.fill place contents

/-- Makes the directories on a way, and gives the place where it ends. -/
def makeWay (disk : Disk) (place : Place) : List Text → Disk × Place
  | [] => (disk, place)
  | part :: rest =>
    let next := stepTo place part
    makeWay (if (disk.find? next).isNone then disk.set next .directory else disk) next rest

/-- The disk with an entry at a path, and the directories on the way to it made. -/
def install (disk : Disk) (path : Path) (entry : Entry) : Disk :=
  let start := if path.root.isEmpty then disk.workingDirectory else []
  let (disk, parent) := disk.makeWay start path.parts.dropLast
  match path.parts.getLast? with
  | some name => disk.set (stepTo parent name) entry
  | none => disk

/-- The files below the working directory by their paths from there, each with its bytes. -/
def files (disk : Disk) : List (Path × ByteArray) :=
  disk.entries.filterMap fun (place, entry) =>
    match entry with
    | .file contents =>
      if disk.workingDirectory.isPrefixOf place then
        some (⟨[], place.drop disk.workingDirectory.length⟩, contents)
      else none
    | _ => none

/-- A disk as a system of files. -/
def system : FileSystem Disk := ⟨read, isFile, write⟩

end Disk

/-- Runs a program on the files of a disk. -/
def Access.run {α : Type} (disk : Disk) (program : Access α) : α × Disk :=
  program.runOn Disk.system disk

end BatchScript
