import PageCompiler.Path
import PageCompiler.Text.Quoted
import PageCompiler.Text.Utf8

/-!
# Disks

A disk is a value: directories and files by their place below the root, and the directory in which
relative paths start. The operations behave as a file system does. On the way to the place that a
path names, every name but the last has to be a directory; no name is longer than 255 bytes and no
path longer than 4095; a path that holds the character NUL names nothing at all.

An operation that fails may have done part of its work, so it yields the disk in any case.
-/

namespace PageCompiler

/-- Why an operation on a disk fails. -/
inductive DiskFault
  | missing
  | alreadyThere
  | notDirectory
  | isDirectory
  | nameTooLong
  deriving Repr, DecidableEq

namespace DiskFault

/-- The fault in words. -/
def text : DiskFault → String
  | missing => "No such file or directory"
  | alreadyThere => "File exists"
  | notDirectory => "Not a directory"
  | isDirectory => "Is a directory"
  | nameTooLong => "File name too long"

/-- The number by which systems know the fault. -/
def number : DiskFault → Nat
  | missing => 2
  | alreadyThere => 17
  | notDirectory => 20
  | isDirectory => 21
  | nameTooLong => 36

/-- The fault with the path it happened at. -/
def message (fault : DiskFault) (path : Path) : String :=
  "[Errno " ++ toString fault.number ++ "] " ++ fault.text ++ ": " ++ Text.quoted path.text

end DiskFault

/-- What stands in the way of an operation: a fault of the disk, or a path that is none. -/
inductive DiskError
  | fault (fault : DiskFault)
  | nulInPath
  deriving Repr, DecidableEq

/-- A directory or a file. -/
inductive DiskEntry
  | directory
  | file (bytes : List UInt8)
  deriving Repr, DecidableEq

/-- The names from the root down to a place. -/
abbrev Place := List String

/-- Directories and files by their places. The root is a directory without being listed. -/
structure Disk where
  entries : List (Place × DiskEntry)
  /-- Where relative paths start. -/
  current : Place
  deriving Repr, DecidableEq

namespace Disk

/-- What is at a place. -/
def at? (disk : Disk) (place : Place) : Option DiskEntry :=
  if place = [] then some .directory else disk.entries.lookup place

/-- The disk with something at a place. -/
def put (disk : Disk) (place : Place) (entry : DiskEntry) : Disk :=
  { disk with entries := (place, entry) :: disk.entries.filter fun other => other.1 ≠ place }

/-- The disk with nothing at a place. -/
def erase (disk : Disk) (place : Place) : Disk :=
  { disk with entries := disk.entries.filter fun other => other.1 ≠ place }

/-- The most bytes of one name. -/
def maxNameBytes : Nat := 255

/-- The most bytes of a path. -/
def maxPathBytes : Nat := 4095

/-- The place of a name in a directory, whether or not something is there. -/
def child (directory : Place) (name : String) : Except DiskFault Place :=
  if name = Path.up then .ok directory.dropLast
  else if maxNameBytes < name.utf8ByteSize then .error .nameTooLong
  else .ok (directory ++ [name])

/-- The place of names from a directory on. All but the last have to be directories. -/
def walk (disk : Disk) : Place → List String → Except DiskFault Place
  | directory, [] => .ok directory
  | directory, [name] => child directory name
  | directory, name :: rest =>
    match child directory name with
    | .error fault => .error fault
    | .ok place =>
      match disk.at? place with
      | none => .error .missing
      | some (.file _) => .error .notDirectory
      | some .directory => disk.walk place rest

/-- The place that a path names. -/
def locate (disk : Disk) (path : Path) : Except DiskError Place :=
  if path.text.toList.contains '\x00' then .error .nulInPath
  else if maxPathBytes < path.text.utf8ByteSize then .error (.fault .nameTooLong)
  else (disk.walk (if path.root = "" then disk.current else []) path.names).mapError .fault

/-- What a path names. -/
def find (disk : Disk) (path : Path) : Except DiskError DiskEntry :=
  match disk.locate path with
  | .error e => .error e
  | .ok place =>
    match disk.at? place with
    | none => .error (.fault .missing)
    | some entry => .ok entry

/-- The path names a file. A path that names nothing names no file; a name that is too long is an
error all the same. -/
def isFile (disk : Disk) (path : Path) : Except DiskFault Bool :=
  match disk.find path with
  | .ok (.file _) => .ok true
  | .ok .directory => .ok false
  | .error (.fault .nameTooLong) => .error .nameTooLong
  | .error _ => .ok false

/-- The bytes of a file. -/
def read (disk : Disk) (path : Path) : Except DiskError (List UInt8) :=
  match disk.find path with
  | .error e => .error e
  | .ok .directory => .error (.fault .isDirectory)
  | .ok (.file bytes) => .ok bytes

/-- What an operation leaves: the disk, and whether it succeeded. -/
abbrev Outcome := Disk × Except DiskError Unit

/-- Make one directory. -/
def makeDirectory (disk : Disk) (path : Path) : Outcome :=
  match disk.locate path with
  | .error e => (disk, .error e)
  | .ok place =>
    match disk.at? place with
    | some _ => (disk, .error (.fault .alreadyThere))
    | none => (disk.put place .directory, .ok ())

/-- After a failure to make a directory it may be there all the same, which is well. -/
def toleratingDirectory (outcome : Outcome) (path : Path) : Outcome :=
  match outcome with
  | (disk, .error (.fault .missing)) => (disk, .error (.fault .missing))
  | (disk, .error .nulInPath) => (disk, .error .nulInPath)
  | (disk, .error e) =>
    match disk.find path with
    | .ok .directory => (disk, .ok ())
    | _ => (disk, .error e)
  | (disk, .ok ()) => (disk, .ok ())

/-- Make a directory and those above it that are missing. -/
def makeDirectories (disk : Disk) (path : Path) : Outcome :=
  match toleratingDirectory (disk.makeDirectory path) path with
  | (disk, .error (.fault .missing)) =>
    if _h : path.names = [] then (disk, .error (.fault .missing))
    else
      match disk.makeDirectories path.parent with
      | (disk, .error e) => (disk, .error e)
      | (disk, .ok ()) => toleratingDirectory (disk.makeDirectory path) path
  | outcome => outcome
termination_by path.names.length
decreasing_by
  have := List.length_pos_iff.2 _h
  simp only [Path.parent, List.length_dropLast]
  omega

/-- Write a file. -/
def writeFile (disk : Disk) (path : Path) (bytes : List UInt8) : Outcome :=
  match disk.locate path with
  | .error e => (disk, .error e)
  | .ok place =>
    match disk.at? place with
    | some .directory => (disk, .error (.fault .isDirectory))
    | _ => (disk.put place (.file bytes), .ok ())

/-- Delete a file, if it is there. -/
def removeFile (disk : Disk) (path : Path) : Disk :=
  match disk.locate path with
  | .error _ => disk
  | .ok place =>
    match disk.at? place with
    | some (.file _) => disk.erase place
    | _ => disk

/-- The bytes of a text. -/
def encode (text : String) : List UInt8 :=
  text.toUTF8.data.toList

/-- Write a text into a file, making the directories above it. -/
def writeText (disk : Disk) (path : Path) (text : String) : Outcome :=
  match disk.makeDirectories path.parent with
  | (disk, .error e) => (disk, .error e)
  | (disk, .ok ()) => disk.writeFile path (encode text)

end Disk

end PageCompiler
