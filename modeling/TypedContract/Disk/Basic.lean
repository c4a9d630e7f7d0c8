/-
# TypedContract.Disk.Basic -- files and directories

A disk holds files by their places.  A place is the list of names that lead to it
from the working directory, or from the root when it begins with a slash.  Every
directory on the way to a file exists, and so does each directory above.
-/
import TypedContract.Disk.Path
import TypedContract.Fault
import TypedContract.Json.Basic

namespace TypedContract

set_option autoImplicit false

namespace Disk

/-- What a file holds. -/
inductive Content where
  | bytes (bytes : ByteArray)
  /-- A value to be written in YAML, of which its JSON text is one form. -/
  | yaml (value : Json)

end Disk

/-- Files and directories. -/
structure Disk where
  files : List (List String × Disk.Content) := []
  directories : List (List String) := []

namespace Disk

/-- The file at a place. -/
def file? (disk : Disk) (place : List String) : Option Content := disk.files.lookup place

/-- A directory stands at the place. -/
def isDirectory (disk : Disk) (place : List String) : Bool :=
  place.all (· == Path.above) || place == ["/"] || disk.directories.contains place
    || disk.files.any fun (file, _) => place.isPrefixOf file && place != file

/-- The place one step away from a directory. -/
def step (place : List String) (part : String) : List String :=
  if part != Path.above || place.all (· == Path.above) then place ++ [part]
  else if place == ["/"] then place
  else place.dropLast

/-- The place that steps lead to.  Each step starts at a directory. -/
def walk (disk : Disk) (place : List String) : List String → Except Fault (List String)
  | [] => .ok place
  | part :: rest =>
      if disk.isDirectory place then disk.walk (step place part) rest
      else if (disk.file? place).isSome then .error .throughFile
      else .error .noDirectory

/-- The place of a path. -/
def placeOf (disk : Disk) (path : Path) : Except Fault (List String) := disk.walk [] path.steps

/-- The bytes of the file of a path, if it can be read. -/
def read? (disk : Disk) (path : Path) : Option ByteArray :=
  match disk.placeOf path with
  | .error _ => none
  | .ok place =>
      match disk.file? place with
      | some (.bytes bytes) => some bytes
      | _ => none

/-- Puts a file, in the place of the one that stood there. -/
def putFile (place : List String) (content : Content) :
    List (List String × Content) → List (List String × Content)
  | [] => [(place, content)]
  | (other, old) :: rest =>
      if other == place then (other, content) :: rest
      else (other, old) :: putFile place content rest

/-- Writes the file of a path. -/
def write (disk : Disk) (path : Path) (content : Content) : Except Fault Disk := do
  let place ← disk.placeOf path
  if disk.isDirectory place then throw .notAFile
  return { disk with files := putFile place content disk.files }

/-- Creates the directories that the steps lead through. -/
def makeWay (disk : Disk) (place : List String) : List String → Except Fault Disk
  | [] => .ok disk
  | part :: rest =>
      let next := step place part
      if disk.isDirectory next then disk.makeWay next rest
      else if (disk.file? next).isSome then
        .error (if rest.isEmpty then .occupied else .throughFile)
      else makeWay { disk with directories := disk.directories ++ [next] } next rest

/-- Creates a directory and those above it. -/
def makeDirectory (disk : Disk) (path : Path) : Except Fault Disk :=
  disk.makeWay [] path.steps

/-- Two files hold the same. -/
def Content.same : Content → Content → Bool
  | .bytes a, .bytes b => a == b
  | _, _ => false

/-- The files that are new or hold something else than before. -/
def changedSince (before now : Disk) : List (List String × Content) :=
  now.files.filter fun (place, content) =>
    match before.file? place with
    | some old => !old.same content
    | none => true

end Disk

end TypedContract
