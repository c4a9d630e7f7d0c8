/-
# TypedContract.Main -- the command line

Reads the files that the command line mentions, runs the program on them, writes
the files that have changed and shows the output and the log.
-/
import TypedContract.Command.Basic

namespace TypedContract.Main

set_option autoImplicit false

/-- The variables of the environment that count. -/
def environmentNames : List String :=
  ["OASBRIDGE_NILABLE_OPTIONAL", "OASBRIDGE_CLIENT_NAME", "OASBRIDGE_LOG_LEVEL"]

/-- The paths that a request mentions. -/
def mentioned (request : Command.Request) : List Disk.Path :=
  let contract := Disk.Path.ofText request.contract
  match request.task with
  | .generate output _ _ => [contract, (Disk.Path.ofText output).child Command.clientFile]
  | .enrich symbols output =>
      [contract, .ofText symbols, .ofText (output.getD request.contract)]

/-- The text of a place. -/
def placeText : List String → String
  | "/" :: parts => "/" ++ String.intercalate "/" parts
  | parts => String.intercalate "/" parts

/-- The places on the way along the steps, the last one included. -/
def placesAlong (place : List String) : List String → List (List String)
  | [] => []
  | part :: rest => Disk.step place part :: placesAlong (Disk.step place part) rest

/-- A directory stands at a place. -/
def isDirectory (place : List String) : IO Bool := do
  try (← IO.FS.realPath (placeText place)).isDir
  catch _ => return false

/-- Adds what stands at a place to a disk. -/
def look (disk : Disk) (place : List String) : IO Disk := do
  if ← isDirectory place then
    return { disk with directories := disk.directories ++ [place] }
  try
    let bytes ← IO.FS.readBinFile (placeText place)
    return { disk with files := Disk.putFile place (.bytes bytes) disk.files }
  catch _ => return disk

/-- The bytes of a file that has been written. -/
def bytesOf : Disk.Content → ByteArray
  | .bytes bytes => bytes
  | .yaml value => (value.compact ++ "\n").toUTF8

/-- Writes a file that has changed, and the directories above it. -/
def store (place : List String) (content : Disk.Content) : IO Unit := do
  if place.length > 1 then IO.FS.createDirAll (placeText place.dropLast)
  IO.FS.writeBinFile (placeText place) (bytesOf content)

/-- What the program runs on. -/
def surroundings (arguments : List String) : IO Surroundings := do
  let environment ← environmentNames.filterMapM fun name => do
    return (← IO.getEnv name).map (name, ·)
  let places := match Command.Request.ofArguments arguments with
    | .ok request => (mentioned request).flatMap fun (path : Disk.Path) => placesAlong [] path.steps
    | .error _ => []
  return { disk := ← places.foldlM look {}, environment := environment }

/-- Shows what a run leaves behind and gives its status. -/
def present (before : Disk) (outcome : Command.Outcome) : IO UInt32 := do
  (before.changedSince outcome.disk).forM fun (place, content) => store place content
  IO.print outcome.output
  outcome.log.forM fun line => IO.eprintln line.text
  if outcome.ended then IO.eprintln "usage: oasbridge [-h] [--log-level LEVEL] generate|enrich ..."
  match outcome.status with
  | .ok status => return status.toUInt32
  | .error _ =>
      IO.eprintln "oasbridge: the document cannot be worked with"
      return 1

end TypedContract.Main

/-- Runs the program with the words of its command line. -/
def main (arguments : List String) : IO UInt32 := do
  let surroundings ← TypedContract.Main.surroundings arguments
  TypedContract.Main.present surroundings.disk
    (TypedContract.Command.run surroundings arguments)
