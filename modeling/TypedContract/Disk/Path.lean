/-
# TypedContract.Disk.Path -- names of files and directories

A path is a root, which is empty for a relative path, and the parts between the
slashes.  Empty parts and single points say nothing and are dropped; two points
are kept, because where they lead depends on the disk.
-/
import TypedContract.Text.Ranges

namespace TypedContract.Disk

set_option autoImplicit false

/-- The name of a file or a directory. -/
structure Path where
  root : String := ""
  parts : List String
  deriving DecidableEq

namespace Path

/-- The part of the name of the directory above. -/
def above : String := ".."

/-- The root of a written path: exactly two slashes in front stay two. -/
def rootOf : List Char → String
  | ['/', '/'] => "//"
  | '/' :: '/' :: c :: _ => if c == '/' then "/" else "//"
  | '/' :: _ => "/"
  | _ => ""

/-- The path that a text writes. -/
def ofText (text : String) : Path where
  root := rootOf text.toList
  parts :=
    ((Text.splitOnChar (· == '/') text.toList).map String.ofList).filter fun part =>
      part != "" && part != "."

/-- The text of a path. -/
def text (path : Path) : String :=
  if path.root == "" && path.parts.isEmpty then "."
  else path.root ++ String.intercalate "/" path.parts

/-- The last part. -/
def name (path : Path) : String := path.parts.getLast?.getD ""

/-- A path below a directory. -/
def child (path : Path) (part : String) : Path := { path with parts := path.parts ++ [part] }

/-- The end of a name from its last point on; a point at either end of the name
begins none. -/
def extensionOf (name : List Char) : List Char :=
  let reversed := name.reverse
  let ending := reversed.takeWhile (· != '.')
  match reversed.dropWhile (· != '.') with
  | '.' :: _ :: _ => if ending.isEmpty then [] else '.' :: ending.reverse
  | _ => []

/-- The end of the last part from its last point on. -/
def extension (path : Path) : String := String.ofList (extensionOf path.name.toList)

/-- The steps to the path from the working directory or from the root. -/
def steps (path : Path) : List String :=
  if path.root == "" then path.parts else "/" :: path.parts

end Path

end TypedContract.Disk
