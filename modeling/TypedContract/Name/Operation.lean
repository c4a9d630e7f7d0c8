/-
# TypedContract.Name.Operation -- names of client functions

An operation with an identifier of its own is named by it.  Otherwise the name is
a verb and the path: the verb of the method (`list` for a read without a path
parameter), and the segments of the path without a leading `/api`, a version after
it and the parameters.  A path of one segment is a collection, whose name is made
plural or singular as the verb asks.
-/
import TypedContract.Json.Access
import TypedContract.Name.Snake

namespace TypedContract.Name

set_option autoImplicit false

open Text

/-- The text ends with the given characters. -/
def endsWith (ending text : List Char) : Bool := ending.isSuffixOf text

/-- The text without its last `n` characters. -/
def cut (n : Nat) (text : List Char) : List Char := text.take (text.length - n)

/-- The plural of a resource name. -/
def pluralChars (word : List Char) : List Char :=
  if endsWith ['s'] word then word
  else if endsWith ['y'] word
      && (['a', 'e', 'o', 'u'].all fun vowel => !endsWith [vowel, 'y'] word) then
    cut 1 word ++ ['i', 'e', 's']
  else word ++ ['s']

/-- The singular of a resource name. -/
def singularChars (word : List Char) : List Char :=
  if endsWith ['i', 'e', 's'] word then cut 3 word ++ ['y']
  else if endsWith ['s', 'e', 's'] word then cut 2 word
  else if endsWith ['s'] word && !endsWith ['s', 's'] word then cut 1 word
  else word

/-- The plural of a resource name. -/
def plural (word : String) : String := String.ofList (pluralChars word.toList)

/-- The singular of a resource name. -/
def singular (word : String) : String := String.ofList (singularChars word.toList)

/-- A version segment: `v` and decimal digits, perhaps with a line feed after them. -/
def isVersion : List Char → Bool
  | 'v' :: rest =>
      match rest.dropWhile isDecimal with
      | [] => !rest.isEmpty
      | ['\n'] => rest.length > 1
      | _ => false
  | _ => false

/-- The segments of a path that are not empty. -/
def segments (path : String) : List (List Char) :=
  (splitOnChar (· == '/') path.toList).filter (!·.isEmpty)

/-- The segment is a parameter. -/
def isParameter : List Char → Bool
  | '\x7b' :: _ => true
  | _ => false

/-- The segments without a leading `api` and a version after it. -/
def dropApi : List (List Char) → List (List Char)
  | ['a', 'p', 'i'] :: version :: rest =>
      if isVersion version then rest else version :: rest
  | [['a', 'p', 'i']] => []
  | parts => parts

/-- The segments of a path that name its resource. -/
def pathParts (path : String) : List (List Char) :=
  (dropApi (segments path)).filter (!isParameter ·)

/-- The verb of a method; a method without one is its own verb. -/
def verbOf (method : String) : String :=
  match method with
  | "get" => "list"
  | "post" => "create"
  | "put" => "update"
  | "delete" => "delete"
  | "patch" => "update"
  | other => other

/-- The name of an operation from its method and path. -/
def ofPath (method path : String) : String :=
  let method := String.ofList (lower method.toList)
  let parts := pathParts path
  let hasParameter := (segments path).any isParameter
  if parts.isEmpty then verbOf method ++ "_root"
  else
    let named := (parts.map sanitizeChars).filter (!·.isEmpty)
    let words := if named.isEmpty then ["root".toList] else named
    let verb := if method == "get" && hasParameter then "get" else verbOf method
    let resource := match words with
      | [word] =>
          if verb == "list" then pluralChars word
          else if hasParameter || verb == "create" then singularChars word
          else word
      | words => joinWith ['_'] words
    identifier (verb ++ "_" ++ String.ofList resource)

/-- The name of the function of an operation. -/
def ofOperation (method path : String) (operationId : Json) : Except Fault String := do
  if operationId.truthy then
    let name := sanitize (← operationId.text)
    if name != "" then return identifier name
  return ofPath method path

end TypedContract.Name
