/-
# TypedContract.Fault -- what can stop a run

Most of what is wrong with a contract is collected as diagnostics and stops
nothing.  A fault is what remains: a part of a document has a kind that the step
at hand cannot work with, a key is missing, a file cannot be read, a literal is
malformed.  A malformed literal is refused for a reason that has its own words.
-/
import TypedContract.Literal.Basic

namespace TypedContract

set_option autoImplicit false

/-- The reasons for which an example literal is refused. -/
inductive Malformed where
  /-- The text is no literal expression. -/
  | notLiteral (text : String)
  /-- A number at a path of the value is not finite. -/
  | noJsonNumber (path : String) (value : Double)
  /-- A number to write is not finite. -/
  | noLiteralNumber (value : Double)
  /-- A mapping key is not a text; the path is known when reading. -/
  | keyNotText (path : Option String) (key : Literal)
  /-- A value has no JSON counterpart; the path is known when reading. -/
  | unsupported (path : Option String) (value : Literal)
  /-- An annotation has no value. -/
  | noValue
  /-- Named examples are given by something else than a mapping. -/
  | examplesNotMapping
  /-- A named example is not an object. -/
  | exampleNotObject (name : String)

namespace Malformed

/-- The path of a value, when known, in front of what is wrong with it. -/
def located (path : Option String) (text : String) : String :=
  match path with
  | some path => path ++ ": " ++ text
  | none => text

/-- The reason in words. -/
def message : Malformed → String
  | .notLiteral text => "not a literal expression: " ++ Text.quote text
  | .noJsonNumber path value => path ++ ": " ++ value.text ++ " has no JSON representation"
  | .noLiteralNumber value => value.text ++ " has no literal representation"
  | .keyNotText path key =>
      located path ("mapping key " ++ String.ofList key.written ++ " is not a string")
  | .unsupported path value => located path (value.typeName ++ " values are not supported")
  | .noValue => "annotation has no 'value' field"
  | .examplesNotMapping => "named examples must be a mapping"
  | .exampleNotObject name => "named example " ++ Text.quote name ++ " is not an example object"

end Malformed

/-- The causes that end a step. -/
inductive Fault where
  /-- A value of this kind cannot be searched, walked, indexed or used as a key. -/
  | unsuitable
  /-- The value is no object (or no text), so it has no such member. -/
  | noMember
  /-- A key that must be present is missing. -/
  | missingKey (key : String)
  /-- A value of the right kind lies outside what is allowed. -/
  | badValue
  /-- A list is too short. -/
  | badIndex
  /-- A number is too large for a double or an integer part. -/
  | tooLarge
  /-- A file holds bytes that are no text. -/
  | undecodable
  /-- A path leads through a directory that does not exist. -/
  | noDirectory
  /-- A file is needed where a directory stands. -/
  | notAFile
  /-- A path leads through a file. -/
  | throughFile
  /-- A directory is needed where a file stands. -/
  | occupied
  /-- A chain of definitions never ends. -/
  | endless
  /-- A literal is refused. -/
  | malformed (why : Malformed)
  /-- The contract cannot be read; the text says what is wrong with which source. -/
  | unreadableContract (text : String)
  /-- The symbol manifest cannot be read; the text says what is wrong with which file. -/
  | unreadableSymbols (text : String)
  /-- A step of a registration program failed on purpose. -/
  | scripted (text : String)

end TypedContract
