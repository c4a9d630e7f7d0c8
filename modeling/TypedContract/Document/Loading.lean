/-
# TypedContract.Document.Loading -- contracts and manifests from files and pages, and back

A contract comes from a file or, when its name begins with the mark of a web
address, from a page.  A name that ends in `.json` is read as JSON and every other
name as YAML.  The reader of YAML is given from outside; by default it reads the flow
style.  What cannot be read as a contract is a fault with one wording for each cause; a
contract without a version only leaves a warning in the log.

A contract goes back into a file in the form that its name asks for: as JSON with a line end
after it when the extension is `.json`, and otherwise as YAML.
-/
import TypedContract.Disk.Basic
import TypedContract.Json.Reader
import TypedContract.Json.Writer
import TypedContract.Session
import TypedContract.Symbol.Manifest
import TypedContract.Web.Page

namespace TypedContract

set_option autoImplicit false

/-- A reader of YAML.  A text that it does not refuse can still hold a value that cannot be
built, such as an oversized integer. -/
abbrev Yaml := String → Except Json.ReadError Json

/-- What a run can read from. -/
structure Surroundings where
  disk : Disk := {}
  pages : Web.Pages := []
  environment : List (String × String) := []
  yaml : Yaml := Json.ofFlowText

namespace Loading

/-- A text begins with another one. -/
def begins (start text : String) : Bool := start.toList.isPrefixOf text.toList

/-- A text ends with another one. -/
def ends (ending text : String) : Bool := ending.toList.isSuffixOf text.toList

/-- The source is the address of a page. -/
def isAddress (source : String) : Bool := begins "http://" source || begins "https://" source

/-- The value of a text that stands under a name. -/
def valueOf (yaml : Yaml) (name text : String) : Except Json.ReadError Json :=
  if ends ".json" name then Json.ofText text else yaml text

/-- The contract that a text holds. -/
def contractOf (yaml : Yaml) (name text : String) : Run Json := do
  match valueOf yaml name text with
  | .error .notJson => throw (.unreadableContract ("cannot parse " ++ name))
  | .error .oversizedInteger => throw .badValue
  | .ok (.object entries) =>
      if (Json.find? "openapi" entries).isNone then
        Run.note .warning .loader (name ++ " has no 'openapi' version field")
      return .object entries
  | .ok _ => throw (.unreadableContract (name ++ " does not contain an OpenAPI document"))

/-- The contract of a page. -/
def contractOfPage (yaml : Yaml) (pages : Web.Pages) (address : String) : Run Json :=
  match pages.fetch? address with
  | none => throw (.unreadableContract ("cannot fetch " ++ address))
  | some page => contractOf yaml (String.ofList (address.toList.takeWhile (· != '?'))) page.body

/-- The contract of a file. -/
def contractOfFile (yaml : Yaml) (disk : Disk) (path : Disk.Path) : Run Json :=
  match disk.read? path with
  | none => throw (.unreadableContract ("cannot read " ++ path.text))
  | some bytes =>
      match String.fromUTF8? bytes with
      | none => throw .undecodable
      | some text => contractOf yaml path.name text

/-- The contract of a source. -/
def contract (surroundings : Surroundings) (source : String) : Run Json :=
  if isAddress source then contractOfPage surroundings.yaml surroundings.pages source
  else contractOfFile surroundings.yaml surroundings.disk (.ofText source)

/-! ## Symbol manifests -/

/-- The word for what makes a manifest malformed. -/
def malformation? : Fault → Option String
  | .missingKey _ => some "KeyError"
  | .unsuitable => some "TypeError"
  | .noMember => some "AttributeError"
  | .badValue => some "ValueError"
  | _ => none

/-- The symbols of a manifest.  An empty manifest has none. -/
def symbolsOf (name : String) (manifest : Json) : Except Fault SymbolModel :=
  match manifest.orElse (.object []) with
  | .object entries =>
      match Manifest.model (.object entries) name with
      | .ok model => .ok model
      | .error fault =>
          match malformation? fault with
          | some word =>
              .error (.unreadableSymbols ("malformed symbol manifest " ++ name ++ ": " ++ word))
          | none => .error fault
  | _ => .error (.unreadableSymbols (name ++ " does not contain a symbol manifest"))

/-- The symbols of a file. -/
def symbols (disk : Disk) (path : Disk.Path) (yaml : Yaml := Json.ofFlowText) :
    Except Fault SymbolModel :=
  match disk.read? path with
  | none => .error (.unreadableSymbols ("cannot read " ++ path.text))
  | some bytes =>
      match String.fromUTF8? bytes with
      | none => .error .undecodable
      | some text =>
          match yaml text with
          | .error .notJson => .error (.unreadableSymbols ("cannot parse " ++ path.text))
          | .error .oversizedInteger => .error .badValue
          | .ok manifest => symbolsOf path.text manifest

end Loading

/-! ## Contracts into files -/

namespace Saving

/-- The text of a document in a JSON file. -/
def jsonText (document : Json) : Except Fault String := do return (← document.render) ++ "\n"

/-- What the file of a path holds when a document is written to it. -/
def contentFor (path : Disk.Path) (document : Json) : Except Fault Disk.Content :=
  if path.extension == ".json" then do return .bytes (← jsonText document).toUTF8
  else .ok (.yaml document)

/-- Writes a document to the file of a path. -/
def save (document : Json) (path : Disk.Path) (disk : Disk) : Except Fault Disk := do
  disk.write path (← contentFor path document)

end Saving

end TypedContract
