/-
# TypedContract.Client.TypeText -- types as annotations of the client

A type is written as a type expression of the client's language.  A union lists
its different members once; nothing among the members makes it optional.
-/
import TypedContract.Literal.Basic
import TypedContract.Symbol.Basic
import TypedContract.Ty.Basic

namespace TypedContract.Client

set_option autoImplicit false

/-- The type that stands for any value. -/
def anyType : String := "Any"

/-- The type expression of a primitive kind. -/
def scalarText : Scalar → String
  | .string => "str"
  | .bytes => "bytes"
  | .int64 => "int"
  | .int32 => "int"
  | .double => "float"
  | .float => "float"
  | .bool => "bool"
  | .nil => "None"
  | .other _ => anyType

/-- A type expression that also allows nothing. -/
def optional (text : String) : String := "Optional[" ++ text ++ "]"

/-- The first occurrences of the texts. -/
def distinctTexts (texts : List String) : List String :=
  texts.foldl (fun kept text => if kept.contains text then kept else kept ++ [text]) []

/-- The type expression of a union of members. -/
def unionText (nilable : Bool) (members : List String) : String :=
  match distinctTexts members with
  | [] => "None"
  | texts =>
      let inner := match texts with
        | [only] => only
        | texts => "Union[" ++ String.intercalate ", " texts ++ "]"
      if nilable then optional inner else inner

mutual

/-- The type expression of a type; with `quote`, references are quoted. -/
def typeText (quote : Bool) : Ty → String
  | .primitive p => scalarText p.scalar
  | .reference name => if quote then "\"" ++ name ++ "\"" else name
  | .array element => "list[" ++ typeText quote element ++ "]"
  | .map value => "dict[str, " ++ typeText quote value ++ "]"
  | .record _ _ _ => "dict[str, Any]"
  | .union _ members => unionText (members.any Ty.isNil) (memberTexts quote members)
  | .unknown _ => anyType

/-- The type expressions of the members that are not the type of nothing. -/
def memberTexts (quote : Bool) : List Ty → List String
  | [] => []
  | member :: rest =>
      if member.isNil then memberTexts quote rest
      else typeText quote member :: memberTexts quote rest

end

/-- The type expression of a type that may be missing. -/
def optionalTypeText (type : Option Ty) : String :=
  match type with
  | some type => typeText false type
  | none => "None"

/-- The type expression of a value that may be left out. -/
def leftOut (text : String) : String :=
  if "Optional[".toList.isPrefixOf text.toList || text == anyType then text else optional text

/-- An annotation applied to its value. -/
def annotationText (tag : Annotation) : String :=
  tag.type.name ++ "(value=" ++ (tag.field? "value").getD "None" ++ ")"

/-- A type expression with annotations. -/
def annotated (text : String) (annotations : List Annotation) : String :=
  if annotations.isEmpty then text
  else
    "Annotated[" ++ text ++ ", " ++ String.intercalate ", " (annotations.map annotationText) ++ "]"

/-- A default value that each record needs a copy of its own of. -/
def isMutable : Json → Bool
  | .list _ => true
  | .object _ => true
  | _ => false

/-- What stands after `=` in the declaration of a record's field, if anything. -/
def fieldDefault (wireName identifier : String) (required : Bool) (default : Json)
    (readOnly : Bool) : Option String :=
  let hasDefault := !required || !default.isNull
  let value := default.written
  let defaults :=
    if !hasDefault then []
    else if isMutable default then ["default_factory=lambda: " ++ value]
    else ["default=" ++ value]
  let wire :=
    if wireName != identifier then ["'wire_name': " ++ Text.quote wireName] else []
  let metadata := wire ++ if readOnly then ["'read_only': True"] else []
  let args := defaults ++
    if metadata.isEmpty then []
    else ["metadata=\x7b" ++ String.intercalate ", " metadata ++ "\x7d"]
  if args.isEmpty then none
  else if metadata.isEmpty && !isMutable default then some value
  else some ("field(" ++ String.intercalate ", " args ++ ")")

end TypedContract.Client
