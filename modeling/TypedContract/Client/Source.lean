/-
# TypedContract.Client.Source -- the text of a client

A client is one module: a heading, the declarations of its types, the part that
every client shares, and a class with a method for each operation.  A text of the
contract stands in the module either between three double quotes, where three
double quotes of its own become single ones, or between two double quotes as it is.
-/
import TypedContract.Client.View
import TypedContract.Json.Access
import TypedContract.Text.Wrapped

namespace TypedContract.Client

set_option autoImplicit false

/-- Lines, each with its end. -/
def unlines (lines : List String) : String :=
  String.join (lines.map (· ++ "\n"))

/-! ## Quotes -/

/-- Three double quotes become three single quotes, from the left. -/
def softened : List Char → List Char
  | '"' :: '"' :: '"' :: rest => '\'' :: '\'' :: '\'' :: softened rest
  | c :: rest => c :: softened rest
  | [] => []

/-- A description between three double quotes. -/
def docstring (description : String) : String :=
  "\"\"\"" ++ String.ofList (softened description.toList) ++ "\"\"\""

/-- A text between double quotes. -/
def doubleQuoted (text : String) : String := "\"" ++ text ++ "\""

/-! ## Heading -/

/-- The title in the heading. -/
def titleText (title : Json) : String := (title.orElse (.str "API")).plain

/-- The heading of the module and what it imports. -/
def heading (title : Json) (version : String) : List String := [
  "\"\"\"" ++ titleText title ++ " client"
    ++ (if version.isEmpty then "" else " (" ++ version ++ ")") ++ ".",
  "",
  "Generated by oasbridge. Do not edit.",
  "\"\"\"",
  "",
  "from __future__ import annotations",
  "",
  "import dataclasses",
  "from dataclasses import dataclass, field",
  "from typing import Annotated, Any, NamedTuple, Optional, Union",
  "",
  "import httpx",
  "",
  "",
  "class Example(NamedTuple):",
  "    value: Any",
  "",
  "",
  "class Examples(NamedTuple):",
  "    value: dict[str, Any]"
]

/-! ## Types -/

/-- The declaration of a field. -/
def fieldLine (field : FieldView) : String :=
  "    " ++ field.identifier ++ ": " ++ field.annotations
    ++ match field.default with
      | some value => " = " ++ value
      | none => ""

/-- The body of a record. -/
def recordLines (annotations : List String) (fields : List FieldView) (description : String) :
    List String :=
  (if description.isEmpty then [] else ["    " ++ docstring description, ""])
    ++ (if annotations.isEmpty then []
        else ["    __openapi_examples__ = (" ++ String.intercalate ", " annotations ++ ",)", ""])
    ++ fields.map fieldLine
    ++ if fields.isEmpty && annotations.isEmpty && description.isEmpty then ["    pass"] else []

/-- The declaration of a type. -/
def typeLines (type : TypeView) : List String :=
  ["", ""] ++ match type.body with
    | .record fields description =>
        ["@dataclass(kw_only=True)", "class " ++ type.name ++ ":"]
          ++ recordLines type.annotations fields description
    | .alias text => [type.name ++ " = " ++ text]

/-! ## What every client shares -/

/-- The function that turns records into plain values. -/
def encoderLines : List String := [
  "",
  "",
  "def _encode(value: Any) -> Any:",
  "    if dataclasses.is_dataclass(value) and not isinstance(value, type):",
  "        return \x7b",
  "            f.metadata.get(\"wire_name\", f.name): _encode(getattr(value, f.name))",
  "            for f in dataclasses.fields(value)",
  "            if getattr(value, f.name) is not None and not f.metadata.get(\"read_only\")",
  "        \x7d",
  "    if isinstance(value, list):",
  "        return [_encode(v) for v in value]",
  "    if isinstance(value, dict):",
  "        return \x7bk: _encode(v) for k, v in value.items()\x7d",
  "    return value"
]

/-- The start of the class. -/
def classLines (clientName : String) (operations : Nat) : List String := [
  "",
  "",
  "class " ++ clientName ++ ":",
  "    \"\"\"" ++ toString operations ++ " operations.\"\"\"",
  "",
  "    def __init__(self, base_url: str, client: httpx.Client | None = None) -> None:",
  "        self._client = client or httpx.Client(base_url=base_url)",
  "",
  "    def _request(",
  "        self,",
  "        method: str,",
  "        path: str,",
  "        path_params: dict[str, Any],",
  "        query: dict[str, Any],",
  "        headers: dict[str, Any],",
  "        payload: Any = None,",
  "        media_type: str | None = None,",
  "    ) -> Any:",
  "        url = path.format(**path_params)",
  "        kwargs: dict[str, Any] = \x7b",
  "            \"params\": \x7bk: v for k, v in query.items() if v is not None\x7d,",
  "            \"headers\": \x7bk: str(v) for k, v in headers.items() if v is not None\x7d,",
  "        \x7d",
  "        if payload is not None:",
  "            if media_type and \"json\" not in media_type:",
  "                kwargs[\"data\"] = _encode(payload)",
  "            else:",
  "                kwargs[\"json\"] = _encode(payload)",
  "        response = self._client.request(method, url, **kwargs)",
  "        response.raise_for_status()",
  "        if not response.content:",
  "            return None",
  "        return response.json()"
]

/-! ## Methods -/

/-- The declaration of a parameter. -/
def parameterLine (parameter : ParameterView) : String :=
  "        " ++ parameter.identifier ++ ": " ++ parameter.annotations
    ++ (if parameter.required then "" else " = " ++ parameter.default) ++ ","

/-- An argument that gathers the parameters of a kind by their wire names. -/
def gatheredLine (name : String) (parameters : List ParameterView) : String :=
  let entry (parameter : ParameterView) : String :=
    doubleQuoted parameter.name ++ ": " ++ parameter.identifier ++ ", "
  "            " ++ name ++ "=\x7b " ++ String.join (parameters.map entry) ++ "\x7d,"

/-- The expression for a media type. -/
def mediaTypeText : Json → String
  | .str text => Text.wrapped text
  | other => other.written

/-- The arguments that send a payload. -/
def payloadLines (mediaType : Json) : Option ParameterView → List String
  | none => []
  | some payload => [
      "            payload=" ++ payload.identifier ++ ",",
      "            media_type=" ++ mediaTypeText mediaType ++ ","
    ]

/-- The method of an operation. -/
def operationLines (operation : OperationView) : List String :=
  ["", "    def " ++ operation.name ++ "(", "        self,"]
    ++ operation.parameters.map parameterLine
    ++ ["    ) -> " ++ operation.returnType ++ ":"]
    ++ (if operation.description.isEmpty then []
        else ["        " ++ docstring operation.description])
    ++ ["        return self._request(",
      "            " ++ doubleQuoted operation.method.toUpper ++ ",",
      "            " ++ doubleQuoted operation.path ++ ",",
      gatheredLine "path_params" (operation.ofKind .path),
      gatheredLine "query" (operation.ofKind .query),
      gatheredLine "headers" (operation.ofKind .header)]
    ++ payloadLines operation.mediaType operation.payload?
    ++ ["        )"]

/-! ## The module -/

/-- The text of a client. -/
def View.source (view : View) : String :=
  unlines (heading view.title view.version
    ++ view.types.flatMap typeLines
    ++ encoderLines
    ++ classLines view.clientName view.operations.length
    ++ view.operations.flatMap operationLines)

/-- The text of the client of a contract's types and operations. -/
def source (fragments : Fragments) (configuration : Configuration) : String :=
  (view fragments configuration).source

/-- The values of the contract that the text shows: the title and the defaults of
fields and parameters. -/
def shown (fragments : Fragments) : List Json :=
  let fieldDefaults (declaration : TypeDeclaration) : List Json :=
    match declaration.type with
    | .record _ fields _ => fields.map (·.default)
    | _ => []
  fragments.title.orElse (.str "API")
    :: fragments.types.flatMap fieldDefaults
    ++ fragments.operations.flatMap fun signature => signature.parameters.map (·.default)

/-- The text of a client; each integer that it shows keeps to the limit of digits. -/
def render (fragments : Fragments) (configuration : Configuration) : Except Fault String :=
  if (shown fragments).all fun value => (Literal.ofJson value).isWithinDigits then
    .ok (source fragments configuration)
  else .error .badValue

end TypedContract.Client
