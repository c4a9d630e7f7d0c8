/-
# TypedContract.Json.Writer -- writing JSON text

Texts are written in ASCII: whatever is not printable ASCII becomes an escape of
one or two UTF-16 code units.  `render` lays a value out over lines with an
indentation of two blanks for each level, `compact` writes it on one line.
Doubles have their shortest text, and numbers that are not finite the words
`NaN`, `Infinity` and `-Infinity`.
-/
import TypedContract.Literal.Json

namespace TypedContract.Json

set_option autoImplicit false

namespace Writer

/-- The escape of a UTF-16 code unit. -/
def unitEscape (code : Nat) : List Char := '\\' :: 'u' :: Text.hexDigits 4 code

/-- One character of a quoted text. -/
def escapeChar (c : Char) : List Char :=
  if c == '"' || c == '\\' then ['\\', c]
  else if c == '\n' then ['\\', 'n']
  else if c == '\r' then ['\\', 'r']
  else if c == '\t' then ['\\', 't']
  else if c == '\x08' then ['\\', 'b']
  else if c == '\x0c' then ['\\', 'f']
  else if 0x20 ≤ c.toNat && c.toNat < 0x7f then [c]
  else if c.toNat < 0x10000 then unitEscape c.toNat
  else
    unitEscape (0xD800 + (c.toNat - 0x10000) / 0x400)
      ++ unitEscape (0xDC00 + (c.toNat - 0x10000) % 0x400)

/-- A quoted text. -/
def quoted (text : String) : List Char := '"' :: text.toList.flatMap escapeChar ++ ['"']

/-- A double; numbers that are not finite have their words. -/
def number : Double → List Char
  | .nan => "NaN".toList
  | .infinite negative => (if negative then "-Infinity" else "Infinity").toList
  | value => value.textWith .plain

/-- The value of a constant, number or text. -/
def word : Bool → List Char
  | true => "true".toList
  | false => "false".toList

/-- A new line with the indentation of a level. -/
def newline (level : Nat) : List Char := '\n' :: List.replicate (2 * level) ' '

/-- The pieces of a collection, each on a line of its own, between its brackets. -/
def block (level : Nat) (opening closing : Char) (pieces : List (List Char)) : List Char :=
  match pieces with
  | [] => [opening, closing]
  | pieces =>
      opening :: newline (level + 1) ++ Text.joinWith (',' :: newline (level + 1)) pieces
        ++ newline level ++ [closing]

mutual

/-- The value laid out over lines, at a level of indentation. -/
def lines (level : Nat) : Json → List Char
  | .null => "null".toList
  | .bool value => word value
  | .int value => Literal.writtenInt value
  | .double value => number value
  | .str value => quoted value
  | .list items => block level '[' ']' (itemLines (level + 1) items)
  | .object entries => block level '\x7b' '\x7d' (entryLines (level + 1) entries)

/-- The items laid out at a level. -/
def itemLines (level : Nat) : List Json → List (List Char)
  | [] => []
  | item :: rest => lines level item :: itemLines level rest

/-- The entries laid out at a level. -/
def entryLines (level : Nat) : List (String × Json) → List (List Char)
  | [] => []
  | (key, value) :: rest =>
      (quoted key ++ ':' :: ' ' :: lines level value) :: entryLines level rest

end

mutual

/-- The value on one line, in front of what follows. -/
def flat (value : Json) (after : List Char) : List Char :=
  match value with
  | .null => "null".toList ++ after
  | .bool value => word value ++ after
  | .int value => Literal.writtenInt value ++ after
  | .double value => number value ++ after
  | .str value => quoted value ++ after
  | .list items => '[' :: flatItems items (']' :: after)
  | .object entries => '\x7b' :: flatEntries entries ('\x7d' :: after)

/-- The items on one line. -/
def flatItems : List Json → List Char → List Char
  | [], after => after
  | [item], after => flat item after
  | item :: rest, after => flat item (',' :: flatItems rest after)

/-- The entries on one line. -/
def flatEntries : List (String × Json) → List Char → List Char
  | [], after => after
  | [(key, value)], after => quoted key ++ ':' :: flat value after
  | (key, value) :: rest, after =>
      quoted key ++ ':' :: flat value (',' :: flatEntries rest after)

end

end Writer

/-- The value on one line. -/
def compact (value : Json) : String := String.ofList (Writer.flat value [])

/-- The value laid out over lines, when its integers keep to the limit of digits. -/
def render (value : Json) : Except Fault String :=
  if (Literal.ofJson value).isWithinDigits then .ok (String.ofList (Writer.lines 0 value))
  else .error .badValue

end TypedContract.Json

namespace TypedContract.Literal

set_option autoImplicit false

/-- The text of a mapping key as the key of an object. -/
def keyText : Literal → Except Fault String
  | .str value => .ok value
  | .null => .ok "null"
  | .bool value => .ok (String.ofList (Json.Writer.word value))
  | .int value => .ok (String.ofList (writtenInt value))
  | .double value => .ok (String.ofList (Json.Writer.number value))
  | _ => .error .unsuitable

mutual

/-- The JSON document of a literal value: tuples are lists, and keys that are
constants or numbers become texts. -/
def document : Literal → Except Fault Json
  | .null => .ok .null
  | .bool value => .ok (.bool value)
  | .int value => .ok (.int value)
  | .double value => .ok (.double value)
  | .str value => .ok (.str value)
  | .list items => do return .list (← documents items)
  | .tuple items => do return .list (← documents items)
  | .mapping entries => do return .object (← documentEntries entries)
  | _ => .error .unsuitable

/-- The documents of the items. -/
def documents : List Literal → Except Fault (List Json)
  | [] => .ok []
  | item :: rest => do
      let value ← document item
      return value :: (← documents rest)

/-- The entries of a document. -/
def documentEntries : List (Literal × Literal) → Except Fault (List (String × Json))
  | [] => .ok []
  | (key, item) :: rest => do
      let name ← keyText key
      let value ← document item
      return (name, value) :: (← documentEntries rest)

end

end TypedContract.Literal
