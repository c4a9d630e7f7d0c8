/-
# TypedContract.Literal.Json -- from literal values to JSON and to their text

`toJson` keeps what has a JSON counterpart: a tuple becomes a list, and sets,
bytes, complex numbers, the ellipsis, numbers that are not finite and keys that
are not texts are refused with the path of the value.  `encode` writes a value as
a literal expression and refuses the same values; it also stops at integers with
more digits than an integer's text may have, and so does a refusal that would have
to name such an integer.
-/
import TypedContract.Fault
import TypedContract.Text.BaseDigit

namespace TypedContract.Literal

set_option autoImplicit false

/-- The integer's text keeps to the limit of decimal digits. -/
def withinDigits (value : Int) : Bool := value.natAbs < Nat.pow 10 Text.digitLimit

mutual

/-- Every integer of the value keeps to the limit of decimal digits. -/
def isWithinDigits : Literal → Bool
  | .int value => withinDigits value
  | .list items => allWithinDigits items
  | .tuple items => allWithinDigits items
  | .set items => allWithinDigits items
  | .mapping entries => entriesWithinDigits entries
  | _ => true

/-- Every integer of the items keeps to the limit. -/
def allWithinDigits : List Literal → Bool
  | [] => true
  | item :: rest => isWithinDigits item && allWithinDigits rest

/-- Every integer of the entries keeps to the limit. -/
def entriesWithinDigits : List (Literal × Literal) → Bool
  | [] => true
  | (key, value) :: rest => isWithinDigits key && isWithinDigits value && entriesWithinDigits rest

end

/-- The fault of a refused value: the reason, unless it names a key with an integer
beyond the limit of digits, which has no text. -/
def refusal : Malformed → Fault
  | .keyNotText path key =>
      if key.isWithinDigits then .malformed (.keyNotText path key) else .badValue
  | why => .malformed why

mutual

/-- The JSON value of a literal value found at a path. -/
def toJsonAt (path : String) : Literal → Except Malformed Json
  | .null => .ok .null
  | .bool value => .ok (.bool value)
  | .int value => .ok (.int value)
  | .double value =>
      if value.isFinite then .ok (.double value) else .error (.noJsonNumber path value)
  | .str value => .ok (.str value)
  | .list items => do return .list (← itemsAt path 0 items)
  | .tuple items => do return .list (← itemsAt path 0 items)
  | .mapping entries => do return .object (← entriesAt path entries)
  | .set items => .error (.unsupported (some path) (.set items))
  | .bytes value => .error (.unsupported (some path) (.bytes value))
  | .complex real imaginary => .error (.unsupported (some path) (.complex real imaginary))
  | .ellipsis => .error (.unsupported (some path) .ellipsis)

/-- The JSON values of the items from a position on. -/
def itemsAt (path : String) (position : Nat) : List Literal → Except Malformed (List Json)
  | [] => .ok []
  | item :: rest => do
      let value ← toJsonAt (path ++ "[" ++ toString position ++ "]") item
      return value :: (← itemsAt path (position + 1) rest)

/-- The entries of a JSON object. -/
def entriesAt (path : String) :
    List (Literal × Literal) → Except Malformed (List (String × Json))
  | [] => .ok []
  | (.str key, item) :: rest => do
      let value ← toJsonAt (path ++ "." ++ key) item
      return (key, value) :: (← entriesAt path rest)
  | (key, _) :: _ => .error (.keyNotText (some path) key)

end

/-- The JSON value of a literal value. -/
def toJson (value : Literal) : Except Malformed Json := toJsonAt "$" value

mutual

/-- The literal expression of a value, as characters. -/
def encodeChars : Literal → Except Fault (List Char)
  | .int value => if withinDigits value then .ok (writtenInt value) else .error .badValue
  | .double value =>
      if value.isFinite then .ok (value.textWith .plain)
      else .error (.malformed (.noLiteralNumber value))
  | .list items => do return '[' :: Text.joinWith comma (← encodeItems items) ++ [']']
  | .tuple items => do return '[' :: Text.joinWith comma (← encodeItems items) ++ [']']
  | .mapping entries => do
      return '\x7b' :: Text.joinWith comma (← encodeEntries entries) ++ ['\x7d']
  | .null => .ok (written .null)
  | .bool value => .ok (writtenBool value)
  | .str value => .ok (Text.quoted value.toList)
  | value => .error (.malformed (.unsupported none value))

/-- The literal expressions of the items. -/
def encodeItems : List Literal → Except Fault (List (List Char))
  | [] => .ok []
  | item :: rest => do
      let text ← encodeChars item
      return text :: (← encodeItems rest)

/-- The literal expressions of the entries. -/
def encodeEntries : List (Literal × Literal) → Except Fault (List (List Char))
  | [] => .ok []
  | (.str key, item) :: rest => do
      let text ← encodeChars item
      return (Text.quoted key.toList ++ ':' :: ' ' :: text) :: (← encodeEntries rest)
  | (key, _) :: _ => .error (refusal (.keyNotText none key))

end

/-- The literal expression of a value. -/
def encode (value : Literal) : Except Fault String := do
  return String.ofList (← encodeChars value)

end TypedContract.Literal

namespace TypedContract.Json

/-- The literal expression of a JSON value. -/
def encode (value : Json) : Except Fault String := (Literal.ofJson value).encode

/-- The standard text of a value whose integers keep to the limit of digits. -/
def writtenWithin (value : Json) : Except Fault String :=
  if (Literal.ofJson value).isWithinDigits then .ok value.written else .error .badValue

/-- The plain text of a value whose integers keep to the limit of digits. -/
def plainWithin (value : Json) : Except Fault String :=
  if (Literal.ofJson value).isWithinDigits then .ok value.plain else .error .badValue

end TypedContract.Json
