/-
# TypedContract.Literal.Basic -- the values a literal expression can denote

A literal expression of the client's language denotes a JSON value or one of a
few values without a JSON counterpart: tuples, sets, byte strings, complex
numbers, the ellipsis, and mappings whose keys are not all texts.  `written` is
the standard text of a value; `Json.written` is that text for a JSON value.
-/
import TypedContract.Json.Basic
import TypedContract.Double.Shortest
import TypedContract.Text.Quoted
import TypedContract.Text.Ranges

namespace TypedContract

set_option autoImplicit false

/-- The value of a literal expression. -/
inductive Literal where
  | null
  | bool (value : Bool)
  | int (value : Int)
  | double (value : Double)
  | str (value : String)
  | bytes (value : List UInt8)
  | complex (real imaginary : Double)
  | ellipsis
  | list (items : List Literal)
  | tuple (items : List Literal)
  | set (items : List Literal)
  | mapping (entries : List (Literal × Literal))

namespace Literal

instance : Inhabited Literal := ⟨.null⟩

mutual

/-- A JSON value as a literal value. -/
def ofJson : Json → Literal
  | .null => .null
  | .bool value => .bool value
  | .int value => .int value
  | .double value => .double value
  | .str value => .str value
  | .list items => .list (ofItems items)
  | .object entries => .mapping (ofEntries entries)

/-- A list of JSON values as literal values. -/
def ofItems : List Json → List Literal
  | [] => []
  | item :: rest => ofJson item :: ofItems rest

/-- The entries of a JSON object as entries of a mapping. -/
def ofEntries : List (String × Json) → List (Literal × Literal)
  | [] => []
  | (key, value) :: rest => (.str key, ofJson value) :: ofEntries rest

end

/-- One byte between quotes. -/
def escapeByte (quote : Char) (b : UInt8) : List Char :=
  let c := Char.ofNat b.toNat
  if c == quote || c == '\\' then ['\\', c]
  else if c == '\n' then ['\\', 'n']
  else if c == '\r' then ['\\', 'r']
  else if c == '\t' then ['\\', 't']
  else if b < 0x20 || 0x7f ≤ b then Text.hexEscape b.toNat
  else [c]

/-- A byte string in its written form. -/
def writtenBytes (value : List UInt8) : List Char :=
  let quote := Text.quoteFor (value.map fun b => Char.ofNat b.toNat)
  'b' :: quote :: value.flatMap (escapeByte quote) ++ [quote]

/-- A complex number in its written form: the imaginary part alone when the
real part is a positive zero, both parts in parentheses otherwise. -/
def writtenComplex (real imaginary : Double) : List Char :=
  let im := imaginary.textWith .part
  if real = .zero false then im ++ ['j']
  else
    '(' :: real.textWith .part
      ++ (if im.head? == some '-' then im else '+' :: im) ++ ['j', ')']

/-- A constant of the language. -/
def writtenBool (value : Bool) : List Char := (if value then "True" else "False").toList

/-- An integer in decimal digits. -/
def writtenInt (value : Int) : List Char :=
  (if value < 0 then ['-'] else []) ++ Nat.toDigits 10 value.natAbs

/-- The separator of items and entries. -/
def comma : List Char := [',', ' ']

mutual

/-- The standard text of a value. -/
def written : Literal → List Char
  | .null => "None".toList
  | .bool value => writtenBool value
  | .int value => writtenInt value
  | .double value => value.textWith .plain
  | .str value => Text.quoted value.toList
  | .bytes value => writtenBytes value
  | .complex real imaginary => writtenComplex real imaginary
  | .ellipsis => "Ellipsis".toList
  | .list items => '[' :: Text.joinWith comma (writtenItems items) ++ [']']
  | .tuple [] => ['(', ')']
  | .tuple [item] => '(' :: written item ++ [',', ')']
  | .tuple items => '(' :: Text.joinWith comma (writtenItems items) ++ [')']
  | .set [] => "set()".toList
  | .set items => '\x7b' :: Text.joinWith comma (writtenItems items) ++ ['\x7d']
  | .mapping entries => '\x7b' :: Text.joinWith comma (writtenEntries entries) ++ ['\x7d']

/-- The standard texts of the items. -/
def writtenItems : List Literal → List (List Char)
  | [] => []
  | item :: rest => written item :: writtenItems rest

/-- The standard texts of the entries. -/
def writtenEntries : List (Literal × Literal) → List (List Char)
  | [] => []
  | (key, value) :: rest => (written key ++ ':' :: ' ' :: written value) :: writtenEntries rest

end

/-- The name of a value's type. -/
def typeName : Literal → String
  | .null => "NoneType"
  | .bool _ => "bool"
  | .int _ => "int"
  | .double _ => "float"
  | .str _ => "str"
  | .bytes _ => "bytes"
  | .complex _ _ => "complex"
  | .ellipsis => "ellipsis"
  | .list _ => "list"
  | .tuple _ => "tuple"
  | .set _ => "set"
  | .mapping _ => "dict"

end Literal

namespace Json

/-- The standard literal text of a JSON value. -/
def written (value : Json) : String := String.ofList (Literal.ofJson value).written

/-- The value in running text: a text as it is, anything else as a literal. -/
def plain : Json → String
  | .str value => value
  | value => value.written

end Json

end TypedContract
