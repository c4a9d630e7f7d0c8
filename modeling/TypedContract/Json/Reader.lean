/-
# TypedContract.Json.Reader -- reading JSON text

The usual grammar, with three additions: `NaN`, `Infinity` and `-Infinity` are
numbers, a key that is given again keeps its first place and its last value, and
integers are unbounded in size up to a limit of decimal digits.  An integer
beyond the limit is told apart from a text that is no JSON, because it is
reported differently.

JSON text can also be read as the flow style of YAML.  There a number with an
exponent needs a fraction and a sign of the exponent; what only looks like a
number is a text, and so are the three words.
-/
import TypedContract.Json.Basic
import TypedContract.Text.BaseDigit

namespace TypedContract.Json

set_option autoImplicit false

/-- Why a text has no JSON value. -/
inductive ReadError where
  /-- The text is no JSON. -/
  | notJson
  /-- An integer has too many digits. -/
  | oversizedInteger
  deriving DecidableEq

/-- How a text is read. -/
inductive Dialect where
  | json
  /-- The flow style of YAML. -/
  | flow
  deriving DecidableEq

namespace Reader

open Text

/-- Blanks between the words of a JSON text. -/
def isGap (c : Char) : Bool := c == ' ' || c == '\t' || c == '\n' || c == '\r'

/-- Drops the blanks in front. -/
def skip (text : List Char) : List Char := text.dropWhile isGap

/-- What follows an expected word. -/
def after? (word text : List Char) : Option (List Char) :=
  if word.isPrefixOf text then some (text.drop word.length) else none

/-- The digits in front and what follows them. -/
def digits (text : List Char) : List Char × List Char :=
  (text.takeWhile isDecimalDigit, text.dropWhile isDecimalDigit)

/-- The fraction after a point; a point without digits belongs to no number. -/
def fraction? : List Char → Option (List Char) × List Char
  | '.' :: rest =>
      match digits rest with
      | ([], _) => (none, '.' :: rest)
      | (run, after) => (some run, after)
  | text => (none, text)

/-- The exponent after its mark; a mark without digits belongs to no number. -/
def exponent? : List Char → Option Int × List Char
  | c :: rest =>
      if c == 'e' || c == 'E' then
        let (negative, tail) := exponentSign rest
        match digits tail with
        | ([], _) => (none, c :: rest)
        | (run, after) =>
            let size : Int := ofDigits 10 run
            (some (if negative then -size else size), after)
      else (none, c :: rest)
  | [] => (none, [])

/-- The digits before the point: a zero alone or digits that start with no zero. -/
def whole? (text : List Char) : Option (List Char × List Char) :=
  match digits text with
  | ([], _) => none
  | ('0' :: _, _) => some (['0'], text.drop 1)
  | (run, after) => some (run, after)

/-- An exponent that follows its mark without a sign. -/
def isUnsigned : List Char → Bool
  | _ :: c :: _ => c != '+' && c != '-'
  | _ => true

/-- A number after its sign. -/
def number? (dialect : Dialect) (negative : Bool) (text : List Char) :
    Except ReadError (Json × List Char) :=
  match whole? text with
  | none => .error .notJson
  | some (whole, afterWhole) =>
      let (fraction, afterFraction) := fraction? afterWhole
      let (exponent, after) := exponent? afterFraction
      -- to YAML an exponent without a point before it or a sign in it makes a text
      if dialect == .flow && exponent.isSome && (fraction.isNone || isUnsigned afterFraction) then
        let written := text.take (text.length - after.length)
        .ok (.str (String.ofList (if negative then '-' :: written else written)), after)
      else if fraction.isSome || exponent.isSome then
        let places := fraction.getD []
        .ok (.double (.ofDecimal negative (ofDigits 10 (whole ++ places))
          (exponent.getD 0 - places.length)), after)
      else if whole.length > digitLimit then .error .oversizedInteger
      else
        let size : Int := ofDigits 10 whole
        .ok (.int (if negative then -size else size), after)

/-- A code point given by four hexadecimal digits. -/
def unit? : List Char → Option (Nat × List Char)
  | a :: b :: c :: d :: rest => (hex? [a, b, c, d]).map (·, rest)
  | _ => none

/-- The character that one or two code units after an escape mark stand for.  A
surrogate without its partner stands for the replacement character. -/
def escapedUnit? (text : List Char) : Option (Char × List Char) := do
  let (high, rest) ← unit? text
  if 0xD800 ≤ high && high < 0xDC00 then
    match rest with
    | '\\' :: 'u' :: tail =>
        match unit? tail with
        | some (low, after) =>
            if 0xDC00 ≤ low && low < 0xE000 then
              return (Char.ofNat (0x10000 + (high - 0xD800) * 0x400 + (low - 0xDC00)), after)
            else return ('\ufffd', rest)
        | none => return ('\ufffd', rest)
    | _ => return ('\ufffd', rest)
  else if 0xDC00 ≤ high && high < 0xE000 then return ('\ufffd', rest)
  else return (Char.ofNat high, rest)

/-- The character that a letter after a backslash stands for. -/
def letter? : Char → Option Char
  | '"' => some '"'
  | '\\' => some '\\'
  | '/' => some '/'
  | 'b' => some '\x08'
  | 'f' => some '\x0c'
  | 'n' => some '\n'
  | 'r' => some '\r'
  | 't' => some '\t'
  | _ => none

/-- The characters of a text after its opening quote, put in front of those of
`read`, which is reversed; the first argument bounds the number of characters. -/
def characters? (bound : Nat) (read : List Char) (text : List Char) :
    Except ReadError (String × List Char) :=
  match bound, text with
  | _, '"' :: rest => .ok (String.ofList read.reverse, rest)
  | bound + 1, '\\' :: 'u' :: rest =>
      match escapedUnit? rest with
      | some (c, after) => characters? bound (c :: read) after
      | none => .error .notJson
  | bound + 1, '\\' :: c :: rest =>
      match letter? c with
      | some meant => characters? bound (meant :: read) rest
      | none => .error .notJson
  | bound + 1, c :: rest =>
      if c.toNat < 0x20 || c == '\\' then .error .notJson
      else characters? bound (c :: read) rest
  | _, _ => .error .notJson

/-- A quoted text. -/
def text? : List Char → Except ReadError (String × List Char)
  | '"' :: rest => characters? rest.length [] rest
  | _ => .error .notJson

/-- The words that are values. -/
def words : Dialect → List (List Char × Json)
  | .json => [
      ("null".toList, .null), ("true".toList, .bool true), ("false".toList, .bool false),
      ("NaN".toList, .double .nan), ("Infinity".toList, .double (.infinite false)),
      ("-Infinity".toList, .double (.infinite true))
    ]
  | .flow => [
      ("null".toList, .null), ("true".toList, .bool true), ("false".toList, .bool false),
      ("NaN".toList, .str "NaN"), ("Infinity".toList, .str "Infinity"),
      ("-Infinity".toList, .str "-Infinity")
    ]

/-- A word or a number. -/
def scalar? (dialect : Dialect) (text : List Char) : Except ReadError (Json × List Char) :=
  match (words dialect).findSome? fun (word, value) => (after? word text).map (value, ·) with
  | some found => .ok found
  | none =>
      match text with
      | '-' :: rest => number? dialect true rest
      | _ => number? dialect false text

mutual

/-- A value at the start of the text; the first argument bounds the depth of the
recursion. -/
def value? (dialect : Dialect) : Nat → List Char → Except ReadError (Json × List Char)
  | 0, _ => .error .notJson
  | bound + 1, text =>
      match text with
      | '"' :: _ => do
          let (content, after) ← text? text
          return (.str content, after)
      | '[' :: rest =>
          match skip rest with
          | ']' :: after => .ok (.list [], after)
          | start => do
              let (items, after) ← items? dialect bound start
              return (.list items, after)
      | '\x7b' :: rest =>
          match skip rest with
          | '\x7d' :: after => .ok (.object [], after)
          | start => do
              let (entries, after) ← entries? dialect bound start
              return (.object (assignAll entries), after)
      | _ => scalar? dialect text

/-- The items of a list up to its end. -/
def items? (dialect : Dialect) : Nat → List Char → Except ReadError (List Json × List Char)
  | 0, _ => .error .notJson
  | bound + 1, text => do
      let (item, after) ← value? dialect bound text
      match skip after with
      | ',' :: rest => do
          let (items, after) ← items? dialect bound (skip rest)
          return (item :: items, after)
      | ']' :: rest => return ([item], rest)
      | _ => throw .notJson

/-- The entries of an object up to its end. -/
def entries? (dialect : Dialect) :
    Nat → List Char → Except ReadError (List (String × Json) × List Char)
  | 0, _ => .error .notJson
  | bound + 1, text => do
      let (key, afterKey) ← text? text
      match skip afterKey with
      | ':' :: rest => do
          let (value, after) ← value? dialect bound (skip rest)
          match skip after with
          | ',' :: rest => do
              let (entries, after) ← entries? dialect bound (skip rest)
              return ((key, value) :: entries, after)
          | '\x7d' :: rest => return ([(key, value)], rest)
          | _ => throw .notJson
      | _ => throw .notJson

end

end Reader

/-- The value of a JSON text in a dialect. -/
def ofTextIn (dialect : Dialect) (text : List Char) : Except ReadError Json := do
  let chars := Reader.skip text
  let (value, after) ← Reader.value? dialect (2 * chars.length + 2) chars
  if (Reader.skip after).isEmpty then return value else throw .notJson

/-- The value of a JSON text. -/
def ofText (text : String) : Except ReadError Json := ofTextIn .json text.toList

/-- A character that may stand in a YAML text without quotes. -/
def isFlowChar (c : Char) : Bool :=
  c == '\n' || c == '\r' || (0x20 ≤ c.toNat && c.toNat ≤ 0x7e) || c.toNat == 0x85
    || (0xa0 ≤ c.toNat && c.toNat ≤ 0xfffd) || 0x10000 ≤ c.toNat

/-- The value of a JSON text that is read as YAML; a text without any is null, and a
byte order mark in front says nothing. -/
def ofFlowText (text : String) : Except ReadError Json :=
  let chars := match text.toList with
    | '\ufeff' :: rest => rest
    | chars => chars
  if !chars.all isFlowChar then .error .notJson
  else if (Reader.skip chars).isEmpty then .ok .null
  else ofTextIn .flow chars

end TypedContract.Json
