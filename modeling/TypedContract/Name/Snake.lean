/-
# TypedContract.Name.Snake -- names in snake case and identifiers

A name of a contract is split where its letter case changes: first before the
last capital of a run of capitals that a small letter follows, then between a
small letter or a digit and a capital.  In lower case, with the separators turned
to single underscores and all else removed, the result consists of the characters
`a-z0-9_` and starts and ends with no underscore.  To be an identifier of the client's
language, a name that starts with a digit gets an underscore in front and a keyword one at
the end.
-/
import TypedContract.Text.Case
import TypedContract.Text.Ranges

namespace TypedContract.Name

set_option autoImplicit false

open Text

/-- A capital ASCII letter. -/
def isCapital (c : Char) : Bool := 'A' ≤ c && c ≤ 'Z'

/-- A small ASCII letter. -/
def isSmall (c : Char) : Bool := 'a' ≤ c && c ≤ 'z'

/-- Splits a run of capitals from the capitalised word that follows it. -/
def splitRuns : List Char → List Char
  | a :: b :: c :: rest =>
      if isCapital a && isCapital b && isSmall c then a :: '_' :: splitRuns (b :: c :: rest)
      else a :: splitRuns (b :: c :: rest)
  | text => text

/-- Splits a small letter or a decimal digit from the capital that follows it. -/
def splitWords : List Char → List Char
  | a :: b :: rest =>
      if (isSmall a || isDecimal a) && isCapital b then a :: '_' :: splitWords (b :: rest)
      else a :: splitWords (b :: rest)
  | text => text

/-- The name in lower case with underscores where its letter case changes. -/
def snakeChars (name : List Char) : List Char := lower (splitWords (splitRuns name))

/-- Separators of words. -/
def isSeparator (c : Char) : Bool := c == '.' || c == '-' || isBlank c

/-- The characters that a sanitised name is made of. -/
def isPlain (c : Char) : Bool := isSmall c || isDecimalAscii c || c == '_'
where
  /-- An ASCII digit. -/
  isDecimalAscii (c : Char) : Bool := '0' ≤ c && c ≤ '9'

/-- Runs of underscores become single ones. -/
def squeeze : List Char → List Char
  | '_' :: '_' :: rest => squeeze ('_' :: rest)
  | c :: rest => c :: squeeze rest
  | [] => []

/-- The characters of a sanitised name. -/
def sanitizeChars (name : List Char) : List Char :=
  let marked := (snakeChars name).map fun c => if isSeparator c then '_' else c
  trimBoth (· == '_') (squeeze (marked.filter isPlain))

/-- The name in snake case, as it is split. -/
def snake (name : String) : String := String.ofList (snakeChars name.toList)

/-- The name made of words of small letters and digits joined by underscores. -/
def sanitize (name : String) : String := String.ofList (sanitizeChars name.toList)

/-- A word with a capital first letter. -/
def capitalize : List Char → List Char
  | [] => []
  | c :: rest => c.toUpper :: rest

/-- The words of the name, each capitalised, run together. -/
def pascal (name : String) : String :=
  String.ofList ((splitOnChar (· == '_') (sanitizeChars name.toList)).flatMap capitalize)

/-- The canonical name of a parameter or field; a name without any usable
character is called `param`. -/
def display (raw : String) : String :=
  match sanitizeChars raw.toList with
  | [] => "param"
  | chars => String.ofList chars

/-! ## Identifiers -/

/-- The keywords of the client's language. -/
def keywords : List String := [
  "False", "None", "True", "and", "as", "assert", "async", "await", "break", "class",
  "continue", "def", "del", "elif", "else", "except", "finally", "for", "from", "global",
  "if", "import", "in", "is", "lambda", "nonlocal", "not", "or", "pass", "raise", "return",
  "try", "while", "with", "yield"
]

/-- Puts an underscore in front of a leading digit. -/
def guardDigit (name : String) : String :=
  match name.toList with
  | c :: _ => if Text.isDigit c then "_" ++ name else name
  | [] => name

/-- The identifier of a name. -/
def identifier (name : String) : String :=
  let guarded := guardDigit name
  if keywords.contains guarded then guarded ++ "_" else guarded

end TypedContract.Name
