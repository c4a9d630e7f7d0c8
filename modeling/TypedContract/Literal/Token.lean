/-
# TypedContract.Literal.Token -- the words of a literal expression

A literal expression is cut into numbers, constants, texts, bytes, brackets and
a few marks.  Blanks and comments may stand between any two words; a line ends
the expression unless a bracket is open, and after it only blank lines and
comments may follow.  At most `nestingLimit` brackets are open at once, and a
decimal integer keeps to the limit of digits.
-/
import TypedContract.Literal.Json
import TypedContract.Text.BaseDigit
import TypedContract.Text.CharacterName.Basic

namespace TypedContract.Literal

set_option autoImplicit false

/-- The three kinds of brackets. -/
inductive Bracket where
  | round
  | square
  | curly
  deriving DecidableEq

/-- A word of a literal expression. -/
inductive Token where
  /-- A number without a sign. -/
  | number (value : Literal)
  /-- A named constant or the ellipsis. -/
  | constant (value : Literal)
  /-- A piece of text. -/
  | textPiece (content : List Char)
  /-- A piece of a byte string. -/
  | bytePiece (content : List UInt8)
  /-- The name of the function that makes the empty set. -/
  | setName
  | plus
  | minus
  | comma
  | colon
  | opening (bracket : Bracket)
  | closing (bracket : Bracket)

namespace Token

open Text

/-- The most brackets that may be open at once. -/
def nestingLimit : Nat := 200

/-! ## Numbers -/

/-- The longest run of digits, each with at most one underscore before it, and
what follows. -/
def digitRun (base : Nat) : List Char → List Char × List Char
  | '_' :: c :: rest =>
      if isDigitOf base c then
        let (digits, after) := digitRun base rest
        (c :: digits, after)
      else ([], '_' :: c :: rest)
  | c :: rest =>
      if isDigitOf base c then
        let (digits, after) := digitRun base rest
        (c :: digits, after)
      else ([], c :: rest)
  | [] => ([], [])

/-- A run of decimal digits that starts with a digit. -/
def decimalRun : List Char → List Char × List Char
  | c :: rest => if isDecimalDigit c then digitRun 10 (c :: rest) else ([], c :: rest)
  | [] => ([], [])

/-- A character that would continue a name or a number. -/
def continuesWord (c : Char) : Bool := c.isAlphanum || c == '_' || 0x80 ≤ c.toNat

/-- The text does not go on with a character of a word. -/
def atWordEnd : List Char → Bool
  | c :: _ => !continuesWord c
  | [] => true

/-- The point and the digits after it. -/
def fraction? : List Char → Option (List Char) × List Char
  | '.' :: rest =>
      let (digits, after) := decimalRun rest
      (some digits, after)
  | text => (none, text)

/-- The exponent after its mark. -/
def exponent? : List Char → Option Int × List Char
  | c :: rest =>
      if c == 'e' || c == 'E' then
        let (negative, digits) := exponentSign rest
        match decimalRun digits with
        | ([], _) => (none, c :: rest)
        | (run, after) =>
            let size : Int := ofDigits 10 run
            (some (if negative then -size else size), after)
      else (none, c :: rest)
  | [] => (none, [])

/-- The double that digits, a fraction and an exponent denote. -/
def doubleOf (whole fraction : List Char) (exponent : Int) : Double :=
  .ofDecimal false (ofDigits 10 (whole ++ fraction)) (exponent - fraction.length)

/-- A decimal integer: zeros alone, or digits that start with no zero and keep to
the limit. -/
def integer? (digits : List Char) : Option Literal :=
  if digits.all (· == '0') then some (.int 0)
  else if digits.head? == some '0' || digits.length > digitLimit then none
  else some (.int (ofDigits 10 digits))

/-- The mark of an imaginary number. -/
def imaginaryMark : List Char → Bool × List Char
  | c :: rest => if c == 'j' || c == 'J' then (true, rest) else (false, c :: rest)
  | [] => (false, [])

/-- A decimal number at the start of the text. -/
def decimal? (text : List Char) : Option (Literal × List Char) :=
  let (whole, afterWhole) := decimalRun text
  let (fraction, afterFraction) := fraction? afterWhole
  let (exponent, afterExponent) := exponent? afterFraction
  let (imaginary, after) := imaginaryMark afterExponent
  if !atWordEnd after then none
  else if imaginary then
    some (.complex (.zero false) (doubleOf whole (fraction.getD []) (exponent.getD 0)), after)
  else if fraction.isSome || exponent.isSome then
    some (.double (doubleOf whole (fraction.getD []) (exponent.getD 0)), after)
  else (integer? whole).map (·, after)

/-- Digits of a base after its mark. -/
def based? (base : Nat) (text : List Char) : Option (Literal × List Char) :=
  match digitRun base text with
  | ([], _) => none
  | (digits, after) => if atWordEnd after then some (.int (ofDigits base digits), after) else none

/-- A number at the start of the text. -/
def number? : List Char → Option (Literal × List Char)
  | '0' :: c :: rest =>
      if c == 'x' || c == 'X' then based? 16 rest
      else if c == 'o' || c == 'O' then based? 8 rest
      else if c == 'b' || c == 'B' then based? 2 rest
      else decimal? ('0' :: c :: rest)
  | text => decimal? text

/-! ## Texts and bytes -/

/-- What stands before the closing quote and what follows it; a backslash keeps
the next character from closing. -/
def body? (quote : Char) (triple : Bool) : List Char → Option (List Char × List Char)
  | '\\' :: c :: rest =>
      (body? quote triple rest).map fun (text, after) => ('\\' :: c :: text, after)
  | a :: b :: c :: rest =>
      if a == quote then
        if !triple then some ([], b :: c :: rest)
        else if b == quote && c == quote then some ([], rest)
        else (body? quote triple (b :: c :: rest)).map fun (text, after) => (a :: text, after)
      -- only a text in three quotes holds a line feed
      else if a == '\n' && !triple then none
      else (body? quote triple (b :: c :: rest)).map fun (text, after) => (a :: text, after)
  | a :: rest =>
      if triple then none
      else if a == quote then some ([], rest)
      else if a == '\n' then none
      else (body? quote triple rest).map fun (text, after) => (a :: text, after)
  | [] => none

/-- The character with a code point, if it is one. -/
def charOf? (code : Nat) : Option Char :=
  if code.isValidChar then some (Char.ofNat code) else none

/-- An octal digit. -/
def isOctal (c : Char) : Bool := '0' ≤ c && c ≤ '7'

/-- The characters that one letter after a backslash stands for. -/
def simpleEscape? : Char → Option Char
  | '\\' => some '\\'
  | '\'' => some '\''
  | '"' => some '"'
  | 'a' => some '\x07'
  | 'b' => some '\x08'
  | 'f' => some '\x0c'
  | 'n' => some '\n'
  | 'r' => some '\r'
  | 't' => some '\t'
  | 'v' => some '\x0b'
  | _ => none

/-- Replaces the octal escape whose digits the text starts with: its value and
what follows. -/
def octal? : List Char → Option (Nat × List Char)
  | a :: b :: c :: rest =>
      if isOctal a && isOctal b && isOctal c then some (ofDigits 8 [a, b, c], rest)
      else if isOctal a && isOctal b then some (ofDigits 8 [a, b], c :: rest)
      else if isOctal a then some (ofDigits 8 [a], b :: c :: rest)
      else none
  | [a, b] =>
      if isOctal a && isOctal b then some (ofDigits 8 [a, b], [])
      else if isOctal a then some (ofDigits 8 [a], [b])
      else none
  | [a] => if isOctal a then some (ofDigits 8 [a], []) else none
  | [] => none

/-- One escape after its backslash: the characters it stands for and what
follows.  An escape of no known form stands for itself. -/
def escape? : List Char → Option (List Char × List Char)
  | '\n' :: rest => some ([], rest)
  | 'x' :: a :: b :: rest => do
      let c ← charOf? (← hex? [a, b])
      return ([c], rest)
  | 'u' :: a :: b :: c :: d :: rest => do
      let c ← charOf? (← hex? [a, b, c, d])
      return ([c], rest)
  | 'U' :: a :: b :: c :: d :: e :: f :: g :: h :: rest => do
      let c ← charOf? (← hex? [a, b, c, d, e, f, g, h])
      return ([c], rest)
  | 'N' :: '\x7b' :: rest => do
      let c ← charOf? (← CharacterName.codePoint? (rest.takeWhile (· != '\x7d')))
      return ([c], ← (rest.dropWhile (· != '\x7d')).tail?)
  | c :: rest =>
      -- the letters of the forms above begin no other escape
      if c == 'x' || c == 'u' || c == 'U' || c == 'N' then none
      else match simpleEscape? c with
        | some meant => some ([meant], rest)
        | none =>
            match octal? (c :: rest) with
            | some (code, after) => (charOf? code).map fun meant => ([meant], after)
            | none => some (['\\', c], rest)
  | [] => none

/-- The characters of a text with its escapes replaced; the first argument bounds
the number of characters. -/
def unescape? : Nat → List Char → Option (List Char)
  | _, [] => some []
  | 0, _ :: _ => none
  | bound + 1, '\\' :: rest => do
      let (meant, after) ← escape? rest
      return meant ++ (← unescape? bound after)
  | bound + 1, c :: rest => do return c :: (← unescape? bound rest)

/-- An ASCII character as a byte. -/
def byteOf? (c : Char) : Option UInt8 :=
  if c.toNat < 0x80 then some c.toNat.toUInt8 else none

/-- One escape of a byte string after its backslash. -/
def byteEscape? : List Char → Option (List UInt8 × List Char)
  | '\n' :: rest => some ([], rest)
  | 'x' :: a :: b :: rest => (hex? [a, b]).map fun code => ([code.toUInt8], rest)
  | c :: rest =>
      if c == 'x' then none
      else match simpleEscape? c with
        | some meant => (byteOf? meant).map fun b => ([b], rest)
        | none =>
            match octal? (c :: rest) with
            | some (code, after) => some ([code.toUInt8], after)
            | none => (byteOf? c).map fun b => (['\\'.toNat.toUInt8, b], rest)
  | [] => none

/-- The bytes of a byte string with its escapes replaced; the first argument
bounds the number of characters. -/
def unescapeBytes? : Nat → List Char → Option (List UInt8)
  | _, [] => some []
  | 0, _ :: _ => none
  | bound + 1, '\\' :: rest => do
      let (meant, after) ← byteEscape? rest
      return meant ++ (← unescapeBytes? bound after)
  | bound + 1, c :: rest => do return (← byteOf? c) :: (← unescapeBytes? bound rest)

/-- The text or byte string whose body starts after its opening quotes. -/
def content? (raw binary : Bool) (body : List Char) : Option Token :=
  if binary then
    (if raw then body.mapM byteOf? else unescapeBytes? body.length body).map .bytePiece
  else (if raw then some body else unescape? body.length body).map .textPiece

/-- A quoted token after its opening quote character. -/
def quoted? (raw binary : Bool) (quote : Char) (rest : List Char) :
    Option (Token × List Char) := do
  let (triple, start) := match rest with
    | a :: b :: after => if a == quote && b == quote then (true, after) else (false, rest)
    | _ => (false, rest)
  let (body, after) ← body? quote triple start
  return (← content? raw binary body, after)

/-! ## Words -/

/-- The flags (raw, bytes) that letters before a quote mean. -/
def quoteFlags? (letters : List Char) : Option (Bool × Bool) :=
  match letters.map Char.toLower with
  | [] => some (false, false)
  | ['u'] => some (false, false)
  | ['r'] => some (true, false)
  | ['b'] => some (false, true)
  | ['b', 'r'] => some (true, true)
  | ['r', 'b'] => some (true, true)
  | _ => none

/-- A name of the language that can stand in a literal. -/
def word? (name : List Char) : Option Token :=
  if name == "None".toList then some (.constant .null)
  else if name == "True".toList then some (.constant (.bool true))
  else if name == "False".toList then some (.constant (.bool false))
  else if name == "set".toList then some .setName
  else none

/-- A name, or the letters before a quote and the text they introduce. -/
def named? (text : List Char) : Option (Token × List Char) :=
  let name := text.takeWhile continuesWord
  match text.dropWhile continuesWord with
  | c :: rest =>
      if c == '\'' || c == '"' then do
        let (raw, binary) ← quoteFlags? name
        quoted? raw binary c rest
      else (word? name).map (·, c :: rest)
  | [] => (word? name).map (·, [])

/-- The mark that a character is on its own. -/
def mark? : Char → Option Token
  | '+' => some .plus
  | '-' => some .minus
  | ',' => some .comma
  | ':' => some .colon
  | '(' => some (.opening .round)
  | ')' => some (.closing .round)
  | '[' => some (.opening .square)
  | ']' => some (.closing .square)
  | '\x7b' => some (.opening .curly)
  | '\x7d' => some (.closing .curly)
  | _ => none

/-- A point starts the ellipsis or a number. -/
def pointed? : List Char → Option (Token × List Char)
  | '.' :: '.' :: '.' :: rest => some (.constant .ellipsis, rest)
  | '.' :: c :: rest =>
      if isDecimalDigit c then
        (decimal? ('.' :: c :: rest)).map fun (value, after) => (.number value, after)
      else none
  | _ => none

/-- The first token of a text that starts with no blank. -/
def next? : List Char → Option (Token × List Char)
  | [] => none
  | c :: rest =>
      match mark? c with
      | some mark => some (mark, rest)
      | none =>
          if c == '.' then pointed? (c :: rest)
          else if isDecimalDigit c then
            (number? (c :: rest)).map fun (value, after) => (.number value, after)
          else if c == '\'' || c == '"' then quoted? false false c rest
          else if c.isAlpha || c == '_' then named? (c :: rest)
          else none

/-! ## Lines -/

/-- A blank between words. -/
def isGap (c : Char) : Bool := c == ' ' || c == '\t' || c == '\x0c'

/-- The width of the indentation that starts a line and what follows it.  A form
feed starts the count anew; a line that goes on after a backslash keeps the
indentation before its first backslash. -/
def indentation (width held : Nat) : List Char → Option (Nat × List Char)
  | ' ' :: rest => indentation (width + 1) held rest
  | '\t' :: rest => indentation ((width / 8 + 1) * 8) held rest
  | '\x0c' :: rest => indentation 0 held rest
  | '\\' :: '\n' :: c :: rest =>
      indentation width (if held == 0 then width else held) (c :: rest)
  | '\\' :: _ => none
  | text => some (if held == 0 then width else held, text)

/-- Skips blank lines and comment lines; the first argument bounds their number.
Gives the indentation of the first other line and that line, or nothing when the
text ends before. -/
def firstLine? : Nat → List Char → Option (Nat × List Char)
  | 0, _ => none
  | bound + 1, text => do
      let (width, line) ← indentation 0 0 text
      match line with
      | '#' :: _ =>
          match line.dropWhile (· != '\n') with
          | _ :: rest => firstLine? bound rest
          | [] => some (0, [])
      | '\n' :: rest => firstLine? bound rest
      | _ => some (width, line)

/-- The text holds nothing but blank lines and comments. -/
def onlyBlankLines (text : List Char) : Bool :=
  match firstLine? (text.length + 1) text with
  | some (_, []) => true
  | _ => false

/-- The number of open brackets after a token. -/
def depthAfter? (depth : Nat) : Token → Option Nat
  | .opening _ => if depth < nestingLimit then some (depth + 1) else none
  | .closing _ => if depth = 0 then none else some (depth - 1)
  | _ => some depth

/-- The tokens of the text with `depth` brackets open; the first argument bounds
the number of characters. -/
def scan? : Nat → Nat → List Char → Option (List Token)
  | _, _, [] => some []
  | 0, _, _ :: _ => none
  | bound + 1, depth, c :: rest =>
      if isGap c then scan? bound depth rest
      else if c == '#' then scan? bound depth (rest.dropWhile (· != '\n'))
      else if c == '\n' then
        -- outside brackets the expression ends with its line
        if depth = 0 then (if onlyBlankLines rest then some [] else none)
        else scan? bound depth rest
      else if c == '\\' then
        match rest with
        | '\n' :: d :: after => scan? bound depth (d :: after)
        | _ => none
      else do
        let (token, after) ← next? (c :: rest)
        let depth ← depthAfter? depth token
        return token :: (← scan? bound depth after)

/-- Line ends in one form: a carriage return, alone or before a line feed, is a
line feed. -/
def unifyLines : List Char → List Char
  | '\r' :: '\n' :: rest => '\n' :: unifyLines rest
  | '\r' :: rest => '\n' :: unifyLines rest
  | c :: rest => c :: unifyLines rest
  | [] => []

/-- The tokens of a whole text. -/
def ofText? (text : List Char) : Option (List Token) := do
  if text.contains '\x00' then none
  let lines := unifyLines text
  let (width, line) ← firstLine? (lines.length + 1) lines
  if width != 0 then none
  scan? (line.length + 1) 0 line

end Token

end TypedContract.Literal
