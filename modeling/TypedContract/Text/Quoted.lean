/-
# TypedContract.Text.Quoted -- quoted text

A text is quoted with `'`, or with `"` when it holds a `'` and no `"`.  The
backslash, the chosen quote, line feed, carriage return and tab are escaped by a
backslash; any other unprintable character becomes a hexadecimal escape of the
shortest of the three widths 2, 4 and 8.
-/
import TypedContract.Text.Printable

namespace TypedContract.Text

set_option autoImplicit false

/-- The lower-case hexadecimal digits of `n`, padded with zeros to `width`. -/
def hexDigits (width n : Nat) : List Char :=
  let digits := Nat.toDigits 16 n
  List.replicate (width - digits.length) '0' ++ digits

/-- The hexadecimal escape of a code point. -/
def hexEscape (code : Nat) : List Char :=
  if code < 0x100 then '\\' :: 'x' :: hexDigits 2 code
  else if code < 0x10000 then '\\' :: 'u' :: hexDigits 4 code
  else '\\' :: 'U' :: hexDigits 8 code

/-- The quote chosen for a text. -/
def quoteFor (text : List Char) : Char :=
  if text.contains '\'' && !text.contains '"' then '"' else '\''

/-- One character between quotes. -/
def escapeChar (quote c : Char) : List Char :=
  if c == quote || c == '\\' then ['\\', c]
  else if c == '\n' then ['\\', 'n']
  else if c == '\r' then ['\\', 'r']
  else if c == '\t' then ['\\', 't']
  else if isPrintable c then [c]
  else hexEscape c.toNat

/-- The text between a given pair of quotes. -/
def quoteWith (quote : Char) (text : List Char) : List Char :=
  quote :: text.flatMap (escapeChar quote) ++ [quote]

/-- The quoted text. -/
def quoted (text : List Char) : List Char := quoteWith (quoteFor text) text

/-- The quoted form of a string. -/
def quote (text : String) : String := String.ofList (quoted text.toList)

end TypedContract.Text
