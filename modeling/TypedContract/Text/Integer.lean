/-
# TypedContract.Text.Integer -- integers written by people

An integer may have white space around it, a sign, decimal digits of any script
and single underscores between digits.
-/
import TypedContract.Text.BaseDigit
import TypedContract.Text.Ranges

namespace TypedContract.Text

set_option autoImplicit false

/-- White space that may stand around an integer: all but the ASCII separators. -/
def isIntegerBlank (c : Char) : Bool :=
  isBlank c && !(0x1c ≤ c.toNat && c.toNat ≤ 0x1f)

/-- The values of decimal digits with single underscores between them. -/
def decimalValues? : List Char → Option (List Nat)
  | [] => none
  | [c] => (decimalValue? c).map ([·])
  | c :: '_' :: rest => do return (← decimalValue? c) :: (← decimalValues? rest)
  | c :: rest => do return (← decimalValue? c) :: (← decimalValues? rest)

/-- The sign in front and what follows it. -/
def signed : List Char → Bool × List Char
  | '-' :: rest => (true, rest)
  | '+' :: rest => (false, rest)
  | text => (false, text)

/-- The integer that a text denotes, with at most `digitLimit` digits. -/
def integer? (text : String) : Option Int := do
  let (negative, digits) := signed (trimBoth isIntegerBlank text.toList)
  let values ← decimalValues? digits
  if values.length > digitLimit then none
  let size : Nat := values.foldl (fun n digit => n * 10 + digit) 0
  return if negative then -(size : Int) else size

end TypedContract.Text
