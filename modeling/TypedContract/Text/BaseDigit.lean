/-
# TypedContract.Text.BaseDigit -- numbers written in ASCII digits

Digits of a base up to 16 in either case, the number that a run of them denotes,
and the limit on the length of an integer's decimal text.
-/

namespace TypedContract.Text

set_option autoImplicit false

/-- The most decimal digits an integer's text may have. -/
def digitLimit : Nat := 4300

/-- An ASCII decimal digit. -/
def isDecimalDigit (c : Char) : Bool := '0' ≤ c && c ≤ '9'

/-- The value of a digit in a base up to 16. -/
def digitValue? (base : Nat) (c : Char) : Option Nat :=
  let value? :=
    if isDecimalDigit c then some (c.toNat - '0'.toNat)
    else if 'a' ≤ c && c ≤ 'f' then some (c.toNat - 'a'.toNat + 10)
    else if 'A' ≤ c && c ≤ 'F' then some (c.toNat - 'A'.toNat + 10)
    else none
  value?.filter (· < base)

/-- A digit of the base. -/
def isDigitOf (base : Nat) (c : Char) : Bool := (digitValue? base c).isSome

/-- The number that digits of a base denote. -/
def ofDigits (base : Nat) (digits : List Char) : Nat :=
  digits.foldl (fun n c => n * base + (digitValue? base c).getD 0) 0

/-- The number that hexadecimal digits denote, if all are. -/
def hex? (digits : List Char) : Option Nat :=
  if digits.all (isDigitOf 16) then some (ofDigits 16 digits) else none

/-- The sign of an exponent. -/
def exponentSign : List Char → Bool × List Char
  | '-' :: rest => (true, rest)
  | '+' :: rest => (false, rest)
  | text => (false, text)

end TypedContract.Text
