/-
# TypedContract.Text.Ranges -- sets of characters as ranges of code points

A character property of the Unicode standard is held as its list of closed
ranges, in increasing order.  `inRanges` asks whether a character lies in one.

The white space of Unicode 14: the ASCII controls from tab to carriage return
and from the file separator to the unit separator, the space, and the spaces
and separators beyond ASCII.

The decimal digits of Unicode 14 (category Nd) come in runs of ten consecutive
code points, one run for each script.  Superscripts, circled digits and a few
other numerals are digits without being decimal: they are listed apart.
-/

namespace TypedContract.Text

set_option autoImplicit false

/-- The character's code point lies in one of the closed ranges. -/
def inRanges (ranges : List (Nat × Nat)) (c : Char) : Bool :=
  ranges.any fun range => range.1 ≤ c.toNat && c.toNat ≤ range.2

/-- Splits a text at every place where a character satisfies `p`; that
character belongs to no piece. -/
def splitOnChar (p : Char → Bool) : List Char → List (List Char)
  | [] => [[]]
  | c :: rest =>
      if p c then [] :: splitOnChar p rest
      else match splitOnChar p rest with
        | [] => [[c]]
        | piece :: pieces => (c :: piece) :: pieces

/-- Drops the characters satisfying `p` from both ends. -/
def trimBoth (p : Char → Bool) (text : List Char) : List Char :=
  ((text.dropWhile p).reverse.dropWhile p).reverse

/-- The pieces in order with `separator` between neighbours. -/
def joinWith (separator : List Char) : List (List Char) → List Char
  | [] => []
  | [piece] => piece
  | piece :: pieces => piece ++ separator ++ joinWith separator pieces

theorem splitOnChar_ne_nil (p : Char → Bool) (text : List Char) :
    splitOnChar p text ≠ [] := by
  cases text with
  | nil => simp [splitOnChar]
  | cons c rest =>
      unfold splitOnChar
      split
      · simp
      · split <;> simp

/-! ## White space -/

/-- The ranges of white space. -/
def blankRanges : List (Nat × Nat) := [
  (0x9, 0xd), (0x1c, 0x20), (0x85, 0x85), (0xa0, 0xa0), (0x1680, 0x1680), (0x2000, 0x200a),
  (0x2028, 0x2029), (0x202f, 0x202f), (0x205f, 0x205f), (0x3000, 0x3000)
]

/-- White space. -/
def isBlank (c : Char) : Bool := inRanges blankRanges c

/-- Drops the white space at both ends. -/
def trimBlank (text : String) : String :=
  String.ofList (trimBoth isBlank text.toList)

/-! ## Digits -/

/-- The code point of the zero of every script. -/
def decimalZeros : List Nat := [
  0x30, 0x660, 0x6f0, 0x7c0, 0x966, 0x9e6, 0xa66, 0xae6, 0xb66, 0xbe6, 0xc66, 0xce6, 0xd66,
  0xde6, 0xe50, 0xed0, 0xf20, 0x1040, 0x1090, 0x17e0, 0x1810, 0x1946, 0x19d0, 0x1a80, 0x1a90,
  0x1b50, 0x1bb0, 0x1c40, 0x1c50, 0xa620, 0xa8d0, 0xa900, 0xa9d0, 0xa9f0, 0xaa50, 0xabf0,
  0xff10, 0x104a0, 0x10d30, 0x11066, 0x110f0, 0x11136, 0x111d0, 0x112f0, 0x11450, 0x114d0,
  0x11650, 0x116c0, 0x11730, 0x118e0, 0x11950, 0x11c50, 0x11d50, 0x11da0, 0x16a60, 0x16ac0,
  0x16b50, 0x1d7ce, 0x1d7d8, 0x1d7e2, 0x1d7ec, 0x1d7f6, 0x1e140, 0x1e2f0, 0x1e950, 0x1fbf0
]

/-- The value of a decimal digit of any script. -/
def decimalValue? (c : Char) : Option Nat :=
  (decimalZeros.find? fun start => start ≤ c.toNat && c.toNat < start + 10).map (c.toNat - ·)

/-- A decimal digit of any script. -/
def isDecimal (c : Char) : Bool :=
  if c.toNat < 0x80 then '0' ≤ c && c ≤ '9' else (decimalValue? c).isSome

/-- Digits that are not decimal digits. -/
def specialDigitRanges : List (Nat × Nat) := [
  (0xb2, 0xb3), (0xb9, 0xb9), (0x1369, 0x1371), (0x19da, 0x19da), (0x2070, 0x2070),
  (0x2074, 0x2079), (0x2080, 0x2089), (0x2460, 0x2468), (0x2474, 0x247c), (0x2488, 0x2490),
  (0x24ea, 0x24ea), (0x24f5, 0x24fd), (0x24ff, 0x24ff), (0x2776, 0x277e), (0x2780, 0x2788),
  (0x278a, 0x2792), (0x10a40, 0x10a43), (0x10e60, 0x10e68), (0x11052, 0x1105a),
  (0x1f100, 0x1f10a)
]

/-- A digit: a decimal digit, a superscript or another digit-like numeral. -/
def isDigit (c : Char) : Bool :=
  isDecimal c || inRanges specialDigitRanges c

end TypedContract.Text
