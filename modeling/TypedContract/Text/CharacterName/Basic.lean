/-
# TypedContract.Text.CharacterName.Basic -- characters by their names

A character is found by its name or one of its aliases, in upper or lower case.
Two families of names follow a rule and are in upper case only: Hangul syllables are
named by the sounds they are made of, unified ideographs by their code points.
-/
import TypedContract.Text.BaseDigit
import TypedContract.Text.CharacterName.Abugidas
import TypedContract.Text.CharacterName.Alias
import TypedContract.Text.CharacterName.Alphabets
import TypedContract.Text.CharacterName.Ancient
import TypedContract.Text.CharacterName.EastAsia
import TypedContract.Text.CharacterName.Pictographs
import TypedContract.Text.CharacterName.Signaries
import TypedContract.Text.CharacterName.Syllabics
import TypedContract.Text.CharacterName.Symbols
import TypedContract.Text.Ranges

namespace TypedContract.Text.CharacterName

set_option autoImplicit false

/-- What follows a beginning. -/
def after? (start name : List Char) : Option (List Char) :=
  if start.isPrefixOf name then some (name.drop start.length) else none

/-! ## Names by a rule -/

/-- The sounds that begin a syllable. -/
def initials : List String := [
  "G", "GG", "N", "D", "DD", "R", "M", "B", "BB", "S", "SS", "", "J", "JJ", "C", "K", "T", "P", "H"
]

/-- The vowels of a syllable. -/
def vowels : List String := [
  "A", "AE", "YA", "YAE", "EO", "E", "YEO", "YE", "O", "WA", "WAE", "OE", "YO", "U", "WEO", "WE",
  "WI", "YU", "EU", "YI", "I"
]

/-- The sounds that end a syllable. -/
def finals : List String := [
  "", "G", "GG", "GS", "N", "NJ", "NH", "D", "L", "LG", "LM", "LB", "LS", "LT", "LP", "LH", "M",
  "B", "BS", "S", "SS", "NG", "J", "C", "K", "T", "P", "H"
]

/-- The longest sound at the start of a text: its position and what follows. -/
def sound? (sounds : List String) (text : List Char) : Option (Nat × List Char) :=
  let found := sounds.zipIdx.filter fun (sound, _) => sound.toList.isPrefixOf text
  let longest := (found.map fun (sound, _) => sound.length).foldl max 0
  (found.find? fun (sound, _) => sound.length == longest).map fun (sound, position) =>
    (position, text.drop sound.length)

/-- The code point of a syllable. -/
def syllable? (name : List Char) : Option Nat := do
  let (first, rest) ← sound? initials name
  let (vowel, rest) ← sound? vowels rest
  let (last, rest) ← sound? finals rest
  if rest.isEmpty then
    return 0xAC00 + (first * vowels.length + vowel) * finals.length + last
  else none

/-- The unified ideographs. -/
def ideographRanges : List (Nat × Nat) := [
  (0x3400, 0x4DBF), (0x4E00, 0x9FFF), (0x20000, 0x2A6DF), (0x2A700, 0x2B738), (0x2B740, 0x2B81D),
  (0x2B820, 0x2CEA1), (0x2CEB0, 0x2EBE0), (0x30000, 0x3134A)
]

/-- A number in capital hexadecimal digits. -/
def capitalHex? (digits : List Char) : Option Nat :=
  if digits.all fun c => c.isDigit || ('A' ≤ c && c ≤ 'F') then hex? digits else none

/-- The code point of a unified ideograph, given by four or five digits. -/
def ideograph? (digits : List Char) : Option Nat :=
  if digits.length == 4 || digits.length == 5 then
    (capitalHex? digits).filter fun code =>
      ideographRanges.any fun (first, last) => first ≤ code && code ≤ last
  else none

/-- The further families whose members are named by their code points. -/
def families : List (String × Nat × Nat) := [
  ("CJK COMPATIBILITY IDEOGRAPH-", 0xF900, 0xFA6D),
  ("CJK COMPATIBILITY IDEOGRAPH-", 0xFA70, 0xFAD9),
  ("CJK COMPATIBILITY IDEOGRAPH-", 0x2F800, 0x2FA1D),
  ("KHITAN SMALL SCRIPT CHARACTER-", 0x18B00, 0x18CD5),
  ("NUSHU CHARACTER-", 0x1B170, 0x1B2FB)
]

/-- The code point of a member of a family. -/
def member? (name : List Char) : Option Nat :=
  families.findSome? fun (start, first, last) => do
    let digits ← after? start.toList name
    if digits.length == (if first < 0x10000 then 4 else 5) then
      (capitalHex? digits).filter fun code => first ≤ code && code ≤ last
    else none

/-- The code point of a variation selector by its alias. -/
def selector? (name : List Char) : Option Nat := do
  let digits ← after? ['V', 'S'] name
  if digits.isEmpty || digits.head? == some '0' || !digits.all Char.isDigit then none
  let number := ofDigits 10 digits
  if number ≤ 16 then return 0xFE00 + number - 1
  else if number ≤ 256 then return 0xE0100 + number - 17
  else none

/-! ## Names in tables -/

/-- The names on a line. -/
def namesOn (line : List Char) : List (List Char) :=
  (splitOnChar (· == ',') line).filter (!·.isEmpty)

/-- A line without the blanks in front. -/
def unindented (line : List Char) : List Char := line.dropWhile (· == ' ')

/-- The code point and the text around the colon of a line. -/
def header? (line : List Char) : Option (Nat × List Char) :=
  match line.dropWhile (· != ':') with
  | _ :: start => some (ofDigits 16 (line.takeWhile (· != ':')), start)
  | [] => none

/-- The code point of a name on the lines of a table; the names to come begin with
`start`, the first of them is that of `code`. -/
def nameOn? (name : List Char) (code : Nat) (start : List Char) : List (List Char) → Option Nat
  | [] => none
  | line :: rest =>
      match header? (unindented line) with
      | some (code, start) =>
          nameOn? name code (if start.isEmpty then [] else start ++ [' ']) rest
      | none =>
          let names := namesOn (unindented line)
          match (after? start name).bind fun own => names.findIdx? (· == own) with
          | some position => some (code + position)
          | none => nameOn? name (code + names.length) start rest

/-- The code point of an alias on the lines of a table. -/
def aliasOn? (name : List Char) : List (List Char) → Option Nat
  | [] => none
  | line :: rest =>
      match header? (unindented line) with
      | some (code, names) =>
          if (namesOn names).contains name then some code else aliasOn? name rest
      | none => aliasOn? name rest

/-- The lines of a table. -/
def linesOf (table : String) : List (List Char) := splitOnChar (· == '\n') table.toList

/-- The tables of names. -/
def tables : List String :=
  [alphabets, abugidas, syllabics, symbols, eastAsia, ancient, signaries, pictographs]

/-- The code point of a name that is in capital letters. -/
def capital? (name : List Char) : Option Nat :=
  match member? name with
  | some code => some code
  | none =>
      match tables.findSome? fun table => nameOn? name 0 [] (linesOf table) with
      | some code => some code
      | none =>
          match aliasOn? name (linesOf aliases) with
          | some code => some code
          | none => selector? name

/-- The code point of a name. -/
def codePoint? (name : List Char) : Option Nat :=
  match after? "HANGUL SYLLABLE ".toList name, after? "CJK UNIFIED IDEOGRAPH-".toList name with
  | some sounds, _ => syllable? sounds
  | none, some digits => ideograph? digits
  | none, none => capital? (name.map Char.toUpper)

end TypedContract.Text.CharacterName
