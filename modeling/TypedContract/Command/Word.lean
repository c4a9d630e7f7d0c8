/-
# TypedContract.Command.Word -- the words of a command line

A command line is a list of words.  A word that begins with a hyphen names a flag,
in full or by a beginning that no other flag shares; its value follows an equals
sign or, for a flag of one letter, stands right behind it.  Negative numbers and
words with a blank are operands, and so is every word after a double hyphen.
-/
import TypedContract.Text.Ranges

namespace TypedContract.Command

set_option autoImplicit false

/-- How a command line ends before anything is done. -/
inductive Stop where
  /-- Help was asked for. -/
  | help
  /-- The words make no sense. -/
  | misuse
  deriving DecidableEq

/-- A flag with its spellings. -/
structure Flag where
  spellings : List String
  takesValue : Bool

/-- A value in the same word as its flag. -/
structure Attached where
  text : List Char
  /-- An equals sign stands in front of the value. -/
  isSeparate : Bool

/-- A word by its form. -/
inductive Word where
  | operand (text : String)
  | separator
  /-- A flag, whether it is spelled with one letter, and the value behind it. -/
  | flag (flag : Flag) (isShort : Bool) (attached : Option Attached)
  | unknown
  deriving Inhabited

/-- The flag of a spelling. -/
def flagNamed? (flags : List Flag) (spelling : List Char) : Option Flag :=
  flags.find? fun flag => flag.spellings.any (·.toList == spelling)

/-- The part in front of the first equals sign and the part behind it. -/
def splitEquals (word : List Char) : List Char × Option Attached :=
  match word.dropWhile (· != '=') with
  | _ :: rest => (word.takeWhile (· != '='), some ⟨rest, true⟩)
  | [] => (word, none)

/-- Every flag and spelling that a beginning stands for. -/
def flagsBeginning (flags : List Flag) (start : List Char) : List Flag :=
  flags.flatMap fun flag =>
    (flag.spellings.filter fun spelling => start.isPrefixOf spelling.toList).map fun _ => flag

/-- Digits of any script, at least one. -/
def isNumeral (text : List Char) : Bool := !text.isEmpty && text.all Text.isDecimal

/-- A negative number, which may have a point and a line end. -/
def isNegativeNumber (word : List Char) : Bool :=
  let word := if word.getLast? == some '\n' then word.dropLast else word
  match word with
  | '-' :: rest =>
      isNumeral rest || match rest.dropWhile Text.isDecimal with
        | '.' :: places => isNumeral places
        | _ => false
  | _ => false

/-- A word that no spelling fits. -/
def unspelled (word : List Char) : Word :=
  if isNegativeNumber word || word.contains ' ' then .operand (String.ofList word) else .unknown

/-- The flag that a beginning with two hyphens stands for. -/
def abbreviated (flags : List Flag) (word : List Char) : Except Stop Word :=
  let (start, attached) := splitEquals word
  match flagsBeginning flags start with
  | [] => .ok (unspelled word)
  | [flag] => .ok (.flag flag false attached)
  | _ => .error .misuse

/-- The flag of one letter with its value behind it. -/
def compact (flags : List Flag) (word : List Char) : Word :=
  match flagNamed? flags (word.take 2) with
  | some flag => .flag flag true (some ⟨word.drop 2, false⟩)
  | none => unspelled word

/-- A word that begins with a hyphen and something else behind it. -/
def hyphenated (flags : List Flag) (word : List Char) : Except Stop Word :=
  let isShort := (word.drop 1).head? != some '-'
  let named (spelling : List Char) (attached : Option Attached) : Option Word :=
    (flagNamed? flags spelling).map fun flag => .flag flag isShort attached
  let (spelling, attached) := splitEquals word
  match named word none, if attached.isSome then named spelling attached else none with
  | some found, _ => .ok found
  | none, some found => .ok found
  | none, none => if isShort then .ok (compact flags word) else abbreviated flags word

/-- The form of a word. -/
def wordOf (flags : List Flag) (text : String) : Except Stop Word :=
  match text.toList with
  | '-' :: c :: rest => hyphenated flags ('-' :: c :: rest)
  | _ => .ok (.operand text)

/-- The forms of the words. -/
def wordsOf (flags : List Flag) : List String → Except Stop (List Word)
  | [] => .ok []
  | text :: rest =>
      if text == "--" then .ok (.separator :: rest.map .operand)
      else do
        let word ← wordOf flags text
        return word :: (← wordsOf flags rest)

/-! ## Flags and their values -/

/-- A flag that was given, with its value. -/
abbrev Given := Flag × Option String

/-- The flags of a word. -/
structure Spread where
  given : List Given := []
  /-- A last flag that still needs its value. -/
  open? : Option Flag := none
  /-- A part of the word is left over. -/
  hasRest : Bool := false

namespace Spread

/-- A flag with nothing attached to it. -/
def alone (flag : Flag) : Spread :=
  if flag.takesValue then { open? := some flag } else { given := [(flag, none)] }

/-- Puts a flag without a value in front. -/
def withFlag (flag : Flag) (spread : Spread) : Spread :=
  { spread with given := (flag, none) :: spread.given }

end Spread

/-- A value of a flag that takes none means further letters, unless it is set off
from the flag. -/
def hasLetters (isShort : Bool) (attached : List Char) (isSeparate : Bool) : Bool :=
  isShort && !isSeparate && match attached with
    | [] => false
    | letter :: _ => letter != '-'

/-- The flags of a word, given what is attached to the first: letters without
values may share one word. -/
def spreadFrom (flags : List Flag) (flag : Flag) (isShort isSeparate : Bool) :
    List Char → Except Stop Spread
  | [] =>
      if flag.takesValue then .ok { given := [(flag, some "")] } else .error .misuse
  | letter :: rest =>
      if flag.takesValue then .ok { given := [(flag, some (String.ofList (letter :: rest)))] }
      else if !hasLetters isShort (letter :: rest) isSeparate then .error .misuse
      else match flagNamed? flags ['-', letter] with
        | none => .ok { given := [(flag, none)], hasRest := true }
        | some next =>
            Spread.withFlag flag <$> match rest with
              | [] => .ok (.alone next)
              | '=' :: value => spreadFrom flags next true true value
              | c :: rest => spreadFrom flags next true false (c :: rest)

/-- The flags of a word. -/
def spread (flags : List Flag) (flag : Flag) (isShort : Bool) :
    Option Attached → Except Stop Spread
  | none => .ok (.alone flag)
  | some attached => spreadFrom flags flag isShort attached.isSeparate attached.text

end TypedContract.Command
