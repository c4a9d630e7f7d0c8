/-
# TypedContract.Text.Markup -- descriptions without markup

A tag is a `<`, at least one other character than `>`, and the next `>`.  Tags are
removed, runs of white space become single blanks and the ends are trimmed.
-/
import TypedContract.Text.Ranges

namespace TypedContract.Text

set_option autoImplicit false

/-- The text after a tag that starts behind a `<`, if one does. -/
def afterTag? (text : List Char) : Option (List Char) :=
  match text.takeWhile (· != '>'), text.dropWhile (· != '>') with
  | _ :: _, _ :: rest => some rest
  | _, _ => none

/-- Removes the tags; the first argument bounds the number of characters. -/
def dropTagsWithin : Nat → List Char → List Char
  | 0, text => text
  | _ + 1, [] => []
  | bound + 1, c :: rest =>
      if c == '<' then
        match afterTag? rest with
        | some after => dropTagsWithin bound after
        -- a `<` that begins no tag stays
        | none => c :: dropTagsWithin bound rest
      else c :: dropTagsWithin bound rest

/-- Removes the tags. -/
def dropTags (text : List Char) : List Char := dropTagsWithin text.length text

/-- Every run of white space becomes one blank. -/
def joinBlanks : List Char → List Char
  | [] => []
  | c :: rest =>
      if isBlank c then
        match rest with
        | d :: _ => if isBlank d then joinBlanks rest else ' ' :: joinBlanks rest
        | [] => [' ']
      else c :: joinBlanks rest

/-- The text without tags and without superfluous white space. -/
def stripMarkup (text : String) : String :=
  String.ofList (trimBoth isBlank (joinBlanks (dropTags text.toList)))

end TypedContract.Text
