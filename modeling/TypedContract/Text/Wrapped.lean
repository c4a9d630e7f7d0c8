/-
# TypedContract.Text.Wrapped -- long quoted text over several lines

A quoted text wider than a line is cut into pieces that are quoted one below the
other in parentheses.  Cuts are made after line ends and, within a line that is
still too wide, after runs of white space; a piece takes as many of them as fit.
-/
import TypedContract.Text.Ranges
import TypedContract.Text.Quoted

namespace TypedContract.Text

set_option autoImplicit false

/-- The width of a line. -/
def lineWidth : Nat := 80

/-- A character that ends a line. -/
def isLineEnd (c : Char) : Bool :=
  (0x0a ≤ c.toNat && c.toNat ≤ 0x0d) || (0x1c ≤ c.toNat && c.toNat ≤ 0x1e)
    || c.toNat == 0x85 || c.toNat == 0x2028 || c.toNat == 0x2029

/-- The lines of a text with their ends. -/
def linesOf : List Char → List (List Char)
  | [] => []
  | '\r' :: '\n' :: rest => ['\r', '\n'] :: linesOf rest
  | c :: rest =>
      if isLineEnd c then [c] :: linesOf rest
      else match rest, linesOf rest with
        | _ :: _, line :: lines => (c :: line) :: lines
        | _, _ => [[c]]

/-- The words of a line, each with the white space after it. -/
def wordsOf : List Char → List (List Char)
  | [] => []
  | c :: rest =>
      match rest, wordsOf rest with
      | d :: _, word :: words =>
          if isBlank c && !isBlank d then [c] :: word :: words else (c :: word) :: words
      | _, _ => [[c]]

/-- Joins words while their quoted form keeps to the width; the last word of the
last line has one column less. -/
def fill (width lastWidth : Nat) (current : List Char) : List (List Char) → List (List Char)
  | [] => if current.isEmpty then [] else [current]
  | word :: rest =>
      let limit := if rest.isEmpty then lastWidth else width
      if (quoted (current ++ word)).length > limit then
        (if current.isEmpty then [] else [current]) ++ fill width lastWidth word rest
      else fill width lastWidth (current ++ word) rest

/-- The pieces of lines. -/
def piecesOf (width : Nat) : List (List Char) → List (List Char)
  | [] => []
  | line :: rest =>
      let lastWidth := if rest.isEmpty then width - 1 else width
      (if (quoted line).length ≤ lastWidth then [line]
       else fill width lastWidth [] (wordsOf line)) ++ piecesOf width rest

/-- The quoted text, over several lines when it is too wide for one. -/
def wrapped (text : String) : String :=
  let chars := text.toList
  if (quoted chars).length ≤ lineWidth then quote text
  else
    match piecesOf (lineWidth - 1) (linesOf chars) with
    | [_] => quote text
    | pieces =>
        let lines := pieces.map fun piece => String.ofList (quoted piece)
        "(" ++ String.intercalate "\n " lines ++ ")"

end TypedContract.Text
