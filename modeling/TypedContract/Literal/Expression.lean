/-
# TypedContract.Literal.Expression -- reading literal expressions

An expression is a constant, a number with at most one sign, a sum of a real
number (with at most one sign) and an imaginary one, or a bracketed collection
of expressions.  `Expression.ofTokens?` reads the form, `Expression.value` the
value: the keys of mappings and the members of sets must be values that can be
keys, and an integer beside an imaginary number must fit a double.
-/
import TypedContract.Literal.Token
import TypedContract.Text.Ranges

namespace TypedContract.Literal

set_option autoImplicit false

/-- The form of a literal expression. -/
inductive Expression where
  /-- A named constant, a text or a byte string. -/
  | constant (value : Literal)
  /-- A number without a sign. -/
  | number (value : Literal)
  /-- The name of the function that makes the empty set. -/
  | setName
  /-- The empty set. -/
  | emptySet
  | signed (negative : Bool) (operand : Expression)
  | sum (negative : Bool) (left right : Expression)
  | tuple (items : List Expression)
  | list (items : List Expression)
  | set (items : List Expression)
  | mapping (entries : List (Expression × Expression))

namespace Expression

open Token

/-! ## Form -/

/-- The text pieces at the start of the tokens, joined. -/
def texts : List Token → List Char × List Token
  | .textPiece content :: rest =>
      let (more, after) := texts rest
      (content ++ more, after)
  | tokens => ([], tokens)

/-- The byte pieces at the start of the tokens, joined. -/
def byteTexts : List Token → List UInt8 × List Token
  | .bytePiece content :: rest =>
      let (more, after) := byteTexts rest
      (content ++ more, after)
  | tokens => ([], tokens)

/-- The text pieces at the start of the tokens as one constant; texts and byte
strings do not mix. -/
def text? (tokens : List Token) : Option (Expression × List Token) :=
  match texts tokens with
  | (_, .bytePiece _ :: _) => none
  | (content, after) => some (.constant (.str (String.ofList content)), after)

/-- The byte pieces at the start of the tokens as one constant. -/
def bytes? (tokens : List Token) : Option (Expression × List Token) :=
  match byteTexts tokens with
  | (_, .textPiece _ :: _) => none
  | (content, after) => some (.constant (.bytes content), after)

/-- What a round bracket holds: a tuple when a comma was read, else its one item. -/
def grouped? (items : List Expression) (comma : Bool) : Option Expression :=
  match items, comma with
  | [item], false => some item
  | items, _ => some (.tuple items)

/-- A call of the function that makes the empty set, if the tokens go on so. -/
def called (e : Expression) (tokens : List Token) : Option (Expression × List Token) :=
  match tokens with
  | .opening .round :: rest =>
      match e, rest with
      | .setName, .closing .round :: after => some (.emptySet, after)
      | _, _ => none
  | _ => some (e, tokens)

mutual

/-- An expression at the start of the tokens and what follows it.  The first
argument bounds the depth of the recursion. -/
def parse? : Nat → List Token → Option (Expression × List Token)
  | 0, _ => none
  | bound + 1, tokens => do
      let (left, after) ← term? bound tokens
      match after with
      | .plus :: rest => do
          let (right, after) ← term? bound rest
          return (.sum false left right, after)
      | .minus :: rest => do
          let (right, after) ← term? bound rest
          return (.sum true left right, after)
      | _ => return (left, after)

/-- An operand with its signs. -/
def term? : Nat → List Token → Option (Expression × List Token)
  | 0, _ => none
  | bound + 1, .plus :: rest => do
      let (operand, after) ← term? bound rest
      return (.signed false operand, after)
  | bound + 1, .minus :: rest => do
      let (operand, after) ← term? bound rest
      return (.signed true operand, after)
  | bound + 1, tokens => do
      let (operand, after) ← operand? bound tokens
      called operand after

/-- An operand: a constant, a number, a name or a bracket. -/
def operand? : Nat → List Token → Option (Expression × List Token)
  | 0, _ => none
  | _ + 1, .constant value :: rest => some (.constant value, rest)
  | _ + 1, .number value :: rest => some (.number value, rest)
  | _ + 1, .setName :: rest => some (.setName, rest)
  | _ + 1, .textPiece content :: rest => text? (.textPiece content :: rest)
  | _ + 1, .bytePiece content :: rest => bytes? (.bytePiece content :: rest)
  | bound + 1, .opening .round :: rest => do
      let (items, comma, after) ← items? bound .round rest
      return (← grouped? items comma, after)
  | bound + 1, .opening .square :: rest => do
      let (items, _, after) ← items? bound .square rest
      return (.list items, after)
  | bound + 1, .opening .curly :: rest => braces? bound rest
  | _ + 1, _ => none

/-- What follows an opening brace: a mapping when empty or when its first item is
followed by a colon, else a set. -/
def braces? : Nat → List Token → Option (Expression × List Token)
  | 0, _ => none
  | _ + 1, .closing .curly :: rest => some (.mapping [], rest)
  | bound + 1, tokens => do
      let (first, after) ← parse? bound tokens
      match after with
      | .colon :: rest => do
          let (value, after) ← parse? bound rest
          match after with
          | .comma :: rest => do
              let (entries, after) ← entries? bound rest
              return (.mapping ((first, value) :: entries), after)
          | .closing .curly :: rest => some (.mapping [(first, value)], rest)
          | _ => none
      | .comma :: rest => do
          let (items, _, after) ← items? bound .curly rest
          return (.set (first :: items), after)
      | .closing .curly :: rest => some (.set [first], rest)
      | _ => none

/-- Items up to the closing bracket, and whether a comma was read. -/
def items? : Nat → Bracket → List Token → Option (List Expression × Bool × List Token)
  | 0, _, _ => none
  | bound + 1, bracket, tokens =>
      match tokens with
      | .closing closer :: rest => if closer = bracket then some ([], false, rest) else none
      | _ => do
          let (item, after) ← parse? bound tokens
          match after with
          | .comma :: rest => do
              let (items, _, after) ← items? bound bracket rest
              return (item :: items, true, after)
          | .closing closer :: rest =>
              if closer = bracket then some ([item], false, rest) else none
          | _ => none

/-- Entries up to the closing brace. -/
def entries? : Nat → List Token → Option (List (Expression × Expression) × List Token)
  | 0, _ => none
  | _ + 1, .closing .curly :: rest => some ([], rest)
  | bound + 1, tokens => do
      let (key, afterKey) ← parse? bound tokens
      match afterKey with
      | .colon :: rest => do
          let (value, after) ← parse? bound rest
          match after with
          | .comma :: rest => do
              let (entries, after) ← entries? bound rest
              return ((key, value) :: entries, after)
          | .closing .curly :: rest => some ([(key, value)], rest)
          | _ => none
      | _ => none

end

/-- Expressions separated by commas up to the end of the tokens. -/
def sequence? : Nat → List Token → Option (List Expression × Bool)
  | 0, _ => none
  | bound + 1, tokens => do
      -- the parsers call one another at most four times before a token is taken
      let (item, after) ← parse? (4 * tokens.length + 4) tokens
      match after with
      | [] => some ([item], false)
      | [.comma] => some ([item], true)
      | .comma :: rest => do
          let (items, _) ← sequence? bound rest
          return (item :: items, true)
      | _ => none

/-- The expression that all the tokens form; commas outside brackets make a
tuple. -/
def ofTokens? (tokens : List Token) : Option Expression := do
  let (items, comma) ← sequence? (tokens.length + 1) tokens
  grouped? items comma

/-! ## Value -/

/-- Why an expression has no value. -/
inductive NoValue where
  /-- The form is none of a literal. -/
  | malformed
  /-- An integer beside an imaginary number is too large for a double. -/
  | tooLarge

mutual

/-- The value can be a key of a mapping or a member of a set. -/
def isKey : Literal → Bool
  | .list _ => false
  | .set _ => false
  | .mapping _ => false
  | .tuple items => areKeys items
  | _ => true

/-- All the values can be keys. -/
def areKeys : List Literal → Bool
  | [] => true
  | item :: rest => isKey item && areKeys rest

end

/-- The opposite of a number. -/
def negate : Literal → Literal
  | .int value => .int (-value)
  | .double value => .double value.neg
  | .complex real imaginary => .complex real.neg imaginary.neg
  | value => value

/-- The number that an expression is, with at most one sign. -/
def signedNumber? : Expression → Option Literal
  | .number value => some value
  | .signed false (.number value) => some value
  | .signed true (.number value) => some (negate value)
  | _ => none

/-- A number as the real part of a sum. -/
def realPart : Literal → Except NoValue Double
  | .int value =>
      match Double.ofInt value with
      | .infinite _ => .error .tooLarge
      | real => .ok real
  | .double value => .ok value
  | _ => .error .malformed

/-- The sum or difference of a real and an imaginary number.  A zero keeps a
negative sign only where a negative zero is reduced by a positive one. -/
def combine (negative : Bool) (real imaginary : Double) : Literal :=
  if negative then
    .complex real (if imaginary.isZero then .zero false else imaginary.neg)
  else .complex (if real.isZero then .zero false else real) imaginary

/-- Stores an entry of a mapping; only keys that are texts can meet again. -/
def store (key value : Literal) : List (Literal × Literal) → List (Literal × Literal)
  | [] => [(key, value)]
  | (.str name, old) :: rest =>
      match key with
      | .str name' =>
          if name == name' then (.str name, value) :: rest
          else (.str name, old) :: store key value rest
      | _ => (.str name, old) :: store key value rest
  | entry :: rest => entry :: store key value rest

mutual

/-- The value of an expression. -/
def value : Expression → Except NoValue Literal
  | .constant value => .ok value
  | .number value => .ok value
  | .setName => .error .malformed
  | .emptySet => .ok (.set [])
  | .signed negative operand =>
      match signedNumber? (.signed negative operand) with
      | some value => .ok value
      | none => .error .malformed
  | .sum negative left right =>
      match signedNumber? left, right with
      | some real, .number (.complex _ imaginary) => do
          return combine negative (← realPart real) imaginary
      | _, _ => .error .malformed
  | .tuple items => do return .tuple (← values items)
  | .list items => do return .list (← values items)
  | .set items => do return .set (← memberValues items)
  | .mapping entries => do return .mapping (← entryValues [] entries)

/-- The values of the items. -/
def values : List Expression → Except NoValue (List Literal)
  | [] => .ok []
  | item :: rest => do
      let first ← value item
      return first :: (← values rest)

/-- The values of the members of a set, each of which must be able to be one. -/
def memberValues : List Expression → Except NoValue (List Literal)
  | [] => .ok []
  | item :: rest => do
      let first ← value item
      if isKey first then return first :: (← memberValues rest) else throw .malformed

/-- The entries stored one after the other. -/
def entryValues (stored : List (Literal × Literal)) :
    List (Expression × Expression) → Except NoValue (List (Literal × Literal))
  | [] => .ok stored
  | (key, item) :: rest => do
      let key ← value key
      let item ← value item
      if isKey key then entryValues (store key item stored) rest else throw .malformed

end

end Expression

/-- The value of a literal expression, apart from blanks around it. -/
def read (text : String) : Except Fault Literal :=
  let tokens := Token.ofText? (Text.trimBoth Text.isBlank text.toList)
  match tokens.bind Expression.ofTokens? with
  | none => .error (.malformed (.notLiteral text))
  | some e =>
      match e.value with
      | .ok value => .ok value
      | .error .malformed => .error (.malformed (.notLiteral text))
      | .error .tooLarge => .error .tooLarge

/-- The JSON value that a literal expression denotes. -/
def decode (text : String) : Except Fault Json := do
  match (← read text).toJson with
  | .ok value => .ok value
  | .error why => .error (refusal why)

end TypedContract.Literal
