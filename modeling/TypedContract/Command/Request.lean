/-
# TypedContract.Command.Request -- what a command line asks for

Flags of the whole program stand in front of the name of the task, flags of the
task anywhere behind it.  A flag that is given again has its last value.  Help is
given as soon as it is asked for; a word too many or too few is found at the end.
-/
import TypedContract.Command.Word

namespace TypedContract.Command

set_option autoImplicit false

/-- What to do with a contract. -/
inductive Task where
  | generate (output : String) (clientName : Option String) (nilableOptional : Bool)
  | enrich (symbols : String) (output : Option String)

/-- What a command line asks for. -/
structure Request where
  logLevel : Option String
  contract : String
  task : Task

/-! ## Words of a task -/

/-- The flags and operands that were read; some words may have been left over. -/
structure Reading where
  given : List Given := []
  operands : List String := []
  hasRest : Bool := false

namespace Reading

/-- Puts the flags of a word in front, the last of them with a value of its own. -/
def withSpread (own : Spread) (last : List Given) (reading : Reading) : Reading :=
  { reading with
    given := own.given ++ last ++ reading.given
    hasRest := own.hasRest || reading.hasRest }

/-- Puts an operand in front. -/
def withOperand (text : String) (reading : Reading) : Reading :=
  { reading with operands := text :: reading.operands }

/-- Has a word left over. -/
def withRest (reading : Reading) : Reading := { reading with hasRest := true }

/-- The last value of a flag. -/
def value? (reading : Reading) (spelling : String) : Option String :=
  (reading.given.reverse.find? fun (flag, _) => flag.spellings.contains spelling).bind (·.2)

/-- The flag was given. -/
def has (reading : Reading) (spelling : String) : Bool :=
  reading.given.any fun (flag, _) => flag.spellings.contains spelling

end Reading

/-- The flag that asks for help. -/
def helpFlag : Flag := ⟨["-h", "--help"], false⟩

/-- Stops when help is asked for. -/
def checkHelp (given : List Given) : Except Stop Unit :=
  if given.any fun (flag, _) => flag.spellings == helpFlag.spellings then .error .help else .ok ()

/-- Reads the words of a task that wants a number of operands; `joined` tells that
the word before was one of them. -/
def readWords (flags : List Flag) (wanted : Nat) (joined : Bool) :
    List Word → Except Stop Reading
  | [] => .ok {}
  | .operand text :: rest =>
      match wanted with
      | 0 => Reading.withRest <$> readWords flags 0 false rest
      | wanted + 1 => Reading.withOperand text <$> readWords flags wanted true rest
  | .separator :: rest =>
      if joined then readWords flags wanted true rest
      else if wanted == 0 || rest.isEmpty then
        Reading.withRest <$> readWords flags wanted false rest
      else readWords flags wanted false rest
  | .unknown :: rest => Reading.withRest <$> readWords flags wanted false rest
  | .flag flag isShort attached :: rest => do
      let own ← spread flags flag isShort attached
      match own.open?, rest with
      | none, rest =>
          checkHelp own.given
          Reading.withSpread own [] <$> readWords flags wanted false rest
      | some last, .operand text :: rest =>
          checkHelp own.given
          Reading.withSpread own [(last, some text)] <$> readWords flags wanted false rest
      | _, _ => .error .misuse

/-- Reads the words of a task that has a number of operands. -/
def readTask (flags : List Flag) (wanted : Nat) (words : List String) : Except Stop Reading := do
  let reading ← readWords flags wanted false (← wordsOf flags words)
  if reading.operands.length < wanted then throw .misuse
  return reading

/-! ## Tasks -/

/-- The directory that a client is written to by default. -/
def defaultOutput : String := "generated"

/-- The flags of the generation of a client. -/
def generateFlags : List Flag := [
  helpFlag,
  ⟨["-o", "--output"], true⟩,
  ⟨["--client-name"], true⟩,
  ⟨["--nilable-optional"], false⟩
]

/-- The flags of an enrichment. -/
def enrichFlags : List Flag := [helpFlag, ⟨["-o", "--output"], true⟩]

/-- The contract and the task of a named task; the last part tells that words are
left over. -/
def taskOf (name : String) (words : List String) : Except Stop (String × Task × Bool) := do
  if name == "generate" then
    let reading ← readTask generateFlags 1 words
    match reading.operands with
    | [contract] =>
        let task := .generate ((reading.value? "--output").getD defaultOutput)
          (reading.value? "--client-name") (reading.has "--nilable-optional")
        return (contract, task, reading.hasRest)
    | _ => throw .misuse
  else if name == "enrich" then
    let reading ← readTask enrichFlags 2 words
    match reading.operands with
    | [contract, symbols] =>
        return (contract, .enrich symbols (reading.value? "--output"), reading.hasRest)
    | _ => throw .misuse
  else throw .misuse

/-! ## The whole command line -/

/-- The flags of the whole program. -/
def programFlags : List Flag := [helpFlag, ⟨["--log-level"], true⟩]

/-- Reads the words up to the name of the task and then those of the task. -/
def readRequest (given : List Given) (hasRest : Bool) :
    List (Word × String) → Except Stop Request
  | [] => .error .misuse
  | (.operand name, _) :: rest => do
      let (contract, task, more) ← taskOf name (rest.map (·.2))
      if hasRest || more then throw .misuse
      let reading : Reading := { given := given }
      return { logLevel := reading.value? "--log-level", contract := contract, task := task }
  | (.separator, _) :: _ => .error .misuse
  | (.unknown, _) :: rest => readRequest given true rest
  | (.flag flag isShort attached, _) :: rest => do
      let own ← spread programFlags flag isShort attached
      match own.open?, rest with
      | none, rest =>
          checkHelp own.given
          readRequest (given ++ own.given) (hasRest || own.hasRest) rest
      | some last, (.operand text, _) :: rest =>
          checkHelp own.given
          readRequest (given ++ own.given ++ [(last, some text)]) (hasRest || own.hasRest) rest
      | _, _ => .error .misuse

/-- What a command line asks for. -/
def Request.ofArguments (arguments : List String) : Except Stop Request := do
  readRequest [] false ((← wordsOf programFlags arguments).zip arguments)

end TypedContract.Command
