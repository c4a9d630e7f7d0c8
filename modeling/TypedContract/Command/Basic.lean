/-
# TypedContract.Command.Basic -- the program

The program reads a contract and either writes the client made from it or writes
the examples of a symbol manifest into it.  Its status is 0, 1 when an error was
reported, and 2 when the contract or the manifest cannot be read or the words make
no sense.  Lines of the log below the level of the configuration are not shown.
-/
import TypedContract.Client.Source
import TypedContract.Command.Request
import TypedContract.Document.Loading
import TypedContract.Enrichment

namespace TypedContract.Command

set_option autoImplicit false

/-- What a run of the program leaves behind. -/
structure Outcome where
  status : Except Fault Nat
  /-- Nothing was done, because of the words of the command line. -/
  ended : Bool := false
  output : String := ""
  log : List Log.Line := []
  disk : Disk

/-- The least rank that is logged at a level. -/
def threshold? : String → Option Nat
  | "CRITICAL" => some 50
  | "FATAL" => some 50
  | "ERROR" => some 40
  | "WARN" => some 30
  | "WARNING" => some 30
  | "INFO" => some 20
  | "DEBUG" => some 10
  | "NOTSET" => some 0
  | _ => none

/-- The configuration of the environment, changed by a request. -/
def configurationOf (environment : List (String × String)) (request : Request) : Configuration :=
  let base := Configuration.ofEnvironment environment
  let level := request.logLevel.filter (· != "")
  let base := { base with
    logLevel := (level.map fun text => String.ofList (Text.upper text.toList)).getD base.logLevel }
  match request.task with
  | .generate _ clientName nilableOptional => { base with
      clientName := (clientName.filter (· != "")).getD base.clientName
      treatNilableAsOptional := nilableOptional || base.treatNilableAsOptional }
  | .enrich _ _ => base

/-- Refuses to go on, with a line of the log that says why. -/
def refuse (disk : Disk) (log : List Log.Line) (message : String) : Outcome :=
  { status := .ok 2, log := log ++ [⟨.error, .program, message⟩], disk := disk }

/-- Ends a run whose results stand on the disk; all diagnostics are reported. -/
def finish (disk : Disk) (output : String) (log : List Log.Line) (all : List Diagnostic) :
    Outcome where
  status := .ok (if all.any Diagnostic.isError then 1 else 0)
  output := output
  log := log ++ Diagnostic.report .program all
  disk := disk

/-! ## Generating a client -/

/-- The name of the file that holds a client. -/
def clientFile : String := "client.py"

/-- Writes the client of a contract into a directory. -/
def generate (disk : Disk) (configuration : Configuration) (output : Disk.Path)
    (session : Session) (document : Json) : Outcome :=
  match (Fragments.ofContract (.root 0 document) configuration).run session with
  | (.error fault, session) => { status := .error fault, log := session.log, disk := disk }
  | (.ok fragments, session) =>
      let path := output.child clientFile
      match Client.render fragments configuration with
      | .error fault => { status := .error fault, log := session.log, disk := disk }
      | .ok text =>
          match disk.makeDirectory output with
          | .error fault => { status := .error fault, log := session.log, disk := disk }
          | .ok prepared =>
              match prepared.write path (.bytes text.toUTF8) with
              | .error fault => { status := .error fault, log := session.log, disk := prepared }
              | .ok written =>
                  let counts := "(" ++ toString fragments.operations.length ++ " operations, "
                    ++ toString fragments.types.length ++ " types)"
                  finish written ("Generated " ++ path.text ++ " " ++ counts ++ "\n") session.log
                    session.diagnostics

/-! ## Enriching a contract -/

/-- Writes a contract with the examples of a manifest. -/
def enrich (disk : Disk) (yaml : Yaml) (symbols output : Disk.Path) (session : Session)
    (document : Json) : Outcome :=
  match Loading.symbols disk symbols yaml with
  | .error (.unreadableSymbols message) => refuse disk session.log message
  | .error fault => { status := .error fault, log := session.log, disk := disk }
  | .ok model =>
      match (Enrichment.enrich model).run { document := document, log := session.log } with
      | (.error fault, draft) => { status := .error fault, log := draft.log, disk := disk }
      | (.ok _, draft) =>
          match Saving.save draft.document output disk with
          | .error fault => { status := .error fault, log := draft.log, disk := disk }
          | .ok written => finish written "" draft.log draft.diagnostics

/-! ## The program -/

/-- Does what a request asks for; every line of the log is kept. -/
def perform (surroundings : Surroundings) (configuration : Configuration) (request : Request) :
    Outcome :=
  let disk := surroundings.disk
  match (Loading.contract surroundings request.contract).run {} with
  | (.error (.unreadableContract message), session) => refuse disk session.log message
  | (.error fault, session) => { status := .error fault, log := session.log, disk := disk }
  | (.ok document, session) =>
      match request.task with
      | .generate output _ _ => generate disk configuration (.ofText output) session document
      | .enrich symbols none =>
          if Loading.isAddress request.contract then
            refuse disk session.log "enrich needs --output when the contract is a URL"
          else
            enrich disk surroundings.yaml (.ofText symbols) (.ofText request.contract) session document
      | .enrich symbols (some output) =>
          enrich disk surroundings.yaml (.ofText symbols) (.ofText output) session document

/-- Runs the program with the words of a command line. -/
def run (surroundings : Surroundings) (arguments : List String) : Outcome :=
  match Request.ofArguments arguments with
  | .error .help => { status := .ok 0, ended := true, disk := surroundings.disk }
  | .error .misuse => { status := .ok 2, ended := true, disk := surroundings.disk }
  | .ok request =>
      let configuration := configurationOf surroundings.environment request
      match threshold? configuration.logLevel with
      | none => { status := .error .badValue, disk := surroundings.disk }
      | some threshold =>
          let outcome := perform surroundings configuration request
          { outcome with log := outcome.log.filter fun line => threshold ≤ line.level.rank }

end TypedContract.Command
