/-
# TypedContract.Proofs.Command.Refusing -- unreadable input

A run whose contract or manifest cannot be read writes nothing (`disk_run`), and ends with
the status 2 exactly when the flaw that it meets first is foreseen (`refuses_iff`).
-/
import TypedContract.Command.Basic
import TypedContract.Proofs.Document.Flawed

namespace TypedContract.Command

set_option autoImplicit false

open Loading

variable {surroundings : Surroundings} {request : Request} {flaw : Flaw} {arguments : List String}

/-- The words of the configuration name a level of the log. -/
def LevelKnown (surroundings : Surroundings) (request : Request) : Prop :=
  (threshold? (configurationOf surroundings.environment request).logLevel).isSome = true

/-- The examples are to be written back to the page that the contract comes from. -/
def LacksOutput (request : Request) : Prop :=
  isAddress request.contract = true ∧ ∃ symbols, request.task = .enrich symbols none

/-- What a request asks for needs an input that cannot be read. -/
inductive Unreadable (surroundings : Surroundings) (request : Request) : Prop where
  | contract {flaw : Flaw} (flawed : ContractFlaw surroundings request.contract flaw)
  | symbols {symbols : String} {output : Option String} {flaw : Flaw}
      (task : request.task = .enrich symbols output)
      (flawed : SymbolsFlaw surroundings.disk surroundings.yaml (.ofText symbols) flaw)

/-- A run reads the contract first, and a manifest only when there is a place to write to. -/
inductive Meets (surroundings : Surroundings) (request : Request) : Flaw → Prop where
  | contract {flaw : Flaw} (flawed : ContractFlaw surroundings request.contract flaw) :
      Meets surroundings request flaw
  | symbols {symbols : String} {output : Option String} {flaw : Flaw}
      (readable : ∀ flaw, ¬ ContractFlaw surroundings request.contract flaw)
      (task : request.task = .enrich symbols output) (placed : ¬ LacksOutput request)
      (flawed : SymbolsFlaw surroundings.disk surroundings.yaml (.ofText symbols) flaw) :
      Meets surroundings request flaw

/-! ## The tasks -/

/-- An outcome that leaves the disk alone and has the status 2 exactly under a condition. -/
def Outcome.Refuses (outcome : Outcome) (disk : Disk) (condition : Prop) : Prop :=
  outcome.disk = disk ∧ (outcome.status = .ok 2 ↔ condition)

theorem enrich_flawed {disk : Disk} {yaml : Yaml} {symbols output : Disk.Path} {session : Session}
    {document : Json} (flawed : SymbolsFlaw disk yaml symbols flaw) :
    (enrich disk yaml symbols output session document).Refuses disk (flaw.isForeseen = true) := by
  obtain ⟨fault, failed, refused⟩ := symbols_flawed flawed
  unfold enrich Outcome.Refuses
  rw [failed, ← refused]
  cases fault <;> simp [refuse]

section

variable {configuration : Configuration}

theorem perform_flawed (flawed : ContractFlaw surroundings request.contract flaw) :
    (perform surroundings configuration request).Refuses surroundings.disk
      (flaw.isForeseen = true) := by
  obtain ⟨fault, failed, refused⟩ := contract_flawed flawed {}
  unfold perform Outcome.Refuses
  rw [show (Loading.contract surroundings request.contract).run {} = _ from failed, ← refused]
  cases fault <;> simp [refuse]

section

variable {document : Json} {session : Session}
  (returned : Run.Returns (Loading.contract surroundings request.contract) {} document session)

include returned

theorem perform_lacksOutput (lacks : LacksOutput request) :
    (perform surroundings configuration request).Refuses surroundings.disk True := by
  obtain ⟨address, symbols, task⟩ := lacks
  unfold perform Outcome.Refuses
  rw [show (Loading.contract surroundings request.contract).run {} = _ from returned, task]
  dsimp only
  rw [if_pos address]
  exact ⟨rfl, fun _ => trivial, fun _ => rfl⟩

theorem exists_perform_enrich {symbols : String} {output : Option String}
    (task : request.task = .enrich symbols output) (placed : ¬ LacksOutput request) :
    ∃ path, perform surroundings configuration request =
      enrich surroundings.disk surroundings.yaml (.ofText symbols) path session document := by
  unfold perform
  rw [show (Loading.contract surroundings request.contract).run {} = _ from returned, task]
  cases output with
  | some output => exact ⟨_, rfl⟩
  | none =>
      have here : ¬ isAddress request.contract = true := fun address => placed ⟨address, symbols, task⟩
      dsimp only
      rw [if_neg here]
      exact ⟨_, rfl⟩

end

/-- A run that meets a flaw refuses exactly when the flaw is foreseen. -/
theorem perform_meets (met : Meets surroundings request flaw) :
    (perform surroundings configuration request).Refuses surroundings.disk
      (flaw.isForeseen = true) := by
  cases met with
  | contract flawed => exact perform_flawed flawed
  | symbols readable task placed flawed =>
      rcases exists_flaw_or_returns surroundings request.contract {} with
        ⟨flaw, flawed⟩ | ⟨document, session, returned⟩
      · exact absurd flawed (readable flaw)
      · obtain ⟨path, same⟩ := exists_perform_enrich returned task placed
        rw [same]
        exact enrich_flawed flawed

/-- What cannot be read is met, or there is no place to write to. -/
theorem perform_unreadable (unreadable : Unreadable surroundings request) :
    (perform surroundings configuration request).Refuses surroundings.disk
      (∀ flaw, Meets surroundings request flaw → flaw.isForeseen = true) := by
  by_cases met : ∃ flaw, Meets surroundings request flaw
  · obtain ⟨flaw, met⟩ := met
    obtain ⟨unchanged, status⟩ : (perform surroundings configuration request).Refuses
        surroundings.disk (flaw.isForeseen = true) := perform_meets met
    exact ⟨unchanged, fun refused _ met => (perform_meets met).2.1 refused,
      fun foreseen => status.2 (foreseen flaw met)⟩
  · have readable (flaw : Flaw) : ¬ ContractFlaw surroundings request.contract flaw :=
      fun flawed => met ⟨flaw, .contract flawed⟩
    rcases exists_flaw_or_returns surroundings request.contract {} with
      ⟨flaw, flawed⟩ | ⟨document, session, returned⟩
    · exact absurd flawed (readable flaw)
    · have lacks : LacksOutput request := by
        by_contra placed
        cases unreadable with
        | contract flawed => exact readable _ flawed
        | symbols task flawed => exact met ⟨_, .symbols readable task placed flawed⟩
      obtain ⟨unchanged, status⟩ : (perform surroundings configuration request).Refuses
          surroundings.disk True := perform_lacksOutput returned lacks
      exact ⟨unchanged, fun _ flaw found => absurd ⟨flaw, found⟩ met, fun _ => status.2 trivial⟩

end

/-! ## The program -/

theorem run_unreadable (asked : Request.ofArguments arguments = .ok request)
    (unreadable : Unreadable surroundings request) :
    (run surroundings arguments).Refuses surroundings.disk
      (LevelKnown surroundings request ∧
        ∀ flaw, Meets surroundings request flaw → flaw.isForeseen = true) := by
  unfold run LevelKnown
  rw [asked]
  dsimp only
  cases threshold? (configurationOf surroundings.environment request).logLevel with
  | none => exact ⟨rfl, nofun, fun known => nomatch known.1⟩
  | some threshold =>
      let configuration := configurationOf surroundings.environment request
      obtain ⟨unchanged, status⟩ : (perform surroundings configuration request).Refuses
          surroundings.disk (∀ flaw, Meets surroundings request flaw → flaw.isForeseen = true) :=
        perform_unreadable unreadable
      exact ⟨unchanged, status.trans (by simp)⟩

/-- A contract or manifest with a flaw is refused by its reader exactly when the flaw is
foreseen.  A run that asks for such an input writes nothing, and it ends with the status 2
exactly when the level of the log is known and the flaw that it meets is foreseen. -/
theorem refuses_iff (surroundings : Surroundings) :
    (∀ source flaw, ContractFlaw surroundings source flaw → ∀ s,
      ∃ fault, (Loading.contract surroundings source).outcome s = (.error fault, s) ∧
        ((∃ message, fault = .unreadableContract message) ↔ flaw.isForeseen = true)) ∧
    (∀ path flaw, SymbolsFlaw surroundings.disk surroundings.yaml path flaw →
      ∃ fault, Loading.symbols surroundings.disk path surroundings.yaml = .error fault ∧
        ((∃ message, fault = .unreadableSymbols message) ↔ flaw.isForeseen = true)) ∧
    ∀ arguments request, Request.ofArguments arguments = .ok request →
      Unreadable surroundings request →
        (run surroundings arguments).disk = surroundings.disk ∧
        ((run surroundings arguments).status = .ok 2 ↔
          LevelKnown surroundings request ∧
            ∀ flaw, Meets surroundings request flaw → flaw.isForeseen = true) :=
  ⟨fun _ _ flawed s => contract_flawed flawed s, fun _ _ flawed => symbols_flawed flawed,
    fun _ _ asked unreadable => run_unreadable asked unreadable⟩

/-- A client of `contract.json` is asked for. -/
def generation : Request := ⟨none, "contract.json", .generate defaultOutput none false⟩

/-- Without the file the run refuses. -/
theorem refuses_iff_absent :
    Request.ofArguments ["generate", "contract.json"] = .ok generation ∧
      ContractFlaw {} "contract.json" .absent ∧
      (run {} ["generate", "contract.json"]).disk.files = [] ∧
      (run {} ["generate", "contract.json"]).status = .ok 2 := by
  have missing : ({} : Surroundings).disk.read? (.ofText "contract.json") = none := rfl
  have flawed : ContractFlaw {} "contract.json" .absent := .file rfl (.absent missing)
  have refused := (refuses_iff {}).2.2 ["generate", "contract.json"] generation rfl (.contract flawed)
  refine ⟨rfl, flawed, congrArg Disk.files refused.1, refused.2.2 ⟨rfl, ?_⟩⟩
  rintro flaw (flawed | ⟨-, task, -, -⟩)
  · cases flawed with
    | file here unread =>
        cases unread with
        | absent => rfl
        | undecodable read => cases missing.symm.trans read
    | page address => cases address
    | unparsable holds =>
        cases holds with
        | file here holds =>
            obtain ⟨bytes, read, -⟩ := holds
            cases missing.symm.trans read
        | page address => cases address
    | notMapping => rfl
  · cases task

/-- The only byte of the contract belongs to no text. -/
def undecodable : Surroundings where
  disk := { files := [(["contract.json"], .bytes ⟨#[0xff]⟩)] }

/-- Bytes that are no text end the reading, and the run, in a fault of their own. -/
theorem undecodable_not_refused :
    ContractFlaw undecodable "contract.json" .undecodable ∧
      (Loading.contract undecodable "contract.json").outcome {} = (.error .undecodable, {}) ∧
      Request.ofArguments ["generate", "contract.json"] = .ok generation ∧
      (run undecodable ["generate", "contract.json"]).status = .error .undecodable :=
  ⟨.file rfl (.undecodable (show _ = some ⟨#[0xff]⟩ from rfl) (by decide)), rfl, rfl, rfl⟩

end TypedContract.Command
