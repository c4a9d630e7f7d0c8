/-
# TypedContract.Proofs.Document.Flawed -- contracts and manifests that cannot be read

Reading goes through stages: a file or page is there, its bytes are a text, the text has a
value, the value is an object, and for a manifest the object has a model.  A `Flaw` is the
first stage that fails.  A contract has a flaw or is returned (`exists_flaw_or_returns`).
A flaw always stops the reading, but each stage has its own list of faults that it turns
into a refusal, and some are on no list: bytes that are no text, a value that cannot be
built, a number of a manifest without an integer part.  The other flaws are foreseen
(`contract_flawed`, `symbols_flawed`).
-/
import TypedContract.Document.Loading
import TypedContract.Proofs.Returning
import TypedContract.Proofs.Symbol.Manifest

namespace TypedContract

set_option autoImplicit false

/-- What makes a contract or a manifest unreadable. -/
inductive Flaw where
  /-- Nothing can be read there. -/
  | absent
  /-- The bytes are no text. -/
  | undecodable
  /-- The text has no value. -/
  | unparsable (why : Json.ReadError)
  /-- The value is no object. -/
  | notMapping
  /-- The manifest has no model. -/
  | malformed (fault : Fault)

/-- Reading ends in a refusal.  It ends in another fault when the bytes are no text, when a
value cannot be built, and at a number of a manifest without an integer part. -/
def Flaw.isForeseen : Flaw → Bool
  | .undecodable => false
  | .unparsable .oversizedInteger => false
  | .malformed .tooLarge => false
  | _ => true

namespace Loading

variable {surroundings : Surroundings} {disk : Disk} {yaml : Yaml} {path : Disk.Path}
  {source name text : String} {flaw : Flaw}

/-! ## Files -/

/-- No text can be read from a file. -/
inductive FileFlaw (disk : Disk) (path : Disk.Path) : Flaw → Prop where
  | absent (missing : disk.read? path = none) : FileFlaw disk path .absent
  | undecodable {bytes : ByteArray} (read : disk.read? path = some bytes)
      (noText : String.fromUTF8? bytes = none) : FileFlaw disk path .undecodable

/-- A file holds a text. -/
def FileHolds (disk : Disk) (path : Disk.Path) (text : String) : Prop :=
  ∃ bytes, disk.read? path = some bytes ∧ String.fromUTF8? bytes = some text

theorem fileFlaw_or_holds (disk : Disk) (path : Disk.Path) :
    (∃ flaw, FileFlaw disk path flaw) ∨ ∃ text, FileHolds disk path text := by
  cases read : disk.read? path with
  | none => exact .inl ⟨_, .absent read⟩
  | some bytes =>
      cases decoded : String.fromUTF8? bytes with
      | none => exact .inl ⟨_, .undecodable read decoded⟩
      | some text => exact .inr ⟨text, bytes, read, decoded⟩

/-! ## Contracts -/

/-- A source stands for a text, which is read under a name. -/
inductive SourceHolds (surroundings : Surroundings) (source : String) : String → String → Prop where
  | file {text : String} (here : isAddress source = false)
      (holds : FileHolds surroundings.disk (.ofText source) text) :
      SourceHolds surroundings source (Disk.Path.ofText source).name text
  | page {page : Web.Page} (address : isAddress source = true)
      (fetched : surroundings.pages.fetch? source = some page) :
      SourceHolds surroundings source (String.ofList (source.toList.takeWhile (· != '?'))) page.body

/-- What makes the contract of a source unreadable. -/
inductive ContractFlaw (surroundings : Surroundings) (source : String) : Flaw → Prop where
  | file {flaw : Flaw} (here : isAddress source = false)
      (unread : FileFlaw surroundings.disk (.ofText source) flaw) :
      ContractFlaw surroundings source flaw
  | page (address : isAddress source = true) (missing : surroundings.pages.fetch? source = none) :
      ContractFlaw surroundings source .absent
  | unparsable {name text : String} {why : Json.ReadError}
      (holds : SourceHolds surroundings source name text)
      (failed : valueOf surroundings.yaml name text = .error why) :
      ContractFlaw surroundings source (.unparsable why)
  | notMapping {name text : String} {value : Json}
      (holds : SourceHolds surroundings source name text)
      (parsed : valueOf surroundings.yaml name text = .ok value)
      (other : ∀ entries, value ≠ .object entries) : ContractFlaw surroundings source .notMapping

theorem contract_of_sourceHolds (holds : SourceHolds surroundings source name text) :
    contract surroundings source = contractOf surroundings.yaml name text := by
  cases holds with
  | file here holds =>
      obtain ⟨bytes, read, decoded⟩ := holds
      rw [contract, here, if_neg Bool.false_ne_true, contractOfFile, read]
      dsimp only
      rw [decoded]
  | page address fetched => rw [contract, if_pos address, contractOfPage, fetched]

/-- A contract has a flaw or is returned. -/
theorem exists_flaw_or_returns (surroundings : Surroundings) (source : String) (s : Session) :
    (∃ flaw, ContractFlaw surroundings source flaw) ∨
      ∃ document t, Run.Returns (contract surroundings source) s document t := by
  have held : (∃ flaw, ContractFlaw surroundings source flaw) ∨
      ∃ name text, SourceHolds surroundings source name text := by
    cases address : isAddress source with
    | true =>
        cases fetched : surroundings.pages.fetch? source with
        | none => exact .inl ⟨_, .page address fetched⟩
        | some page => exact .inr ⟨_, _, .page address fetched⟩
    | false =>
        rcases fileFlaw_or_holds surroundings.disk (.ofText source) with ⟨flaw, unread⟩ | ⟨text, holds⟩
        · exact .inl ⟨flaw, .file address unread⟩
        · exact .inr ⟨_, text, .file address holds⟩
  rcases held with flawed | ⟨name, text, holds⟩
  · exact .inl flawed
  cases parsed : valueOf surroundings.yaml name text with
  | error why => exact .inl ⟨_, .unparsable holds parsed⟩
  | ok value =>
      cases value with
      | object entries =>
          refine .inr ?_
          rw [contract_of_sourceHolds holds, contractOf, parsed]
          dsimp only
          split
          · exact ⟨_, _, Run.returns_bind.2
              ⟨(), _, Run.returns_note.2 rfl, Run.returns_pure.2 ⟨rfl, rfl⟩⟩⟩
          · exact ⟨_, _, Run.returns_pure.2 ⟨rfl, rfl⟩⟩
      | _ => exact .inl ⟨_, .notMapping holds parsed nofun⟩

/-- A flaw stops the reading of a contract: with a refusal if it is foreseen, and otherwise
with another fault. -/
theorem contract_flawed (flawed : ContractFlaw surroundings source flaw) (s : Session) :
    ∃ fault, (contract surroundings source).outcome s = (.error fault, s) ∧
      ((∃ message, fault = .unreadableContract message) ↔ flaw.isForeseen = true) := by
  cases flawed with
  | file here unread =>
      rw [contract, here, if_neg Bool.false_ne_true, contractOfFile]
      cases unread with
      | absent missing =>
          rw [missing]
          exact ⟨_, rfl, fun _ => rfl, fun _ => ⟨_, rfl⟩⟩
      | undecodable read noText =>
          rw [read]
          dsimp only
          rw [noText]
          exact ⟨_, rfl, nofun, nofun⟩
  | page address missing =>
      rw [contract, if_pos address, contractOfPage, missing]
      exact ⟨_, rfl, fun _ => rfl, fun _ => ⟨_, rfl⟩⟩
  | unparsable holds failed =>
      rw [contract_of_sourceHolds holds, contractOf, failed]
      rename_i why
      cases why with
      | notJson => exact ⟨_, rfl, fun _ => rfl, fun _ => ⟨_, rfl⟩⟩
      | oversizedInteger => exact ⟨_, rfl, nofun, nofun⟩
  | notMapping holds parsed other =>
      rw [contract_of_sourceHolds holds, contractOf, parsed]
      rename_i value
      cases value with
      | object entries => exact absurd rfl (other entries)
      | _ => exact ⟨_, rfl, fun _ => rfl, fun _ => ⟨_, rfl⟩⟩

/-! ## Manifests -/

/-- What makes the manifest of a file unreadable. -/
inductive SymbolsFlaw (disk : Disk) (yaml : Yaml) (path : Disk.Path) : Flaw → Prop where
  | file {flaw : Flaw} (unread : FileFlaw disk path flaw) : SymbolsFlaw disk yaml path flaw
  | unparsable {text : String} {why : Json.ReadError} (holds : FileHolds disk path text)
      (failed : yaml text = .error why) : SymbolsFlaw disk yaml path (.unparsable why)
  | notMapping {text : String} {value : Json} (holds : FileHolds disk path text)
      (parsed : yaml text = .ok value)
      (other : ∀ entries, value.orElse (.object []) ≠ .object entries) :
      SymbolsFlaw disk yaml path .notMapping
  | malformed {text : String} {value : Json} {entries : List (String × Json)} {fault : Fault}
      (holds : FileHolds disk path text) (parsed : yaml text = .ok value)
      (object : value.orElse (.object []) = .object entries)
      (failed : Manifest.model (.object entries) path.text = .error fault) :
      SymbolsFlaw disk yaml path (.malformed fault)

theorem symbols_of_holds (holds : FileHolds disk path text) :
    symbols disk path yaml = match yaml text with
      | .error .notJson => .error (.unreadableSymbols ("cannot parse " ++ path.text))
      | .error .oversizedInteger => .error .badValue
      | .ok manifest => symbolsOf path.text manifest := by
  obtain ⟨bytes, read, decoded⟩ := holds
  rw [symbols, read]
  dsimp only
  exact decoded ▸ rfl

/-- A flaw stops the reading of a manifest: with a refusal if it is foreseen, and otherwise
with another fault. -/
theorem symbols_flawed (flawed : SymbolsFlaw disk yaml path flaw) :
    ∃ fault, symbols disk path yaml = .error fault ∧
      ((∃ message, fault = .unreadableSymbols message) ↔ flaw.isForeseen = true) := by
  cases flawed with
  | file unread =>
      cases unread with
      | absent missing =>
          rw [symbols, missing]
          exact ⟨_, rfl, fun _ => rfl, fun _ => ⟨_, rfl⟩⟩
      | undecodable read noText =>
          rw [symbols, read]
          dsimp only
          rw [noText]
          exact ⟨_, rfl, nofun, nofun⟩
  | unparsable holds failed =>
      rw [symbols_of_holds holds, failed]
      rename_i why
      cases why with
      | notJson => exact ⟨_, rfl, fun _ => rfl, fun _ => ⟨_, rfl⟩⟩
      | oversizedInteger => exact ⟨_, rfl, nofun, nofun⟩
  | notMapping holds parsed other =>
      rw [symbols_of_holds holds, parsed]
      dsimp only
      rw [symbolsOf]
      split
      · next object => exact absurd object (other _)
      · exact ⟨_, rfl, fun _ => rfl, fun _ => ⟨_, rfl⟩⟩
  | malformed holds parsed object failed =>
      rw [symbols_of_holds holds, parsed]
      dsimp only
      rw [symbolsOf, object]
      dsimp only
      rw [failed]
      cases Manifest.fails_model _ failed with
      | tooLarge => exact ⟨_, rfl, nofun, nofun⟩
      | _ => exact ⟨_, rfl, fun _ => rfl, fun _ => ⟨_, rfl⟩⟩

end Loading

end TypedContract
