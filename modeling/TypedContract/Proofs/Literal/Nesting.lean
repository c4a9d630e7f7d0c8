/-
# TypedContract.Proofs.Literal.Nesting -- what limits of a text hold of its value

The words of a text bound what can be built from them: brackets that nest at most so deep
(`Nests`) make an expression whose collections nest at most so deep (`Expression.Within`),
and its value nests no deeper and has no integers but those of the words and their opposites
(`Literal.Tidy`).  Every mapping of the value has its text keys once, because an entry is
stored in the place of an older one of its key.  So the JSON value that is kept of it is
`Json.Regular`, and one without long integers can be written (`Regular.writable`).

The parser's functions call one another along a bound on the recursion; what they keep is
said of all of them at once (`ParsersKeep`) and carried by induction on the bound.
-/
import TypedContract.Proofs.Literal.Settling
import TypedContract.Proofs.Literal.Writable

namespace TypedContract

set_option autoImplicit false

namespace Literal

/-! ## Words -/

/-- The value is no collection, and if it is an integer it is an allowed one. -/
def IsScalar (allowed : Int → Prop) : Literal → Prop
  | .int value => allowed value
  | .list _ | .tuple _ | .set _ | .mapping _ => False
  | _ => True

theorem IsScalar.of_never {allowed : Int → Prop} {value : Literal}
    (scalar : value.IsScalar fun _ => False) : value.IsScalar allowed := by
  cases value with
  | int value => cases scalar
  | _ => exact scalar

namespace Token

/-- The word stands for no collection, and only numbers stand for integers, which are allowed
ones. -/
def IsScalar (allowed : Int → Prop) : Token → Prop
  | .number value => value.IsScalar allowed
  | .constant value => value.IsScalar fun _ => False
  | _ => True

/-- The words between brackets are allowed, and at most so many brackets are open at once beyond
those that are open before. -/
def Nests (allowed : Token → Prop) : Nat → List Token → Prop
  | _, [] => True
  | room, .opening _ :: rest => 0 < room ∧ Nests allowed (room - 1) rest
  | room, .closing _ :: rest => Nests allowed (room + 1) rest
  | room, token :: rest => allowed token ∧ Nests allowed room rest

variable {allowed allowed' : Token → Prop} {room : Nat} {token : Token} {words rest : List Token}
  {text after : List Char}

theorem Nests.imp (nests : Nests allowed room words)
    (each : ∀ token ∈ words, allowed token → allowed' token) : Nests allowed' room words := by
  induction words generalizing room with
  | nil => trivial
  | cons token rest ih =>
      have more {room : Nat} (nests : Nests allowed room rest) : Nests allowed' room rest :=
        ih nests fun other member => each other (List.mem_cons_of_mem _ member)
      have own := each token List.mem_cons_self
      cases token with
      | opening bracket => exact ⟨nests.1, more nests.2⟩
      | closing bracket => exact more nests
      | _ => exact ⟨own nests.1, more nests.2⟩

/-- As many words as there are have room. -/
theorem nests_of_length_le (long : words.length ≤ room) : Nests (fun _ => True) room words := by
  induction words generalizing room with
  | nil => trivial
  | cons token rest ih =>
      rw [List.length_cons] at long
      cases token with
      | opening bracket => exact ⟨by omega, ih (by omega)⟩
      | closing bracket =>
          show Nests _ (room + 1) rest
          exact ih (by omega)
      | _ => exact ⟨trivial, ih (by omega)⟩

/-! ## The words of a text -/

/-- The word of a character on its own is a mark or a bracket. -/
theorem isScalar_of_mark? {c : Char} (marked : mark? c = some token) :
    token.IsScalar fun _ => True := by
  unfold mark? at marked
  split at marked <;> cases marked <;> trivial

theorem isScalar_of_decimal? {value : Literal} (read : decimal? text = some (value, after)) :
    value.IsScalar fun _ => True := by
  unfold decimal? at read
  dsimp only at read
  split at read
  · cases read
  · split at read
    · cases read
      trivial
    · split at read
      · cases read
        trivial
      · obtain ⟨found, whole, same⟩ := Option.map_eq_some_iff.1 read
        cases same
        unfold integer? at whole
        split at whole
        · cases whole
          trivial
        · split at whole
          · cases whole
          · cases whole
            trivial

theorem isScalar_of_number? {value : Literal} (read : number? text = some (value, after)) :
    value.IsScalar fun _ => True := by
  have based {base : Nat} {digits : List Char} (read : based? base digits = some (value, after)) :
      value.IsScalar fun _ => True := by
    unfold based? at read
    split at read
    · cases read
    · split at read
      · cases read
        trivial
      · cases read
  unfold number? at read
  split at read
  · split at read
    · exact based read
    · split at read
      · exact based read
      · split at read
        · exact based read
        · exact isScalar_of_decimal? read
  · exact isScalar_of_decimal? read

theorem isScalar_of_quoted? {raw binary : Bool} {quote : Char}
    (read : quoted? raw binary quote text = some (token, after)) :
    token.IsScalar fun _ => True := by
  obtain ⟨⟨body, rest⟩, -, read⟩ := Option.bind_eq_some_iff.1 read
  obtain ⟨found, held, same⟩ := Option.bind_eq_some_iff.1 read
  cases same
  unfold content? at held
  split at held
  · obtain ⟨bytes, -, rfl⟩ := Option.map_eq_some_iff.1 held
    trivial
  · obtain ⟨chars, -, rfl⟩ := Option.map_eq_some_iff.1 held
    trivial

theorem isScalar_of_word? {name : List Char} (read : word? name = some token) :
    token.IsScalar fun _ => True := by
  unfold word? at read
  split at read
  · cases read
    trivial
  · split at read
    · cases read
      trivial
    · split at read
      · cases read
        trivial
      · split at read
        · cases read
          trivial
        · cases read

theorem isScalar_of_named? (read : named? text = some (token, after)) :
    token.IsScalar fun _ => True := by
  unfold named? at read
  dsimp only at read
  split at read
  · split at read
    · obtain ⟨⟨raw, binary⟩, -, read⟩ := Option.bind_eq_some_iff.1 read
      exact isScalar_of_quoted? read
    · obtain ⟨found, word, same⟩ := Option.map_eq_some_iff.1 read
      cases same
      exact isScalar_of_word? word
  · obtain ⟨found, word, same⟩ := Option.map_eq_some_iff.1 read
    cases same
    exact isScalar_of_word? word

theorem isScalar_of_pointed? (read : pointed? text = some (token, after)) :
    token.IsScalar fun _ => True := by
  unfold pointed? at read
  split at read
  · cases read
    trivial
  · split at read
    · obtain ⟨⟨value, rest⟩, number, same⟩ := Option.map_eq_some_iff.1 read
      cases same
      exact isScalar_of_decimal? number
    · cases read
  · cases read

theorem isScalar_of_next? (read : next? text = some (token, after)) :
    token.IsScalar fun _ => True := by
  unfold next? at read
  split at read
  · cases read
  · split at read
    · next marked =>
        cases read
        exact isScalar_of_mark? marked
    · split at read
      · exact isScalar_of_pointed? read
      · split at read
        · obtain ⟨⟨value, rest⟩, number, same⟩ := Option.map_eq_some_iff.1 read
          cases same
          exact isScalar_of_number? number
        · split at read
          · exact isScalar_of_quoted? read
          · split at read
            · exact isScalar_of_named? read
            · cases read

theorem isScalar_of_scan? {bound depth : Nat} (read : scan? bound depth text = some words) :
    ∀ token ∈ words, token.IsScalar fun _ => True := by
  induction bound generalizing depth text words with
  | zero =>
      cases text with
      | nil =>
          cases read
          exact List.forall_mem_nil _
      | cons c rest => cases read
  | succ bound ih =>
      cases text with
      | nil =>
          cases read
          exact List.forall_mem_nil _
      | cons c rest =>
          rw [scan?.eq_def] at read
          dsimp only at read
          split at read
          · exact ih read
          split at read
          · exact ih read
          split at read
          · split at read
            · split at read
              · cases read
                exact List.forall_mem_nil _
              · cases read
            · exact ih read
          split at read
          · split at read
            · exact ih read
            · cases read
          · obtain ⟨⟨token, after⟩, first, read⟩ := Option.bind_eq_some_iff.1 read
            obtain ⟨depth, -, read⟩ := Option.bind_eq_some_iff.1 read
            obtain ⟨more, others, same⟩ := Option.bind_eq_some_iff.1 read
            cases same
            exact List.forall_mem_cons.2 ⟨isScalar_of_next? first, ih others⟩

end Token

/-- No word of a text stands for a collection. -/
theorem isScalar_of_words? {text : String} {words : List Token} (cut : words? text = some words) :
    ∀ token ∈ words, token.IsScalar fun _ => True := by
  unfold words? Token.ofText? at cut
  split at cut
  · cases cut
  · obtain ⟨⟨width, line⟩, -, cut⟩ := Option.bind_eq_some_iff.1 cut
    dsimp only at cut
    split at cut
    · cases cut
    · exact Token.isScalar_of_scan? cut

/-! ## Expressions -/

namespace Expression

variable {allowed : Int → Prop} {room room' bound : Nat} {e : Expression} {words rest : List Token}

/-- The collections of the expression stand in one another at most so deep, and its integers are
allowed. -/
inductive Within (allowed : Int → Prop) : Nat → Expression → Prop where
  | constant {room : Nat} {value : Literal} (scalar : value.IsScalar allowed) :
      Within allowed room (.constant value)
  | number {room : Nat} {value : Literal} (scalar : value.IsScalar allowed) :
      Within allowed room (.number value)
  | setName {room : Nat} : Within allowed room .setName
  | emptySet {room : Nat} : Within allowed room .emptySet
  | signed {room : Nat} {negative : Bool} {operand : Expression} (own : Within allowed room operand) :
      Within allowed room (.signed negative operand)
  | sum {room : Nat} {negative : Bool} {left right : Expression} (first : Within allowed room left)
      (second : Within allowed room right) : Within allowed room (.sum negative left right)
  | tuple {room : Nat} {items : List Expression} (each : ∀ item ∈ items, Within allowed room item) :
      Within allowed (room + 1) (.tuple items)
  | list {room : Nat} {items : List Expression} (each : ∀ item ∈ items, Within allowed room item) :
      Within allowed (room + 1) (.list items)
  | set {room : Nat} {items : List Expression} (each : ∀ item ∈ items, Within allowed room item) :
      Within allowed (room + 1) (.set items)
  | mapping {room : Nat} {entries : List (Expression × Expression)}
      (keys : ∀ entry ∈ entries, Within allowed room entry.1)
      (items : ∀ entry ∈ entries, Within allowed room entry.2) :
      Within allowed (room + 1) (.mapping entries)

theorem Within.mono (within : Within allowed room e) (more : room ≤ room') :
    Within allowed room' e := by
  induction within generalizing room' with
  | constant scalar => exact .constant scalar
  | number scalar => exact .number scalar
  | setName => exact .setName
  | emptySet => exact .emptySet
  | signed own ih => exact .signed (ih more)
  | sum first second ih ih' => exact .sum (ih more) (ih' more)
  | tuple each ih =>
      obtain ⟨less, rfl⟩ := Nat.exists_eq_add_of_le' (Nat.le_of_add_left_le more)
      exact .tuple fun item member => ih item member (by omega)
  | list each ih =>
      obtain ⟨less, rfl⟩ := Nat.exists_eq_add_of_le' (Nat.le_of_add_left_le more)
      exact .list fun item member => ih item member (by omega)
  | set each ih =>
      obtain ⟨less, rfl⟩ := Nat.exists_eq_add_of_le' (Nat.le_of_add_left_le more)
      exact .set fun item member => ih item member (by omega)
  | mapping keys items ih ih' =>
      obtain ⟨less, rfl⟩ := Nat.exists_eq_add_of_le' (Nat.le_of_add_left_le more)
      exact .mapping (fun entry member => ih entry member (by omega))
        fun entry member => ih' entry member (by omega)

/-- The words stand for scalars with allowed integers, and their brackets nest at most so deep. -/
def WordsWithin (allowed : Int → Prop) (room : Nat) (words : List Token) : Prop :=
  Token.Nests (Token.IsScalar allowed) room words

/-- Behind a closing bracket there is the room that there was before its opening one. -/
theorem WordsWithin.close (holds : WordsWithin allowed (room - 1 + 1) words) (some : 0 < room) :
    WordsWithin allowed room words := by
  have same : room - 1 + 1 = room := by omega
  rwa [same] at holds

/-! ## The parser -/

/-- What the functions of the parser keep up to a bound on their recursion: what they return is
within the room of the words, and the words that follow have the room that they had. -/
structure ParsersKeep (allowed : Int → Prop) (bound : Nat) : Prop where
  parse : ∀ {room words e rest}, parse? bound words = some (e, rest) →
    WordsWithin allowed room words →
    Within allowed room e ∧ WordsWithin allowed room rest
  term : ∀ {room words e rest}, term? bound words = some (e, rest) →
    WordsWithin allowed room words →
    Within allowed room e ∧ WordsWithin allowed room rest
  operand : ∀ {room words e rest}, operand? bound words = some (e, rest) →
    WordsWithin allowed room words → Within allowed room e ∧ WordsWithin allowed room rest
  braces : ∀ {room words e rest}, braces? bound words = some (e, rest) →
    WordsWithin allowed room words →
    Within allowed (room + 1) e ∧ WordsWithin allowed (room + 1) rest
  items : ∀ {room words bracket items comma rest},
    items? bound bracket words = some (items, comma, rest) → WordsWithin allowed room words →
      (∀ item ∈ items, Within allowed room item) ∧ WordsWithin allowed (room + 1) rest
  entries : ∀ {room words entries rest}, entries? bound words = some (entries, rest) →
    WordsWithin allowed room words → ((∀ entry ∈ entries, Within allowed room entry.1) ∧
      ∀ entry ∈ entries, Within allowed room entry.2) ∧ WordsWithin allowed (room + 1) rest

section

variable {α : Type} {join : List Token → List α × List Token} {piece : List α → Token}

/-- The pieces at the start of the words are joined: each is taken, and nothing else. -/
structure Joins (join : List Token → List α × List Token) (piece : List α → Token) : Prop where
  step : ∀ content rest, (join (piece content :: rest)).2 = (join rest).2
  stop : ∀ words, (∀ content rest, words ≠ piece content :: rest) → (join words).2 = words
  /-- A piece is no bracket. -/
  flat : ∀ {allowed room content rest}, WordsWithin allowed room (piece content :: rest) →
    WordsWithin allowed room rest

theorem joins_texts : Joins texts .textPiece where
  step _ _ := rfl
  stop words apart := by
    unfold texts
    split
    · exact absurd rfl (apart _ _)
    · rfl
  flat := And.right

theorem joins_byteTexts : Joins byteTexts .bytePiece where
  step _ _ := rfl
  stop words apart := by
    unfold byteTexts
    split
    · exact absurd rfl (apart _ _)
    · rfl
  flat := And.right

namespace Joins

variable (joins : Joins join piece)
include joins

/-- The words behind the pieces have the room that there was before them. -/
theorem wordsWithin (holds : WordsWithin allowed room words) :
    WordsWithin allowed room (join words).2 := by
  induction words with
  | nil => rwa [joins.stop [] nofun]
  | cons token more ih =>
      by_cases own : ∃ content, token = piece content
      · obtain ⟨content, rfl⟩ := own
        rw [joins.step]
        exact ih (joins.flat holds)
      · rw [joins.stop _ fun content rest same => own ⟨content, (List.cons.inj same).1⟩]
        exact holds

/-- The constant that the pieces make, and what follows it. -/
theorem within {value : Literal} {content : List α} (scalar : value.IsScalar allowed)
    (joined : join words = (content, rest)) (own : WordsWithin allowed room words) :
    Within allowed room (.constant value) ∧ WordsWithin allowed room rest :=
  ⟨.constant scalar, by simpa only [joined] using joins.wordsWithin own⟩

end Joins

end

theorem within_text? (parsed : text? words = some (e, rest))
    (holds : WordsWithin allowed room words) :
    Within allowed room e ∧ WordsWithin allowed room rest := by
  unfold text? at parsed
  split at parsed <;> cases parsed
  exact joins_texts.within trivial ‹_› holds

theorem within_bytes? (parsed : bytes? words = some (e, rest))
    (holds : WordsWithin allowed room words) :
    Within allowed room e ∧ WordsWithin allowed room rest := by
  unfold bytes? at parsed
  split at parsed <;> cases parsed
  exact joins_byteTexts.within trivial ‹_› holds

theorem within_called {operand : Expression} (own : Within allowed room operand)
    (parsed : called operand words = some (e, rest)) (holds : WordsWithin allowed room words) :
    Within allowed room e ∧ WordsWithin allowed room rest := by
  unfold called at parsed
  split at parsed
  · split at parsed
    · cases parsed
      obtain ⟨some, holds⟩ := holds
      exact ⟨.emptySet, WordsWithin.close holds some⟩
    · cases parsed
  · cases parsed
    exact ⟨own, holds⟩

theorem within_grouped? {items : List Expression} {comma : Bool}
    (each : ∀ item ∈ items, Within allowed room item) (grouped : grouped? items comma = some e) :
    Within allowed (room + 1) e := by
  unfold grouped? at grouped
  split at grouped
  · cases grouped
    exact (each e List.mem_cons_self).mono (Nat.le_succ room)
  · cases grouped
    exact .tuple each

namespace ParsersKeep

theorem zero : ParsersKeep allowed 0 := ⟨nofun, nofun, nofun, nofun, nofun, nofun⟩

variable (keeps : ParsersKeep allowed bound)
include keeps

theorem parse_succ (parsed : parse? (bound + 1) words = some (e, rest))
    (holds : WordsWithin allowed room words) :
    Within allowed room e ∧ WordsWithin allowed room rest := by
  rw [parse?] at parsed
  obtain ⟨⟨left, after⟩, first, parsed⟩ := Option.bind_eq_some_iff.1 parsed
  obtain ⟨left, holds⟩ := keeps.term first holds
  dsimp only at parsed
  split at parsed
  · obtain ⟨⟨right, after⟩, second, same⟩ := Option.bind_eq_some_iff.1 parsed
    cases same
    obtain ⟨right, holds⟩ := keeps.term second holds.2
    exact ⟨.sum left right, holds⟩
  · obtain ⟨⟨right, after⟩, second, same⟩ := Option.bind_eq_some_iff.1 parsed
    cases same
    obtain ⟨right, holds⟩ := keeps.term second holds.2
    exact ⟨.sum left right, holds⟩
  · cases parsed
    exact ⟨left, holds⟩

theorem term_succ (parsed : term? (bound + 1) words = some (e, rest))
    (holds : WordsWithin allowed room words) :
    Within allowed room e ∧ WordsWithin allowed room rest := by
  have signed {negative : Bool} {more : List Token} (holds : WordsWithin allowed room more)
      (parsed : (do let read ← term? bound more
                    return (Expression.signed negative read.1, read.2)) = some (e, rest)) :
      Within allowed room e ∧ WordsWithin allowed room rest := by
    obtain ⟨⟨operand, after⟩, own, same⟩ := Option.bind_eq_some_iff.1 parsed
    cases same
    obtain ⟨own, holds⟩ := keeps.term own holds
    exact ⟨.signed own, holds⟩
  have unsigned (parsed : (do let read ← operand? bound words
                              called read.1 read.2) = some (e, rest)) :
      Within allowed room e ∧ WordsWithin allowed room rest := by
    obtain ⟨⟨operand, after⟩, own, parsed⟩ := Option.bind_eq_some_iff.1 parsed
    obtain ⟨own, holds⟩ := keeps.operand own holds
    exact within_called own parsed holds
  cases words with
  | nil => exact unsigned parsed
  | cons token more =>
      cases token with
      | plus => exact signed holds.2 parsed
      | minus => exact signed holds.2 parsed
      | _ => exact unsigned parsed

theorem operand_succ (parsed : operand? (bound + 1) words = some (e, rest))
    (holds : WordsWithin allowed room words) :
    Within allowed room e ∧ WordsWithin allowed room rest := by
  cases words with
  | nil => cases parsed
  | cons token more =>
      cases token with
      | constant value =>
          cases parsed
          exact ⟨.constant holds.1.of_never, holds.2⟩
      | number value =>
          cases parsed
          exact ⟨.number holds.1, holds.2⟩
      | setName =>
          cases parsed
          exact ⟨.setName, holds.2⟩
      | textPiece content => exact within_text? parsed holds
      | bytePiece content => exact within_bytes? parsed holds
      | plus | minus | comma | colon | closing _ => cases parsed
      | opening bracket =>
          obtain ⟨some, holds⟩ := holds
          -- what stands in brackets has one step less room than they have
          have same : room - 1 + 1 = room := by omega
          cases bracket with
          | round =>
              obtain ⟨⟨items, comma, after⟩, listed, parsed⟩ := Option.bind_eq_some_iff.1 parsed
              obtain ⟨item, grouped, parsed⟩ := Option.bind_eq_some_iff.1 parsed
              cases parsed
              obtain ⟨each, holds⟩ := keeps.items listed holds
              exact ⟨same ▸ within_grouped? each grouped, holds.close some⟩
          | square =>
              obtain ⟨⟨items, comma, after⟩, listed, parsed⟩ := Option.bind_eq_some_iff.1 parsed
              cases parsed
              obtain ⟨each, holds⟩ := keeps.items listed holds
              exact ⟨same ▸ .list each, holds.close some⟩
          | curly =>
              obtain ⟨own, holds⟩ := keeps.braces parsed holds
              exact ⟨same ▸ own, holds.close some⟩

/-- An entry, its colon and its value. -/
theorem pair {key item : Expression} {afterKey after : List Token}
    (keyed : parse? bound words = some (key, .colon :: afterKey))
    (valued : parse? bound afterKey = some (item, after)) (holds : WordsWithin allowed room words) :
    (Within allowed room key ∧ Within allowed room item) ∧ WordsWithin allowed room after := by
  obtain ⟨key, holds⟩ := keeps.parse keyed holds
  obtain ⟨item, holds⟩ := keeps.parse valued holds.2
  exact ⟨⟨key, item⟩, holds⟩

theorem braces_succ (parsed : braces? (bound + 1) words = some (e, rest))
    (holds : WordsWithin allowed room words) :
    Within allowed (room + 1) e ∧ WordsWithin allowed (room + 1) rest := by
  unfold braces? at parsed
  split at parsed
  · cases parsed
  · cases parsed
    exact ⟨.mapping (List.forall_mem_nil _) (List.forall_mem_nil _), holds⟩
  · next equal _ =>
      cases equal
      obtain ⟨⟨first, after⟩, keyed, parsed⟩ := Option.bind_eq_some_iff.1 parsed
      dsimp only at parsed
      split at parsed
      · obtain ⟨⟨value, after⟩, valued, parsed⟩ := Option.bind_eq_some_iff.1 parsed
        obtain ⟨⟨key, item⟩, holds⟩ := keeps.pair keyed valued holds
        dsimp only at parsed
        split at parsed
        · obtain ⟨⟨entries, after⟩, others, parsed⟩ := Option.bind_eq_some_iff.1 parsed
          cases parsed
          obtain ⟨⟨keys, items⟩, holds⟩ := keeps.entries others holds.2
          exact ⟨.mapping (List.forall_mem_cons.2 ⟨key, keys⟩) (List.forall_mem_cons.2 ⟨item, items⟩),
            holds⟩
        · cases parsed
          exact ⟨.mapping (List.forall_mem_singleton.2 key) (List.forall_mem_singleton.2 item), holds⟩
        · cases parsed
      · obtain ⟨⟨items, comma, after⟩, others, parsed⟩ := Option.bind_eq_some_iff.1 parsed
        cases parsed
        obtain ⟨first, holds⟩ := keeps.parse keyed holds
        obtain ⟨each, holds⟩ := keeps.items others holds.2
        exact ⟨.set (List.forall_mem_cons.2 ⟨first, each⟩), holds⟩
      · cases parsed
        obtain ⟨first, holds⟩ := keeps.parse keyed holds
        exact ⟨.set (List.forall_mem_singleton.2 first), holds⟩
      · cases parsed

theorem items_succ {bracket : Bracket} {items : List Expression} {comma : Bool}
    (parsed : items? (bound + 1) bracket words = some (items, comma, rest))
    (holds : WordsWithin allowed room words) :
    (∀ item ∈ items, Within allowed room item) ∧ WordsWithin allowed (room + 1) rest := by
  rw [items?.eq_def] at parsed
  dsimp only at parsed
  split at parsed
  · split at parsed
    · cases parsed
      exact ⟨List.forall_mem_nil _, holds⟩
    · cases parsed
  · obtain ⟨⟨item, after⟩, first, parsed⟩ := Option.bind_eq_some_iff.1 parsed
    obtain ⟨own, holds⟩ := keeps.parse first holds
    dsimp only at parsed
    split at parsed
    · obtain ⟨⟨items, comma, after⟩, others, parsed⟩ := Option.bind_eq_some_iff.1 parsed
      cases parsed
      obtain ⟨each, holds⟩ := keeps.items others holds.2
      exact ⟨List.forall_mem_cons.2 ⟨own, each⟩, holds⟩
    · split at parsed
      · cases parsed
        exact ⟨List.forall_mem_singleton.2 own, holds⟩
      · cases parsed
    · cases parsed

theorem entries_succ {entries : List (Expression × Expression)}
    (parsed : entries? (bound + 1) words = some (entries, rest))
    (holds : WordsWithin allowed room words) :
    ((∀ entry ∈ entries, Within allowed room entry.1) ∧
      ∀ entry ∈ entries, Within allowed room entry.2) ∧ WordsWithin allowed (room + 1) rest := by
  unfold entries? at parsed
  split at parsed
  · cases parsed
  · cases parsed
    exact ⟨⟨List.forall_mem_nil _, List.forall_mem_nil _⟩, holds⟩
  · next equal _ =>
      cases equal
      obtain ⟨⟨first, after⟩, keyed, parsed⟩ := Option.bind_eq_some_iff.1 parsed
      dsimp only at parsed
      split at parsed
      · obtain ⟨⟨value, after⟩, valued, parsed⟩ := Option.bind_eq_some_iff.1 parsed
        obtain ⟨⟨key, item⟩, holds⟩ := keeps.pair keyed valued holds
        dsimp only at parsed
        split at parsed
        · obtain ⟨⟨entries, after⟩, others, parsed⟩ := Option.bind_eq_some_iff.1 parsed
          cases parsed
          obtain ⟨⟨keys, items⟩, holds⟩ := keeps.entries others holds.2
          exact ⟨⟨List.forall_mem_cons.2 ⟨key, keys⟩, List.forall_mem_cons.2 ⟨item, items⟩⟩, holds⟩
        · cases parsed
          exact ⟨⟨List.forall_mem_singleton.2 key, List.forall_mem_singleton.2 item⟩, holds⟩
        · cases parsed
      · cases parsed

theorem succ : ParsersKeep allowed (bound + 1) where
  parse := keeps.parse_succ
  term := keeps.term_succ
  operand := keeps.operand_succ
  braces := keeps.braces_succ
  items := keeps.items_succ
  entries := keeps.entries_succ

end ParsersKeep

theorem parsersKeep (bound : Nat) : ParsersKeep allowed bound := by
  induction bound with
  | zero => exact .zero
  | succ bound ih => exact ih.succ

theorem within_sequence? {items : List Expression} {comma : Bool}
    (parsed : sequence? bound words = some (items, comma))
    (holds : WordsWithin allowed room words) :
    ∀ item ∈ items, Within allowed room item := by
  induction bound generalizing words items comma with
  | zero => cases parsed
  | succ bound ih =>
      rw [sequence?] at parsed
      obtain ⟨⟨item, after⟩, first, parsed⟩ := Option.bind_eq_some_iff.1 parsed
      obtain ⟨own, holds⟩ := (parsersKeep _).parse first holds
      dsimp only at parsed
      split at parsed
      · cases parsed
        exact List.forall_mem_singleton.2 own
      · cases parsed
        exact List.forall_mem_singleton.2 own
      · obtain ⟨⟨items, comma⟩, others, parsed⟩ := Option.bind_eq_some_iff.1 parsed
        cases parsed
        exact List.forall_mem_cons.2 ⟨own, ih others holds.2⟩
      · cases parsed

/-- The words of a bare tuple nest one less deep than it. -/
theorem within_ofTokens? (formed : ofTokens? words = some e)
    (holds : WordsWithin allowed room words) :
    Within allowed (room + 1) e := by
  obtain ⟨⟨items, comma⟩, listed, grouped⟩ := Option.bind_eq_some_iff.1 formed
  exact within_grouped? (within_sequence? listed holds) grouped

end Expression

/-! ## Values -/

/-- The keys of the entries that are texts. -/
def textKeys : List (Literal × Literal) → List String
  | [] => []
  | (.str name, _) :: rest => name :: textKeys rest
  | _ :: rest => textKeys rest

/-- The lists and mappings of the value stand in one another at most so deep, its integers are
allowed, and no mapping has a text twice as a key.  Nothing is asked of keys and sets, which are
not kept. -/
inductive Tidy (allowed : Int → Prop) : Nat → Literal → Prop where
  | scalar {room : Nat} {value : Literal} (own : value.IsScalar allowed) : Tidy allowed room value
  | set {room : Nat} {items : List Literal} : Tidy allowed room (.set items)
  | tuple {room : Nat} {items : List Literal} (each : ∀ item ∈ items, Tidy allowed room item) :
      Tidy allowed (room + 1) (.tuple items)
  | list {room : Nat} {items : List Literal} (each : ∀ item ∈ items, Tidy allowed room item) :
      Tidy allowed (room + 1) (.list items)
  | mapping {room : Nat} {entries : List (Literal × Literal)}
      (distinct : (textKeys entries).Nodup)
      (each : ∀ entry ∈ entries, Tidy allowed room entry.2) :
      Tidy allowed (room + 1) (.mapping entries)

namespace Expression

variable {allowed : Int → Prop} {room : Nat} {e : Expression} {key value v : Literal}
  {held : List (Literal × Literal)}

theorem isScalar_negate (opposite : ∀ n, allowed n → allowed (-n)) (scalar : v.IsScalar allowed) :
    (negate v).IsScalar allowed := by
  cases v with
  | int n => exact opposite n scalar
  | _ => exact scalar

theorem isScalar_of_signedNumber? (opposite : ∀ n, allowed n → allowed (-n))
    (within : Within allowed room e) (number : signedNumber? e = some v) : v.IsScalar allowed := by
  unfold signedNumber? at number
  split at number
  · cases number
    cases within with
    | number scalar => exact scalar
  · cases number
    cases within with
    | signed own =>
        cases own with
        | number scalar => exact scalar
  · cases number
    cases within with
    | signed own =>
        cases own with
        | number scalar => exact isScalar_negate opposite scalar
  · cases number

theorem exists_of_mem_values {items : List Expression} {vs : List Literal}
    (valued : values items = .ok vs) : ∀ v ∈ vs, ∃ item ∈ items, item.value = .ok v := by
  induction items generalizing vs with
  | nil =>
      cases valued
      exact List.forall_mem_nil _
  | cons item rest ih =>
      obtain ⟨first, own, valued⟩ := except_bind_eq_ok.1 valued
      obtain ⟨others, each, same⟩ := except_bind_eq_ok.1 valued
      cases same
      refine List.forall_mem_cons.2 ⟨⟨item, List.mem_cons_self, own⟩, fun v member => ?_⟩
      obtain ⟨item', inside, own'⟩ := ih each v member
      exact ⟨item', List.mem_cons_of_mem _ inside, own'⟩

/-! ## Entries that are stored -/

/-- An entry is stored in the place of the first one or behind it. -/
theorem store_cons_cases {first old : Literal} {rest : List (Literal × Literal)} :
    (∃ name, first = .str name ∧ key = .str name ∧
        store key value ((first, old) :: rest) = (first, value) :: rest) ∨
      (∀ name, first = .str name → key ≠ .str name) ∧
        store key value ((first, old) :: rest) = (first, old) :: store key value rest := by
  cases first with
  | str name =>
      cases key with
      | str name' =>
          by_cases same : name = name'
          · subst same
            refine .inl ⟨name, rfl, rfl, ?_⟩
            rw [store, if_pos (beq_self_eq_true name)]
          · refine .inr ⟨?_, ?_⟩
            · rintro _ ⟨⟩ ⟨⟩
              exact same rfl
            · rw [store, if_neg (by simpa using same)]
      | _ => exact .inr ⟨fun _ _ => nofun, rfl⟩
  | _ => exact .inr ⟨nofun, rfl⟩

theorem mem_textKeys_cons {first old : Literal} {rest : List (Literal × Literal)} {name : String} :
    name ∈ textKeys ((first, old) :: rest) ↔ first = .str name ∨ name ∈ textKeys rest := by
  cases first with
  | str other =>
      rw [textKeys, List.mem_cons, str.injEq]
      exact or_congr_left eq_comm
  | _ => exact (or_iff_right nofun).symm

theorem mem_textKeys_store {name : String} (member : name ∈ textKeys (store key value held)) :
    key = .str name ∨ name ∈ textKeys held := by
  induction held with
  | nil => exact (mem_textKeys_cons.1 member).imp_right nofun
  | cons entry rest ih =>
      obtain ⟨first, old⟩ := entry
      rcases store_cons_cases with ⟨_, -, -, same⟩ | ⟨-, same⟩
      · rw [same, mem_textKeys_cons] at member
        exact .inr (mem_textKeys_cons.2 member)
      · rw [same, mem_textKeys_cons] at member
        rcases member with own | inside
        · exact .inr (mem_textKeys_cons.2 (.inl own))
        · exact (ih inside).imp_right fun inside => mem_textKeys_cons.2 (.inr inside)

theorem nodup_textKeys_cons {first old : Literal} {rest : List (Literal × Literal)} :
    (textKeys ((first, old) :: rest)).Nodup ↔
      (∀ name, first = .str name → name ∉ textKeys rest) ∧ (textKeys rest).Nodup := by
  cases first with
  | str other =>
      rw [textKeys, List.nodup_cons]
      refine and_congr_left fun _ => ⟨?_, fun fresh => fresh other rfl⟩
      rintro fresh _ ⟨⟩
      exact fresh
  | _ => exact (and_iff_right nofun).symm

/-- Storing an entry leaves each text a key once. -/
theorem nodup_textKeys_store (distinct : (textKeys held).Nodup) :
    (textKeys (store key value held)).Nodup := by
  induction held with
  | nil => exact nodup_textKeys_cons.2 ⟨fun _ _ => List.not_mem_nil, List.nodup_nil⟩
  | cons entry rest ih =>
      obtain ⟨first, old⟩ := entry
      obtain ⟨fresh, distinct⟩ := nodup_textKeys_cons.1 distinct
      rcases store_cons_cases with ⟨_, -, -, same⟩ | ⟨apart, same⟩
      · rw [same]
        exact nodup_textKeys_cons.2 ⟨fresh, distinct⟩
      · rw [same]
        refine nodup_textKeys_cons.2 ⟨fun name own member => ?_, ih distinct⟩
        rcases mem_textKeys_store member with stored | inside
        · exact apart name own stored
        · exact fresh name own inside

theorem forall_mem_store {good : Literal → Prop} (fine : good value)
    (each : ∀ entry ∈ held, good entry.2) : ∀ entry ∈ store key value held, good entry.2 := by
  induction held with
  | nil => exact List.forall_mem_singleton.2 fine
  | cons entry rest ih =>
      obtain ⟨first, old⟩ := entry
      obtain ⟨own, each⟩ := List.forall_mem_cons.1 each
      rcases store_cons_cases with ⟨_, -, -, same⟩ | ⟨-, same⟩
      · rw [same]
        exact List.forall_mem_cons.2 ⟨fine, each⟩
      · rw [same]
        exact List.forall_mem_cons.2 ⟨own, ih each⟩

/-- The entries of a mapping have each text as a key once, and values of its items. -/
theorem forall_mem_entryValues {good : Literal → Prop}
    {entries : List (Expression × Expression)} {stored : List (Literal × Literal)}
    (valued : entryValues held entries = .ok stored) (distinct : (textKeys held).Nodup)
    (each : ∀ entry ∈ held, good entry.2)
    (fine : ∀ entry ∈ entries, ∀ v, entry.2.value = .ok v → good v) :
    (textKeys stored).Nodup ∧ ∀ entry ∈ stored, good entry.2 := by
  induction entries generalizing held with
  | nil =>
      cases valued
      exact ⟨distinct, each⟩
  | cons entry rest ih =>
      obtain ⟨k, -, valued⟩ := except_bind_eq_ok.1 valued
      obtain ⟨v, own, valued⟩ := except_bind_eq_ok.1 valued
      obtain ⟨good, fine⟩ := List.forall_mem_cons.1 fine
      split at valued
      · exact ih valued (nodup_textKeys_store distinct) (forall_mem_store (good v own) each) fine
      · cases valued

/-- The value of an expression within the room is tidy. -/
theorem tidy_of_within (opposite : ∀ n, allowed n → allowed (-n)) (within : Within allowed room e) :
    ∀ {v}, e.value = .ok v → v.Tidy allowed room := by
  induction within with
  | constant scalar | number scalar =>
      rintro v ⟨⟩
      exact .scalar scalar
  | setName => exact nofun
  | emptySet =>
      rintro v ⟨⟩
      exact .set
  | @signed room negative operand own ih =>
      intro v valued
      unfold value at valued
      split at valued
      · next number =>
          cases valued
          exact .scalar (isScalar_of_signedNumber? opposite (.signed own) number)
      · cases valued
  | sum first second =>
      intro v valued
      unfold value at valued
      split at valued
      · obtain ⟨real, -, same⟩ := except_bind_eq_ok.1 valued
        obtain rfl := except_pure_eq_ok.1 same
        refine .scalar ?_
        unfold combine
        split <;> trivial
      · cases valued
  | set each ih =>
      intro v valued
      obtain ⟨members, -, same⟩ := except_bind_eq_ok.1 valued
      obtain rfl := except_pure_eq_ok.1 same
      exact .set
  | tuple each ih =>
      intro v valued
      obtain ⟨vs, listed, same⟩ := except_bind_eq_ok.1 valued
      obtain rfl := except_pure_eq_ok.1 same
      refine .tuple fun v member => ?_
      obtain ⟨item, inside, own⟩ := exists_of_mem_values listed v member
      exact ih item inside own
  | list each ih =>
      intro v valued
      obtain ⟨vs, listed, same⟩ := except_bind_eq_ok.1 valued
      obtain rfl := except_pure_eq_ok.1 same
      refine .list fun v member => ?_
      obtain ⟨item, inside, own⟩ := exists_of_mem_values listed v member
      exact ih item inside own
  | mapping keys items ih ih' =>
      intro v valued
      obtain ⟨stored, listed, same⟩ := except_bind_eq_ok.1 valued
      obtain rfl := except_pure_eq_ok.1 same
      obtain ⟨distinct, each⟩ := forall_mem_entryValues listed List.nodup_nil (List.forall_mem_nil _)
        fun entry member v own => ih' entry member own
      exact .mapping distinct each

end Expression

end Literal

/-! ## JSON values -/

/-- The value is a tree with finite doubles and with allowed integers only, no object has a key
twice, and lists and objects stand in one another at most so deep. -/
inductive Json.Regular (allowed : Int → Prop) : Nat → Json → Prop where
  | null {depth : Nat} : Regular allowed depth .null
  | bool {depth : Nat} (value : Bool) : Regular allowed depth (.bool value)
  | int {depth : Nat} {value : Int} (own : allowed value) : Regular allowed depth (.int value)
  | double {depth : Nat} {value : Double} (finite : value.isFinite = true) :
      Regular allowed depth (.double value)
  | str {depth : Nat} (value : String) : Regular allowed depth (.str value)
  | list {depth : Nat} {items : List Json} (each : ∀ item ∈ items, Regular allowed depth item) :
      Regular allowed (depth + 1) (.list items)
  | object {depth : Nat} {entries : List (String × Json)}
      (distinct : (entries.map Prod.fst).Nodup)
      (each : ∀ entry ∈ entries, Regular allowed depth entry.2) :
      Regular allowed (depth + 1) (.object entries)

/-- A tree without integers beyond the limit can be written. -/
theorem Json.Regular.writable {depth : Nat} {value : Json}
    (regular : value.Regular (fun n => Literal.withinDigits n = true) depth) :
    value.Writable depth := by
  induction regular with
  | null => exact .null
  | bool value => exact .bool value
  | int own => exact .int own
  | double finite => exact .double finite
  | str value => exact .str value
  | list each ih => exact .list ih
  | object distinct each ih => exact .object distinct ih

namespace Literal

variable {allowed : Int → Prop} {room : Nat} {path : String}

theorem exists_of_mem_itemsAt {items : List Literal} {position : Nat} {values : List Json}
    (kept : itemsAt path position items = .ok values) :
    ∀ json ∈ values, ∃ item ∈ items, ∃ path, toJsonAt path item = .ok json := by
  induction items generalizing position values with
  | nil =>
      cases kept
      exact List.forall_mem_nil _
  | cons item rest ih =>
      obtain ⟨first, own, kept⟩ := except_bind_eq_ok.1 kept
      obtain ⟨others, each, same⟩ := except_bind_eq_ok.1 kept
      cases same
      refine List.forall_mem_cons.2 ⟨⟨item, List.mem_cons_self, _, own⟩, fun json member => ?_⟩
      obtain ⟨item', inside, own'⟩ := ih each json member
      exact ⟨item', List.mem_cons_of_mem _ inside, own'⟩

theorem keys_entriesAt {entries : List (Literal × Literal)} {values : List (String × Json)}
    (kept : entriesAt path entries = .ok values) : values.map Prod.fst = textKeys entries ∧
      ∀ value ∈ values, ∃ entry ∈ entries, ∃ path, toJsonAt path entry.2 = .ok value.2 := by
  induction entries generalizing values with
  | nil =>
      cases kept
      exact ⟨rfl, List.forall_mem_nil _⟩
  | cons entry rest ih =>
      obtain ⟨key, item⟩ := entry
      cases key with
      | str name =>
          rw [entriesAt] at kept
          obtain ⟨first, own, kept⟩ := except_bind_eq_ok.1 kept
          obtain ⟨others, each, same⟩ := except_bind_eq_ok.1 kept
          cases same
          obtain ⟨names, each⟩ := ih each
          refine ⟨congrArg (name :: ·) names, List.forall_mem_cons.2
            ⟨⟨_, List.mem_cons_self, _, own⟩, fun value member => ?_⟩⟩
          obtain ⟨entry, inside, own'⟩ := each value member
          exact ⟨entry, List.mem_cons_of_mem _ inside, own'⟩
      | _ => cases kept

/-- What is kept of a tidy value is a tree. -/
theorem regular_of_tidy {value : Literal} (tidy : value.Tidy allowed room) :
    ∀ {path json}, toJsonAt path value = .ok json → json.Regular allowed room := by
  induction tidy with
  | @scalar room value own =>
      intro path json kept
      cases value with
      | null =>
          cases kept
          exact .null
      | bool value =>
          cases kept
          exact .bool value
      | int value =>
          cases kept
          exact .int own
      | str value =>
          cases kept
          exact .str value
      | double value =>
          rw [toJsonAt] at kept
          split at kept
          · next finite =>
              cases kept
              exact .double finite
          · cases kept
      | list | tuple | mapping => cases own
      | _ => cases kept
  | set => exact nofun
  | tuple each ih | list each ih =>
      intro path json kept
      obtain ⟨values, listed, same⟩ := except_bind_eq_ok.1 kept
      obtain rfl := except_pure_eq_ok.1 same
      refine .list fun json member => ?_
      obtain ⟨item, inside, path, own⟩ := exists_of_mem_itemsAt listed json member
      exact ih item inside own
  | mapping distinct each ih =>
      intro path json kept
      obtain ⟨values, listed, same⟩ := except_bind_eq_ok.1 kept
      obtain rfl := except_pure_eq_ok.1 same
      obtain ⟨names, found⟩ := keys_entriesAt listed
      refine .object (names ▸ distinct) fun value member => ?_
      obtain ⟨entry, inside, path, own⟩ := found value member
      exact ih entry inside own

/-! ## Texts -/

/-- At most so many brackets of the text are open at once, and its integers have texts within the
limit of digits. -/
def Limited (room : Nat) (text : String) : Prop :=
  ∀ words, words? text = some words →
    Token.Nests (fun token => ∀ n, token = .number (.int n) → withinDigits n = true) room words

/-- What is decoded from words within limits is a tree within the limits; a bare tuple adds a
list around them. -/
theorem regular_of_decode {text : String} {value : Json}
    (opposite : ∀ n, allowed n → allowed (-n)) (decoded : decode text = .ok value)
    (holds : ∀ words, words? text = some words → Expression.WordsWithin allowed room words) :
    value.Regular allowed (room + 1) := by
  unfold decode at decoded
  obtain ⟨v, found, decoded⟩ := except_bind_eq_ok.1 decoded
  rw [read_eq] at found
  split at found
  · cases found
  · next e formed =>
      split at found
      · next own =>
          cases found
          obtain ⟨words, cut, formed⟩ := Option.bind_eq_some_iff.1 formed
          have within := Expression.within_ofTokens? formed (holds words cut)
          have tidy := Expression.tidy_of_within opposite within own
          split at decoded
          · next kept =>
              cases decoded
              exact regular_of_tidy tidy kept
          · cases decoded
      · cases found
      · cases found

/-- Whatever is decoded is a tree. -/
theorem exists_regular_of_decode {text : String} {value : Json} (decoded : decode text = .ok value) :
    ∃ depth, value.Regular (fun _ => True) depth := by
  have holds : ∃ room, ∀ words, words? text = some words →
      Expression.WordsWithin (fun _ => True) room words := by
    cases cut : words? text with
    | none => exact ⟨0, nofun⟩
    | some words =>
        refine ⟨words.length, fun _ same => ?_⟩
        obtain rfl := Option.some.inj same
        exact (Token.nests_of_length_le (Nat.le_refl _)).imp fun token member _ =>
          isScalar_of_words? cut token member
  obtain ⟨room, holds⟩ := holds
  exact ⟨room + 1, regular_of_decode (fun _ _ => trivial) decoded holds⟩

theorem withinDigits_neg (n : Int) (fits : withinDigits n = true) : withinDigits (-n) = true := by
  unfold withinDigits at fits ⊢
  rwa [Int.natAbs_neg]

/-- The words of a text within limits stand for scalars with integers within the limit. -/
theorem Limited.wordsWithin {text : String} {room : Nat} (limited : Limited room text) :
    ∀ words, words? text = some words →
      Expression.WordsWithin (fun n => withinDigits n = true) room words := by
  intro words cut
  refine (limited words cut).imp fun token member fits => ?_
  have scalar := isScalar_of_words? cut token member
  cases token with
  | number value =>
      cases value with
      | int n => exact fits n rfl
      | _ => exact scalar
  | _ => exact scalar

end Literal

end TypedContract
