/-
# TypedContract.Proofs.Json.Pointer -- where references into a document lead

A reference is written from keys by escaping each of them, a `~` first and then a `/`, and
putting a `/` between them (`ofKeys`).  Reading goes the other way round: it cuts at each `/`,
which no escaped key holds, and undoes the two escapes in the opposite order.  The order is
what matters.  As long as each `~` of the key is still a `~0`, no `~1` can come from the key
itself (`replacePair_slash`), so the reference reads as the keys that it was written from
(`keys?_ofKeys`), whatever these hold.

What the keys then lead to is said by `Node.Leads` and `Node.Blocks`, without references:
through nested objects to a value, or to a node that has no such key or is no object.
`resolve_ofKeys` puts both together.
-/
import TypedContract.Json.Pointer
import TypedContract.Proofs.Json.Standing
import TypedContract.Proofs.Text.Pieces

namespace TypedContract

set_option autoImplicit false

/-! ## Following keys -/

namespace Node

/-- The keys lead from a node through nested objects to a node in it. -/
inductive KeysLead : Node → List String → Node → Prop where
  | here {node : Node} : KeysLead node [] node
  | through {node inner found : Node} {entries : List (String × Json)} {name : String}
      {names : List String} (object : node.value = .object entries)
      (held : node.find? name entries = some inner) (rest : KeysLead inner names found) :
      KeysLead node (name :: names) found

/-- The key cannot be followed from the node: it is no object, or has no such key. -/
def Lacks (node : Node) (name : String) : Prop :=
  (∀ entries, node.value ≠ .object entries) ∨
    ∃ entries, node.value = .object entries ∧ Json.find? name entries = none

/-- On the way that the keys lead there is one that cannot be followed. -/
def Blocks (node : Node) (names : List String) : Prop :=
  ∃ front name back inner, names = front ++ name :: back ∧ node.KeysLead front inner ∧
    inner.Lacks name

theorem find?_eq_none_iff {node : Node} {name : String} {entries : List (String × Json)} :
    node.find? name entries = none ↔ Json.find? name entries = none := by
  constructor
  · intro none
    cases held : Json.find? name entries with
    | none => rfl
    | some value =>
        obtain ⟨found, here, -⟩ := exists_find? node held
        cases none.symm.trans here
  · intro none
    cases held : node.find? name entries with
    | none => rfl
    | some inner => exact absurd (value_of_find? held) (by simp [none])

/-- Nothing leads on where the first key cannot be followed. -/
theorem Lacks.elim {node found : Node} {name : String} {names : List String}
    (lacks : node.Lacks name) (leads : node.KeysLead (name :: names) found) : False := by
  cases leads with
  | through object held _ =>
      rcases lacks with apart | ⟨entries, object', none⟩
      · exact apart _ object
      · cases object.symm.trans object'
        cases held.symm.trans (find?_eq_none_iff.2 none)

end Node

namespace Pointer

open Text (joinWith splitOnChar)

variable {node found document : Node} {name : String} {names : List String}

theorem follow?_cons_of_object {entries : List (String × Json)} (object : node.value = .object entries) :
    follow? node (name :: names) = (node.find? name entries).bind (follow? · names) := by
  rw [follow?, object]
  dsimp only
  cases node.find? name entries <;> rfl

theorem follow?_eq_some_iff : follow? node names = some found ↔ node.KeysLead names found := by
  constructor
  · intro follows
    induction names generalizing node with
    | nil =>
        cases follows
        exact .here
    | cons name names ih =>
        unfold follow? at follows
        split at follows
        · rename_i entries object
          split at follows
          · rename_i inner held
            exact .through object held (ih follows)
          · cases follows
        · cases follows
  · intro leads
    induction leads with
    | here => rfl
    | through object held _ ih => rw [follow?_cons_of_object object, held, Option.bind_some, ih]

theorem follow?_eq_none_iff : follow? node names = none ↔ node.Blocks names := by
  constructor
  · intro none
    induction names generalizing node with
    | nil => cases none
    | cons name names ih =>
        by_cases isObject : ∃ entries, node.value = .object entries
        · obtain ⟨entries, object⟩ := isObject
          rw [follow?_cons_of_object object] at none
          cases held : node.find? name entries with
          | none =>
              exact ⟨[], name, names, node, rfl, .here,
                .inr ⟨entries, object, Node.find?_eq_none_iff.1 held⟩⟩
          | some inner =>
              rw [held, Option.bind_some] at none
              obtain ⟨front, other, back, last, rfl, leads, lacks⟩ := ih none
              exact ⟨name :: front, other, back, last, rfl, .through object held leads, lacks⟩
        · exact ⟨[], name, names, node, rfl, .here, .inl (not_exists.1 isObject)⟩
  · rintro ⟨front, name, back, inner, rfl, leads, lacks⟩
    induction leads with
    | here =>
        cases follows : follow? _ (name :: back) with
        | none => exact follows
        | some found => exact (lacks.elim (follow?_eq_some_iff.1 follows)).elim
    | through object held _ ih =>
        rw [List.cons_append, follow?_cons_of_object object, held, Option.bind_some]
        exact ih lacks

/-! ## Writing a key -/

/-- Writes a `~` and a digit for each of one character. -/
def write (c digit : Char) (text : List Char) : List Char :=
  text.flatMap fun x => if x == c then ['~', digit] else [x]

theorem write_cons (c digit x : Char) (text : List Char) :
    write c digit (x :: text) = (if x = c then ['~', digit] else [x]) ++ write c digit text := by
  simp [write]

/-- Escaping writes `~0` for `~` and then `~1` for `/`. -/
theorem escape_eq_write (key : List Char) : escape key = write '/' '1' (write '~' '0' key) := by
  unfold escape write
  rw [List.flatMap_assoc]
  refine congrArg (key.flatMap ·) (funext fun c => ?_)
  by_cases tilde : c = '~'
  · simp [tilde]
  · by_cases slash : c = '/' <;> simp [tilde, slash]

theorem replacePair_cons_of_ne {a b c x : Char} {text : List Char} (other : x ≠ a) :
    replacePair a b c (x :: text) = x :: replacePair a b c text := by
  cases text with
  | nil => rfl
  | cons y rest =>
      rw [replacePair, if_neg]
      simp [other]

/-- The pairs for `/` are undone where each `~` of the key is a `~0`. -/
theorem replacePair_slash (key : List Char) :
    replacePair '~' '1' '/' (write '/' '1' (write '~' '0' key)) = write '~' '0' key := by
  have passed : ∀ text, replacePair '~' '1' '/' ('~' :: '0' :: text) =
      '~' :: '0' :: replacePair '~' '1' '/' text := by
    intro text
    rw [replacePair, if_neg (by decide), replacePair_cons_of_ne (by decide)]
  induction key with
  | nil => rfl
  | cons c rest ih =>
      by_cases tilde : c = '~'
      · simp [tilde, write_cons, passed, ih]
      · by_cases slash : c = '/'
        · simp [slash, write_cons, replacePair, ih]
        · simp [tilde, slash, write_cons, replacePair_cons_of_ne tilde, ih]

/-- The pairs for `~` are undone. -/
theorem replacePair_tilde (key : List Char) : replacePair '~' '0' '~' (write '~' '0' key) = key := by
  induction key with
  | nil => rfl
  | cons c rest ih =>
      by_cases tilde : c = '~'
      · simp [tilde, write_cons, replacePair, ih]
      · simp [tilde, write_cons, replacePair_cons_of_ne tilde, ih]

/-- A written key is read as the key. -/
theorem unescape_escape (key : List Char) : unescape (escape key) = key := by
  rw [unescape, escape_eq_write, replacePair_slash, replacePair_tilde]

theorem slash_not_mem_escape (key : List Char) : '/' ∉ escape key := by
  intro member
  obtain ⟨c, -, inside⟩ := List.mem_flatMap.1 member
  by_cases tilde : c = '~'
  · simp [tilde] at inside
  · by_cases slash : c = '/'
    · simp [slash] at inside
    · simp [tilde, slash, Ne.symm slash] at inside

/-- The character is written as two. -/
def isEscaped (c : Char) : Bool := c == '~' || c == '/'

theorem length_escape (key : List Char) :
    (escape key).length = key.length + key.countP isEscaped := by
  unfold escape
  induction key with
  | nil => rfl
  | cons c rest ih =>
      rw [List.flatMap_cons, List.length_append, ih, List.length_cons, List.countP_cons]
      by_cases tilde : c = '~'
      · simp [tilde, isEscaped]
        omega
      · by_cases slash : c = '/'
        · simp [slash, isEscaped]
          omega
        · simp [tilde, slash, isEscaped]
          omega

/-- A key is its own written form when it needs no escape. -/
theorem escape_eq_self_iff {key : List Char} : escape key = key ↔ '~' ∉ key ∧ '/' ∉ key := by
  constructor
  · intro same
    have length := length_escape key
    rw [same] at length
    have none : key.countP isEscaped = 0 := by omega
    rw [List.countP_eq_zero] at none
    exact ⟨fun tilde => none _ tilde rfl, fun slash => none _ slash rfl⟩
  · rintro ⟨tilde, slash⟩
    have single : ∀ c ∈ key, (if c == '~' then ['~', '0'] else if c == '/' then ['~', '1'] else [c]) =
        [c] := by
      intro c member
      have noTilde : c ≠ '~' := fun same => tilde (same ▸ member)
      have noSlash : c ≠ '/' := fun same => slash (same ▸ member)
      simp [noTilde, noSlash]
    rw [escape, List.flatMap_congr single, List.flatMap_singleton']

/-! ## Writing a reference -/

/-- The reference that leads where the keys lead. -/
def ofKeys (names : List String) : String :=
  String.ofList ('#' :: '/' :: joinWith ['/'] (names.map fun name => escape name.toList))

theorem keys?_eq_none_iff {text : String} : keys? text = none ↔ ¬ "#/".toList <+: text.toList := by
  have opened : "#/".toList = ['#', '/'] := rfl
  rw [opened]
  unfold keys?
  split
  · rename_i rest whole
    rw [whole]
    simp
  · rename_i apart
    refine iff_of_true rfl ?_
    rintro ⟨rest, whole⟩
    exact apart rest whole.symm

/-- The reference reads as the keys that it was written from. -/
theorem keys?_ofKeys (name : String) (names : List String) :
    keys? (ofKeys (name :: names)) = some (name :: names) := by
  let key (name : String) : List Char := escape name.toList
  have free : ∀ piece ∈ (name :: names).map key, ∀ c ∈ piece, (c == '/') = false := by
    intro piece member c inside
    obtain ⟨name', -, rfl⟩ := List.mem_map.1 member
    refine beq_false_of_ne ?_
    rintro rfl
    exact slash_not_mem_escape _ inside
  have parts : splitOnChar (· == '/') (joinWith ['/'] ((name :: names).map key)) =
      (name :: names).map key := Text.splitOnChar_joinWith rfl free
  have read : (fun part => String.ofList (unescape part)) ∘ key = id := by
    funext name
    simp [key, unescape_escape]
  have opened : (ofKeys (name :: names)).toList =
      '#' :: '/' :: joinWith ['/'] ((name :: names).map key) := by
    rw [ofKeys, String.toList_ofList]
  unfold keys?
  simp only [opened]
  rw [parts, List.map_map, read, List.map_id]

/-! ## Resolving -/

theorem resolve_str (document : Node) (text : String) : resolve document (.str text) =
    match (keys? text).bind (follow? document) with
    | some found => .ok found
    | none => .error (.missingKey text) := rfl

theorem resolve_eq_ok_iff : resolve document (.str (ofKeys (name :: names))) = .ok found ↔
    document.KeysLead (name :: names) found := by
  rw [resolve_str, keys?_ofKeys, Option.bind_some, ← follow?_eq_some_iff]
  cases follow? document (name :: names) <;> simp

theorem resolve_eq_error_iff {fault : Fault} :
    resolve document (.str (ofKeys (name :: names))) = .error fault ↔
      fault = .missingKey (ofKeys (name :: names)) ∧ document.Blocks (name :: names) := by
  rw [resolve_str, keys?_ofKeys, Option.bind_some, ← follow?_eq_none_iff]
  cases follow? document (name :: names) with
  | none => simp [eq_comm]
  | some found => simp

/-- A reference that can be followed leads to the value at the end of its keys. -/
theorem exists_keysLead_of_resolve {text : String}
    (led : resolve document (.str text) = .ok found) :
    ∃ names, keys? text = some names ∧ document.KeysLead names found := by
  rw [resolve_str] at led
  split at led
  · rename_i follows
    cases led
    obtain ⟨names, isPath, follows⟩ := Option.bind_eq_some_iff.1 follows
    exact ⟨names, isPath, follow?_eq_some_iff.1 follows⟩
  · cases led

theorem fault_of_resolve {text : String} {fault : Fault}
    (astray : resolve document (.str text) = .error fault) : fault = .missingKey text := by
  rw [resolve_str] at astray
  split at astray
  · cases astray
  · exact (Except.error.inj astray).symm

theorem resolve_of_foreign {text : String} (foreign : ¬ "#/".toList <+: text.toList) :
    resolve document (.str text) = .error (.missingKey text) := by
  rw [resolve_str, keys?_eq_none_iff.2 foreign]
  rfl

/-- The reference written from keys leads to the value at the end of these keys, and it is
missing exactly when one of them cannot be followed.  A text that does not begin like a
reference leads nowhere. -/
theorem resolve_ofKeys (document : Node) (name : String) (names : List String) :
    (∀ found, resolve document (.str (ofKeys (name :: names))) = .ok found ↔
      document.KeysLead (name :: names) found) ∧
    (∀ fault, resolve document (.str (ofKeys (name :: names))) = .error fault ↔
      fault = .missingKey (ofKeys (name :: names)) ∧ document.Blocks (name :: names)) ∧
    ∀ text, ¬ "#/".toList <+: text.toList →
      resolve document (.str text) = .error (.missingKey text) := by
  refine ⟨?_, ?_, ?_⟩
  · intro found
    exact resolve_eq_ok_iff
  · intro fault
    exact resolve_eq_error_iff
  · intro text foreign
    exact resolve_of_foreign foreign

/-- A document with a `/` in one key and the written form of a `/` as another. -/
def slashed : Node := .root 0 (.object [("a/b", .object [("~1", .str "found")]), ("~1", .null)])

theorem resolve_ofKeys_slashed :
    ofKeys ["a/b", "~1"] = "#/a~1b/~01" ∧
    resolve slashed (.str "#/a~1b/~01") = .ok ⟨.str "found", some ⟨0, [0, 0]⟩⟩ ∧
    slashed.Blocks ["~1", "b"] ∧
    resolve slashed (.str "#/~01/b") = .error (.missingKey "#/~01/b") ∧
    ¬ "#/".toList <+: "a~1b".toList ∧
    resolve slashed (.str "a~1b") = .error (.missingKey "a~1b") := by
  have written : ofKeys ["a/b", "~1"] = "#/a~1b/~01" := by decide +kernel
  have written' : ofKeys ["~1", "b"] = "#/~01/b" := by decide +kernel
  have outside : ¬ "#/".toList <+: "a~1b".toList := by decide +kernel
  obtain ⟨leads, -, -⟩ := resolve_ofKeys slashed "a/b" ["~1"]
  obtain ⟨-, misses, foreign⟩ := resolve_ofKeys slashed "~1" ["b"]
  have blocks : slashed.Blocks ["~1", "b"] :=
    ⟨["~1"], "b", [], _, rfl, .through rfl rfl .here, .inl nofun⟩
  refine ⟨written, ?_, blocks, ?_, outside, foreign _ outside⟩
  · rw [← written]
    exact (leads _).2 (.through rfl rfl (.through rfl rfl .here))
  · rw [← written']
    exact (misses _).2 ⟨rfl, blocks⟩

end Pointer

end TypedContract
