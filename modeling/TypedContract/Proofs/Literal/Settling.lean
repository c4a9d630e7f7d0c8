/-
# TypedContract.Proofs.Literal.Settling -- texts that the decoder neither decodes nor refuses

Whoever decodes a text expects a value or a refusal (`Answered`).  Two kinds of text end the
decoder with another fault, and both do so over the size of an integer.  One is an integer
beside an imaginary number that no double is large enough for; the numbers are added before
anything else is asked of them (`Expression.Overflows`).  The other is a mapping key with an
integer of more digits than a text may have; the key is no text, so it is refused, and the
refusal would have to name it (`Nameless`).

Items are read from left to right and the first failure stands, so either fault needs
everything before it to be in order.  `answered_decode_iff` says that there is nothing else.
-/
import TypedContract.Literal.Expression
import TypedContract.Proofs.Literal.Normal

namespace TypedContract

set_option autoImplicit false

namespace Literal

/-! ## Answers -/

/-- The result is there, or it was refused as malformed. -/
inductive Answered {α : Type} : Except Fault α → Prop where
  | ok {a : α} : Answered (.ok a)
  | malformed {why : Malformed} : Answered (.error (.malformed why))

namespace Answered

variable {α β : Type} {result : Except Fault α} {next : α → Except Fault β}

theorem bind (first : Answered result) (rest : ∀ a, Answered (next a)) :
    Answered (result >>= next) := by
  cases first with
  | ok => exact rest _
  | malformed => exact .malformed

theorem error_iff {fault : Fault} :
    Answered (.error fault : Except Fault α) ↔ ∃ why, fault = .malformed why := by
  constructor
  · rintro ⟨⟩
    exact ⟨_, rfl⟩
  · rintro ⟨why, rfl⟩
    exact .malformed

theorem iff_cases :
    Answered result ↔ (∃ why, result = .error (.malformed why)) ∨ ∃ a, result = .ok a := by
  cases result with
  | ok a => exact iff_of_true .ok (.inr ⟨a, rfl⟩)
  | error fault =>
      rw [error_iff]
      constructor
      · rintro ⟨why, rfl⟩
        exact .inl ⟨why, rfl⟩
      · rintro (⟨why, same⟩ | ⟨a, same⟩)
        · exact ⟨why, Except.error.inj same⟩
        · cases same

end Answered

/-- A value with integers within the limit is written or refused. -/
theorem answered_encode {value : Literal} (fit : value.isWithinDigits = true) :
    Answered value.encode := by
  have agree := agree_encode fit
  generalize value.toJson = read, value.encode = wrote at agree
  cases agree with
  | kept => exact .ok
  | refused => exact .malformed

/-! ## Integers beside imaginary numbers -/

namespace Expression

/-- The expression has a value. -/
def Valued (e : Expression) : Prop := ∃ v, e.value = .ok v

/-- The expression has a value that can be a key. -/
def Keyed (e : Expression) : Prop := ∃ v, e.value = .ok v ∧ isKey v = true

/-- The first thing that is wrong with the expression is an integer too large for a double
beside an imaginary number. -/
inductive Overflows : Expression → Prop where
  | sum {negative sign : Bool} {left : Expression} {whole : Int} {real imaginary : Double}
      (integer : signedNumber? left = some (.int whole)) (large : Double.ofInt whole = .infinite sign) :
      Overflows (.sum negative left (.number (.complex real imaginary)))
  | tuple {before after : List Expression} {item : Expression} (valued : ∀ e ∈ before, e.Valued)
      (here : Overflows item) : Overflows (.tuple (before ++ item :: after))
  | list {before after : List Expression} {item : Expression} (valued : ∀ e ∈ before, e.Valued)
      (here : Overflows item) : Overflows (.list (before ++ item :: after))
  | set {before after : List Expression} {item : Expression} (keyed : ∀ e ∈ before, e.Keyed)
      (here : Overflows item) : Overflows (.set (before ++ item :: after))
  | key {before after : List (Expression × Expression)} {key item : Expression}
      (stored : ∀ entry ∈ before, entry.1.Keyed ∧ entry.2.Valued) (here : Overflows key) :
      Overflows (.mapping (before ++ (key, item) :: after))
  | item {before after : List (Expression × Expression)} {key item : Expression}
      (stored : ∀ entry ∈ before, entry.1.Keyed ∧ entry.2.Valued) (valued : key.Valued)
      (here : Overflows item) : Overflows (.mapping (before ++ (key, item) :: after))

variable {before after : List Expression} {item : Expression} {why : NoValue}

theorem values_eq_error (valued : ∀ e ∈ before, e.Valued) (here : item.value = .error why) :
    values (before ++ item :: after) = .error why := by
  induction before with
  | nil =>
      rw [List.nil_append, values, here]
      rfl
  | cons first rest ih =>
      obtain ⟨v, own⟩ := valued first List.mem_cons_self
      rw [List.cons_append, values, own, ih fun e member => valued e (List.mem_cons_of_mem _ member)]
      rfl

theorem memberValues_eq_error (keyed : ∀ e ∈ before, e.Keyed) (here : item.value = .error why) :
    memberValues (before ++ item :: after) = .error why := by
  induction before with
  | nil =>
      rw [List.nil_append, memberValues, here]
      rfl
  | cons first rest ih =>
      obtain ⟨v, own, key⟩ := keyed first List.mem_cons_self
      rw [List.cons_append, memberValues, own, except_ok_bind, if_pos key,
        ih fun e member => keyed e (List.mem_cons_of_mem _ member)]
      rfl

/-- Stored entries do not matter to those that follow. -/
theorem exists_entryValues_append {before after : List (Expression × Expression)}
    (stored : ∀ entry ∈ before, entry.1.Keyed ∧ entry.2.Valued) (held : List (Literal × Literal)) :
    ∃ held', entryValues held (before ++ after) = entryValues held' after := by
  induction before generalizing held with
  | nil => exact ⟨held, rfl⟩
  | cons entry rest ih =>
      obtain ⟨key, item⟩ := entry
      obtain ⟨⟨k, keyed, isKey⟩, v, valued⟩ := stored _ List.mem_cons_self
      obtain ⟨held', same⟩ := ih (fun entry member => stored entry (List.mem_cons_of_mem _ member))
        (store k v held)
      refine ⟨held', ?_⟩
      rw [List.cons_append, entryValues, keyed, valued, except_ok_bind, except_ok_bind, if_pos isKey]
      exact same

theorem value_of_overflows {e : Expression} (overflows : Overflows e) :
    e.value = .error .tooLarge := by
  induction overflows with
  | sum integer large =>
      simp only [value, integer, realPart, large]
      rfl
  | tuple valued here ih | list valued here ih =>
      rw [value, values_eq_error valued ih]
      rfl
  | set keyed here ih =>
      rw [value, memberValues_eq_error keyed ih]
      rfl
  | key stored here ih =>
      obtain ⟨held, same⟩ := exists_entryValues_append stored []
      rw [value, same, entryValues, ih]
      rfl
  | item stored valued here ih =>
      obtain ⟨held, same⟩ := exists_entryValues_append stored []
      obtain ⟨k, valued⟩ := valued
      rw [value, same, entryValues, valued, except_ok_bind, ih]
      rfl

/-- A sum overflows or fails for another reason. -/
theorem overflows_sum {negative : Bool} {left right : Expression}
    (failed : (sum negative left right).value = .error .tooLarge) :
    Overflows (.sum negative left right) := by
  unfold value at failed
  split at failed
  · next real _ imaginary integer =>
      rcases except_bind_eq_error.1 failed with failed | ⟨_, _, impossible⟩
      · unfold realPart at failed
        split at failed
        · split at failed
          · next large => exact .sum integer large
          · cases failed
        · cases failed
        · cases failed
      · cases impossible
  · cases failed

mutual

theorem overflows_of_value : ∀ e : Expression, e.value = .error .tooLarge → Overflows e
  | .constant _ | .number _ | .setName | .emptySet => fun failed => nomatch failed
  | .signed negative operand => fun failed => by
      unfold value at failed
      split at failed <;> cases failed
  | .sum _ _ _ => overflows_sum
  | .tuple items => fun failed => by
      rcases except_bind_eq_error.1 failed with failed | ⟨_, _, impossible⟩
      · obtain ⟨before, item, after, rfl, valued, here⟩ := overflows_of_values items failed
        exact .tuple valued here
      · cases impossible
  | .list items => fun failed => by
      rcases except_bind_eq_error.1 failed with failed | ⟨_, _, impossible⟩
      · obtain ⟨before, item, after, rfl, valued, here⟩ := overflows_of_values items failed
        exact .list valued here
      · cases impossible
  | .set items => fun failed => by
      rcases except_bind_eq_error.1 failed with failed | ⟨_, _, impossible⟩
      · obtain ⟨before, item, after, rfl, keyed, here⟩ := overflows_of_memberValues items failed
        exact .set keyed here
      · cases impossible
  | .mapping entries => fun failed => by
      rcases except_bind_eq_error.1 failed with failed | ⟨_, _, impossible⟩
      · obtain ⟨before, key, item, after, rfl, stored, here⟩ :=
          overflows_of_entryValues entries [] failed
        rcases here with here | ⟨valued, here⟩
        · exact .key stored here
        · exact .item stored valued here
      · cases impossible

theorem overflows_of_values : ∀ items : List Expression, values items = .error .tooLarge →
    ∃ before item after, items = before ++ item :: after ∧ (∀ e ∈ before, e.Valued) ∧ Overflows item
  | [] => fun failed => nomatch failed
  | first :: rest => fun failed => by
      rcases except_bind_eq_error.1 failed with failed | ⟨v, own, failed⟩
      · exact ⟨[], first, rest, rfl, nofun, overflows_of_value first failed⟩
      · rcases except_bind_eq_error.1 failed with failed | ⟨_, _, impossible⟩
        · obtain ⟨before, item, after, rfl, valued, here⟩ := overflows_of_values rest failed
          exact ⟨first :: before, item, after, rfl, List.forall_mem_cons.2 ⟨⟨v, own⟩, valued⟩, here⟩
        · cases impossible

theorem overflows_of_memberValues : ∀ items : List Expression,
    memberValues items = .error .tooLarge →
      ∃ before item after, items = before ++ item :: after ∧ (∀ e ∈ before, e.Keyed) ∧ Overflows item
  | [] => fun failed => nomatch failed
  | first :: rest => fun failed => by
      rcases except_bind_eq_error.1 failed with failed | ⟨v, own, failed⟩
      · exact ⟨[], first, rest, rfl, nofun, overflows_of_value first failed⟩
      · split at failed
        · next key =>
            rcases except_bind_eq_error.1 failed with failed | ⟨_, _, impossible⟩
            · obtain ⟨before, item, after, rfl, keyed, here⟩ := overflows_of_memberValues rest failed
              exact ⟨first :: before, item, after, rfl,
                List.forall_mem_cons.2 ⟨⟨v, own, key⟩, keyed⟩, here⟩
            · cases impossible
        · cases failed

theorem overflows_of_entryValues : ∀ (entries : List (Expression × Expression)) held,
    entryValues held entries = .error .tooLarge →
      ∃ before key item after, entries = before ++ (key, item) :: after ∧
        (∀ entry ∈ before, entry.1.Keyed ∧ entry.2.Valued) ∧
          (Overflows key ∨ key.Valued ∧ Overflows item)
  | [], _ => fun failed => nomatch failed
  | (first, second) :: rest, held => fun failed => by
      rcases except_bind_eq_error.1 failed with failed | ⟨k, keyed, failed⟩
      · exact ⟨[], first, second, rest, rfl, nofun, .inl (overflows_of_value first failed)⟩
      rcases except_bind_eq_error.1 failed with failed | ⟨v, valued, failed⟩
      · exact ⟨[], first, second, rest, rfl, nofun,
          .inr ⟨⟨k, keyed⟩, overflows_of_value second failed⟩⟩
      split at failed
      · next isKey =>
          obtain ⟨before, key, item, after, rfl, stored, here⟩ :=
            overflows_of_entryValues rest _ failed
          exact ⟨(first, second) :: before, key, item, after, rfl,
            List.forall_mem_cons.2 ⟨⟨⟨k, keyed, isKey⟩, v, valued⟩, stored⟩, here⟩
      · cases failed

end

/-- The value of an expression is too large exactly when the expression overflows. -/
theorem value_eq_tooLarge_iff {e : Expression} : e.value = .error .tooLarge ↔ e.Overflows :=
  ⟨overflows_of_value e, value_of_overflows⟩

end Expression

/-! ## Keys without a text -/

/-- The value has a JSON counterpart. -/
def HasJson (value : Literal) : Prop := ∃ json, value.toJson = .ok json

/-- The refusal would have to name a key with an integer beyond the limit of digits. -/
def Untold (why : Malformed) : Prop :=
  ∃ path key, why = .keyNotText path key ∧ key.isWithinDigits = false

/-- The first thing that is refused of the value is a key that is no text and has an integer beyond
the limit of digits. -/
inductive Nameless : Literal → Prop where
  | tuple {before after : List Literal} {item : Literal} (kept : ∀ v ∈ before, v.HasJson)
      (here : Nameless item) : Nameless (.tuple (before ++ item :: after))
  | list {before after : List Literal} {item : Literal} (kept : ∀ v ∈ before, v.HasJson)
      (here : Nameless item) : Nameless (.list (before ++ item :: after))
  | key {before after : List (Literal × Literal)} {key item : Literal}
      (kept : ∀ entry ∈ before, (∃ name, entry.1 = .str name) ∧ entry.2.HasJson)
      (other : ∀ name, key ≠ .str name) (long : key.isWithinDigits = false) :
      Nameless (.mapping (before ++ (key, item) :: after))
  | item {before after : List (Literal × Literal)} {name : String} {item : Literal}
      (kept : ∀ entry ∈ before, (∃ name, entry.1 = .str name) ∧ entry.2.HasJson)
      (here : Nameless item) : Nameless (.mapping (before ++ (.str name, item) :: after))

theorem answered_refusal_iff {α : Type} {why : Malformed} :
    Answered (.error (refusal why) : Except Fault α) ↔ ¬ Untold why := by
  rw [Answered.error_iff]
  cases why with
  | keyNotText path key =>
      rw [refusal]
      by_cases fit : key.isWithinDigits = true
      · rw [if_pos fit]
        refine iff_of_true ⟨_, rfl⟩ ?_
        rintro ⟨_, _, ⟨⟩, long⟩
        exact absurd fit (Bool.not_eq_true _ ▸ long)
      · rw [if_neg fit]
        refine iff_of_false nofun fun told => told ⟨path, key, rfl, ?_⟩
        exact Bool.not_eq_true _ ▸ fit
  | _ => exact iff_of_true ⟨_, rfl⟩ nofun

mutual

/-- Whether a value is kept, and what of it, does not depend on where it stands. -/
theorem toJsonAt_path : ∀ (value : Literal) {path path' : String} {json : Json},
    toJsonAt path value = .ok json → toJsonAt path' value = .ok json
  | .null | .bool _ | .int _ | .str _ => id
  | .double value => fun kept => by
      rw [toJsonAt] at kept ⊢
      split at kept
      · next finite => exact (if_pos finite).trans kept
      · cases kept
  | .list items | .tuple items => fun kept => by
      obtain ⟨values, each, same⟩ := except_bind_eq_ok.1 kept
      exact except_bind_eq_ok.2 ⟨values, itemsAt_path items each, same⟩
  | .mapping entries => fun kept => by
      obtain ⟨values, each, same⟩ := except_bind_eq_ok.1 kept
      exact except_bind_eq_ok.2 ⟨values, entriesAt_path entries each, same⟩
  | .bytes _ | .complex _ _ | .ellipsis | .set _ => nofun

theorem itemsAt_path : ∀ (items : List Literal) {path path' : String} {position position' : Nat}
    {values : List Json}, itemsAt path position items = .ok values →
      itemsAt path' position' items = .ok values
  | [] => id
  | item :: rest => fun kept => by
      obtain ⟨value, own, kept⟩ := except_bind_eq_ok.1 kept
      obtain ⟨values, each, same⟩ := except_bind_eq_ok.1 kept
      exact except_bind_eq_ok.2 ⟨value, toJsonAt_path item own,
        except_bind_eq_ok.2 ⟨values, itemsAt_path rest each, same⟩⟩

theorem entriesAt_path : ∀ (entries : List (Literal × Literal)) {path path' : String}
    {values : List (String × Json)}, entriesAt path entries = .ok values →
      entriesAt path' entries = .ok values
  | [] => id
  | (key, item) :: rest => fun kept => by
      cases key with
      | str name =>
          rw [entriesAt] at kept ⊢
          obtain ⟨value, own, kept⟩ := except_bind_eq_ok.1 kept
          obtain ⟨values, each, same⟩ := except_bind_eq_ok.1 kept
          exact except_bind_eq_ok.2 ⟨value, toJsonAt_path item own,
            except_bind_eq_ok.2 ⟨values, entriesAt_path rest each, same⟩⟩
      | _ => cases kept

end

theorem hasJson_iff {value : Literal} {path : String} :
    value.HasJson ↔ ∃ json, toJsonAt path value = .ok json :=
  exists_congr fun _ => ⟨toJsonAt_path value, toJsonAt_path value⟩

/-- An item fails the list when those before it are kept. -/
theorem exists_itemsAt_error {before after : List Literal} {item : Literal} {path : String}
    (kept : ∀ v ∈ before, v.HasJson)
    (here : ∀ path, ∃ why, toJsonAt path item = .error why ∧ Untold why) (position : Nat) :
    ∃ why, itemsAt path position (before ++ item :: after) = .error why ∧ Untold why := by
  induction before generalizing position with
  | nil =>
      obtain ⟨why, failed, untold⟩ := here (path ++ "[" ++ toString position ++ "]")
      refine ⟨why, ?_, untold⟩
      rw [List.nil_append, itemsAt, failed]
      rfl
  | cons first rest ih =>
      obtain ⟨why, failed, untold⟩ := ih (fun v member => kept v (List.mem_cons_of_mem _ member))
        (position + 1)
      obtain ⟨json, own⟩ := hasJson_iff.1 (kept first List.mem_cons_self)
      refine ⟨why, ?_, untold⟩
      rw [List.cons_append, itemsAt, own, failed]
      rfl

/-- Entries fail when those before them are kept. -/
theorem entriesAt_append_error {before after : List (Literal × Literal)} {path : String}
    {why : Malformed} (kept : ∀ entry ∈ before, (∃ name, entry.1 = .str name) ∧ entry.2.HasJson)
    (failed : entriesAt path after = .error why) :
    entriesAt path (before ++ after) = .error why := by
  induction before with
  | nil => exact failed
  | cons entry rest ih =>
      obtain ⟨key, item⟩ := entry
      obtain ⟨⟨name, text⟩, own⟩ := kept _ List.mem_cons_self
      obtain ⟨json, here⟩ : ∃ json, toJsonAt (path ++ "." ++ name) item = .ok json :=
        hasJson_iff.1 own
      obtain rfl : key = .str name := text
      rw [List.cons_append, entriesAt, here,
        ih fun entry member => kept entry (List.mem_cons_of_mem _ member)]
      rfl

theorem exists_error_of_nameless {value : Literal} (nameless : Nameless value) (path : String) :
    ∃ why, toJsonAt path value = .error why ∧ Untold why := by
  induction nameless generalizing path with
  | tuple kept here ih | list kept here ih =>
      obtain ⟨why, failed, untold⟩ := exists_itemsAt_error kept ih 0
      exact ⟨why, except_bind_eq_error.2 (.inl failed), untold⟩
  | @key before after key item kept other long =>
      have failed : entriesAt path ((key, item) :: after) = .error (.keyNotText (some path) key) := by
        cases key with
        | str name => exact absurd rfl (other name)
        | _ => rfl
      exact ⟨_, except_bind_eq_error.2 (.inl (entriesAt_append_error kept failed)), _, _, rfl, long⟩
  | @item before after name item kept here ih =>
      obtain ⟨why, failed, untold⟩ := ih (path ++ "." ++ name)
      have failed : entriesAt path ((.str name, item) :: after) = .error why := by
        rw [entriesAt, failed]
        rfl
      exact ⟨why, except_bind_eq_error.2 (.inl (entriesAt_append_error kept failed)), untold⟩

mutual

theorem nameless_of_error : ∀ (value : Literal) {path : String} {why : Malformed},
    toJsonAt path value = .error why → Untold why → Nameless value
  | .null | .bool _ | .int _ | .str _ => nofun
  | .double _ => fun failed untold => by
      rw [toJsonAt] at failed
      split at failed
      · cases failed
      · cases failed
        cases untold.choose_spec.choose_spec.1
  | .bytes _ | .complex _ _ | .ellipsis | .set _ => fun failed untold => by
      cases failed
      cases untold.choose_spec.choose_spec.1
  | .tuple items => fun failed untold => by
      rcases except_bind_eq_error.1 failed with failed | ⟨_, _, impossible⟩
      · obtain ⟨before, item, after, rfl, kept, here⟩ := nameless_of_itemsAt items failed untold
        exact .tuple kept here
      · cases impossible
  | .list items => fun failed untold => by
      rcases except_bind_eq_error.1 failed with failed | ⟨_, _, impossible⟩
      · obtain ⟨before, item, after, rfl, kept, here⟩ := nameless_of_itemsAt items failed untold
        exact .list kept here
      · cases impossible
  | .mapping entries => fun failed untold => by
      rcases except_bind_eq_error.1 failed with failed | ⟨_, _, impossible⟩
      · obtain ⟨before, key, item, after, rfl, kept, here⟩ :=
          nameless_of_entriesAt entries failed untold
        rcases here with ⟨other, long⟩ | ⟨name, rfl, here⟩
        · exact .key kept other long
        · exact .item kept here
      · cases impossible

theorem nameless_of_itemsAt : ∀ (items : List Literal) {path : String} {position : Nat}
    {why : Malformed}, itemsAt path position items = .error why → Untold why →
      ∃ before item after, items = before ++ item :: after ∧ (∀ v ∈ before, v.HasJson) ∧
        Nameless item
  | [] => nofun
  | first :: rest => fun failed untold => by
      rcases except_bind_eq_error.1 failed with failed | ⟨json, own, failed⟩
      · exact ⟨[], first, rest, rfl, nofun, nameless_of_error first failed untold⟩
      rcases except_bind_eq_error.1 failed with failed | ⟨_, _, impossible⟩
      · obtain ⟨before, item, after, rfl, kept, here⟩ := nameless_of_itemsAt rest failed untold
        exact ⟨first :: before, item, after, rfl,
          List.forall_mem_cons.2 ⟨hasJson_iff.2 ⟨json, own⟩, kept⟩, here⟩
      · cases impossible

theorem nameless_of_entriesAt : ∀ (entries : List (Literal × Literal)) {path : String}
    {why : Malformed}, entriesAt path entries = .error why → Untold why →
      ∃ before key item after, entries = before ++ (key, item) :: after ∧
        (∀ entry ∈ before, (∃ name, entry.1 = .str name) ∧ entry.2.HasJson) ∧
          ((∀ name, key ≠ .str name) ∧ key.isWithinDigits = false ∨
            ∃ name, key = .str name ∧ Nameless item)
  | [] => nofun
  | (key, item) :: rest => fun failed untold => by
      cases key with
      | str name =>
          rw [entriesAt] at failed
          rcases except_bind_eq_error.1 failed with failed | ⟨json, own, failed⟩
          · exact ⟨[], _, item, rest, rfl, nofun,
              .inr ⟨name, rfl, nameless_of_error item failed untold⟩⟩
          rcases except_bind_eq_error.1 failed with failed | ⟨_, _, impossible⟩
          · obtain ⟨before, key, item', after, rfl, kept, here⟩ :=
              nameless_of_entriesAt rest failed untold
            exact ⟨(.str name, item) :: before, key, item', after, rfl,
              List.forall_mem_cons.2 ⟨⟨⟨name, rfl⟩, hasJson_iff.2 ⟨json, own⟩⟩, kept⟩, here⟩
          · cases impossible
      | _ =>
          cases failed
          obtain ⟨_, _, ⟨⟩, long⟩ := untold
          exact ⟨[], _, item, rest, rfl, nofun, .inl ⟨nofun, long⟩⟩

end

/-! ## Texts that stop the decoder -/

/-- The words of a text, apart from blanks around it. -/
def words? (text : String) : Option (List Token) :=
  Token.ofText? (Text.trimBoth Text.isBlank text.toList)

/-- The expression that a text forms. -/
def expression? (text : String) : Option Expression := (words? text).bind Expression.ofTokens?

/-- The text forms an expression that overflows, or one whose value is nameless. -/
def Stuck (text : String) : Prop :=
  ∃ e, expression? text = some e ∧ (e.Overflows ∨ ∃ value, e.value = .ok value ∧ value.Nameless)

/-- A text is read by way of its expression. -/
theorem read_eq (text : String) :
    read text = match expression? text with
      | none => .error (.malformed (.notLiteral text))
      | some e => match e.value with
        | .ok value => .ok value
        | .error .malformed => .error (.malformed (.notLiteral text))
        | .error .tooLarge => .error .tooLarge := rfl

theorem decode_eq_of_value {text : String} {e : Expression} {value : Literal}
    (formed : expression? text = some e) (own : e.value = .ok value) :
    decode text = match value.toJson with
      | .ok json => .ok json
      | .error why => .error (refusal why) := by
  rw [decode, read_eq, formed]
  dsimp only
  rw [own]
  rfl

/-- A text is decoded or refused unless it is stuck. -/
theorem answered_decode_iff {text : String} : Answered (decode text) ↔ ¬ Stuck text := by
  unfold Stuck
  cases formed : expression? text with
  | none =>
      rw [decode, read_eq, formed]
      exact iff_of_true .malformed nofun
  | some e =>
      simp only [Option.some.injEq, exists_eq_left']
      rw [← Expression.value_eq_tooLarge_iff]
      cases own : e.value with
      | error why =>
          rw [decode, read_eq, formed]
          dsimp only
          rw [own]
          cases why with
          | malformed =>
              refine iff_of_true .malformed ?_
              rintro (impossible | ⟨_, impossible, -⟩)
              · cases impossible
              · cases impossible
          | tooLarge => exact iff_of_false nofun fun stuck => stuck (.inl rfl)
      | ok value =>
          rw [decode_eq_of_value formed own]
          cases kept : value.toJson with
          | ok json =>
              refine iff_of_true .ok ?_
              rintro (impossible | ⟨_, ⟨⟩, nameless⟩)
              · cases impossible
              · obtain ⟨why, failed, -⟩ := exists_error_of_nameless nameless "$"
                cases kept.symm.trans failed
          | error why =>
              refine answered_refusal_iff.trans (not_congr ⟨fun untold => ?_, ?_⟩)
              · exact .inr ⟨value, rfl, nameless_of_error value kept untold⟩
              · rintro (impossible | ⟨_, ⟨⟩, nameless⟩)
                · cases impossible
                · obtain ⟨why', failed, untold⟩ := exists_error_of_nameless nameless "$"
                  cases kept.symm.trans failed
                  exact untold

end Literal

end TypedContract
