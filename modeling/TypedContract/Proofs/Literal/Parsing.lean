/-
# TypedContract.Proofs.Literal.Parsing -- the expression that the words of a value form

`expression` is the expression of a value: signed numbers, constants, lists and mappings.
The words of a value form it (`ofTokens?_tokens`): no word that could carry an expression
on follows a value, and four steps for each word suffice.  Its value is the value itself
(`value_expression`), entries of distinct keys being stored in their order.
-/
import TypedContract.Literal.Expression
import TypedContract.Proofs.Literal.Scanning

namespace TypedContract.Literal

set_option autoImplicit false

namespace Expression

open Token

/-! ## The expression of a value -/

/-- A number after its sign. -/
def ofSigned (negative : Bool) (value : Literal) : Expression :=
  if negative then .signed true (.number value) else .number value

mutual

/-- The expression of a value. -/
def expression : Json → Expression
  | .null => .constant .null
  | .bool value => .constant (.bool value)
  | .int value => ofSigned (value < 0) (.int value.natAbs)
  | .double value => ofSigned (isNegative value) (.double (magnitude value))
  | .str value => .constant (.str value)
  | .list items => .list (expressions items)
  | .object entries => .mapping (entryExpressions entries)

/-- The expressions of the items. -/
def expressions : List Json → List Expression
  | [] => []
  | item :: rest => expression item :: expressions rest

/-- The expressions of the keys and values. -/
def entryExpressions : List (String × Json) → List (Expression × Expression)
  | [] => []
  | (key, value) :: rest => (.constant (.str key), expression value) :: entryExpressions rest

end

/-! ## What follows a value -/

/-- Nothing follows, or a word that carries no expression on. -/
def endsValue : List Token → Bool
  | [] => true
  | .comma :: _ => true
  | .colon :: _ => true
  | .closing _ :: _ => true
  | _ => false

variable {depth bound : Nat} {e : Expression} {token : Token} {words rest : List Token}

theorem parse?_of_term? (term : term? bound words = some (e, rest)) (ends : endsValue rest = true) :
    parse? (bound + 1) words = some (e, rest) := by
  rw [parse?, term]
  cases rest with
  | nil => rfl
  | cons first others => cases first <;> first | rfl | cases ends

theorem called_of_endsValue (ends : endsValue rest = true) : called e rest = some (e, rest) := by
  cases rest with
  | nil => rfl
  | cons first others => cases first <;> first | rfl | cases ends

/-- A word that is no sign starts an operand. -/
theorem parse?_of_operand? (plus : token ≠ .plus) (minus : token ≠ .minus)
    (operand : operand? bound (token :: words) = some (e, rest)) (ends : endsValue rest = true) :
    parse? (bound + 2) (token :: words) = some (e, rest) := by
  refine parse?_of_term? ?_ ends
  rw [term?.eq_def]
  cases token with
  | plus => exact absurd rfl plus
  | minus => exact absurd rfl minus
  | _ =>
      dsimp only
      rw [operand]
      exact called_of_endsValue ends

theorem text?_textPiece (text : String) (ends : endsValue rest = true) :
    text? (.textPiece text.toList :: rest) = some (.constant (.str text), rest) := by
  have after : texts rest = ([], rest) := by
    cases rest with
    | nil => rfl
    | cons first others => cases first <;> first | rfl | cases ends
  have whole : texts (.textPiece text.toList :: rest) = (text.toList, rest) := by
    rw [texts, after]
    simp only [List.append_nil]
  have same : String.ofList text.toList = text := String.ofList_toList
  rw [text?, whole]
  cases rest with
  | nil => simp only [same]
  | cons first others =>
      cases first with
      | comma | colon | closing => simp only [same]
      | _ => cases ends

/-! ## The words of a value form its expression -/

/-- The words of the value form its expression wherever they end. -/
def Forms (value : Json) : Prop :=
  ∀ {bound : Nat} {rest : List Token}, 4 * (tokens value).length ≤ bound →
    endsValue rest = true → parse? bound (tokens value ++ rest) = some (expression value, rest)

theorem parse?_constant {value : Literal} (enough : 3 ≤ bound) (ends : endsValue rest = true) :
    parse? bound (.constant value :: rest) = some (.constant value, rest) := by
  obtain ⟨bound, rfl⟩ : ∃ less, bound = less + 3 := ⟨bound - 3, by omega⟩
  exact parse?_of_operand? (by rintro ⟨⟩) (by rintro ⟨⟩) rfl ends

theorem parse?_textPiece (text : String) (enough : 3 ≤ bound) (ends : endsValue rest = true) :
    parse? bound (.textPiece text.toList :: rest) = some (.constant (.str text), rest) := by
  obtain ⟨bound, rfl⟩ : ∃ less, bound = less + 3 := ⟨bound - 3, by omega⟩
  refine parse?_of_operand? (by rintro ⟨⟩) (by rintro ⟨⟩) ?_ ends
  rw [operand?, text?_textPiece text ends]

theorem parse?_signed {negative : Bool} {value : Literal}
    (enough : 4 * (Token.signed negative value).length ≤ bound) (ends : endsValue rest = true) :
    parse? bound (Token.signed negative value ++ rest) = some (ofSigned negative value, rest) := by
  cases negative with
  | false =>
      obtain ⟨bound, rfl⟩ : ∃ less, bound = less + 3 := ⟨bound - 3, by simp [Token.signed] at enough; omega⟩
      exact parse?_of_operand? (by rintro ⟨⟩) (by rintro ⟨⟩) rfl ends
  | true =>
      obtain ⟨bound, rfl⟩ : ∃ less, bound = less + 4 := ⟨bound - 4, by simp [Token.signed] at enough; omega⟩
      refine parse?_of_term? ?_ ends
      have operand : term? (bound + 2) (.number value :: rest) = some (.number value, rest) := by
        rw [term?.eq_def]
        dsimp only
        rw [operand?, Option.bind_eq_bind, Option.bind_some]
        exact called_of_endsValue ends
      show term? (bound + 3) (.minus :: .number value :: rest) = _
      rw [term?, operand]
      rfl

/-- A value starts with no closing bracket. -/
theorem tokens_head (value : Json) :
    ∃ first more, tokens value = first :: more ∧ ∀ bracket, first ≠ .closing bracket := by
  have number : ∀ negative value, ∃ first more,
      Token.signed negative value = first :: more ∧ ∀ bracket, first ≠ .closing bracket := by
    rintro (_ | _) value
    · exact ⟨_, _, rfl, by rintro bracket ⟨⟩⟩
    · exact ⟨_, _, rfl, by rintro bracket ⟨⟩⟩
  cases value with
  | int value => exact number _ _
  | double value => exact number _ _
  | _ => exact ⟨_, _, rfl, by rintro bracket ⟨⟩⟩

/-! ## Items and entries -/

variable {first : Token} {more : List Token} {items : List Expression}
  {pairs : List (Expression × Expression)} {bracket : Bracket} {comma : Bool}

theorem items?_last (opens : ∀ bracket, first ≠ .closing bracket)
    (parsed : parse? bound (first :: words) = some (e, .closing bracket :: rest)) :
    items? (bound + 1) bracket (first :: words) = some ([e], false, rest) := by
  rw [items?.eq_def]
  cases first with
  | closing bracket => exact absurd rfl (opens bracket)
  | _ =>
      simp only [parsed, Option.bind_eq_bind, Option.bind_some, ↓reduceIte]

theorem items?_cons (opens : ∀ bracket, first ≠ .closing bracket)
    (parsed : parse? bound (first :: words) = some (e, .comma :: more))
    (others : items? bound bracket more = some (items, comma, rest)) :
    items? (bound + 1) bracket (first :: words) = some (e :: items, true, rest) := by
  rw [items?.eq_def]
  cases first with
  | closing bracket => exact absurd rfl (opens bracket)
  | _ =>
      simp only [parsed, Option.bind_eq_bind, Option.bind_some, others]
      rfl

theorem items?_itemTokens {values : List Json} (each : ∀ value ∈ values, Forms value)
    (enough : 4 * (itemTokens values).length ≤ bound) :
    ∃ comma, items? bound .square (itemTokens values ++ rest) =
      some (expressions values, comma, rest) := by
  induction values generalizing bound with
  | nil =>
      obtain ⟨bound, rfl⟩ : ∃ less, bound = less + 1 :=
        ⟨bound - 1, by simp [itemTokens] at enough; omega⟩
      exact ⟨false, rfl⟩
  | cons value others ih =>
      have own := @each value List.mem_cons_self
      obtain ⟨first, more, head, opens⟩ := tokens_head value
      cases others with
      | nil =>
          simp only [itemTokens, List.length_append, List.length_singleton] at enough
          obtain ⟨bound, rfl⟩ : ∃ less, bound = less + 1 := ⟨bound - 1, by omega⟩
          have parsed := @own bound (.closing .square :: rest) (by omega) rfl
          refine ⟨false, ?_⟩
          simp only [itemTokens, List.append_assoc, List.singleton_append]
          rw [head] at parsed ⊢
          exact items?_last opens parsed
      | cons next others =>
          have length : (itemTokens (value :: next :: others)).length =
              (tokens value).length + (itemTokens (next :: others)).length + 1 := by
            rw [itemTokens, List.length_append, List.length_cons, Nat.add_assoc]
            exact List.cons_ne_nil _ _
          obtain ⟨bound, rfl⟩ : ∃ less, bound = less + 1 := ⟨bound - 1, by omega⟩
          have parsed := @own bound (.comma :: (itemTokens (next :: others) ++ rest)) (by omega) rfl
          obtain ⟨comma, tail⟩ := @ih bound
            (fun other member => @each other (List.mem_cons_of_mem _ member)) (by omega)
          refine ⟨true, ?_⟩
          rw [itemTokens, List.append_assoc, List.cons_append]
          · rw [head] at parsed ⊢
            exact items?_cons opens parsed tail
          · exact List.cons_ne_nil _ _

theorem braces?_of_entries? (parsed : entries? bound words = some (pairs, rest)) :
    braces? bound words = some (.mapping pairs, rest) := by
  cases bound with
  | zero => cases parsed
  | succ bound =>
      rw [entries?.eq_def] at parsed
      rw [braces?.eq_def]
      dsimp only at parsed ⊢
      split at parsed
      · cases parsed
      · cases parsed
        rfl
      · obtain ⟨⟨key, afterKey⟩, keyed, parsed⟩ := Option.bind_eq_some_iff.1 parsed
        rw [keyed, Option.bind_eq_bind, Option.bind_some]
        dsimp only at parsed ⊢
        split at parsed
        · obtain ⟨⟨value, after⟩, valued, parsed⟩ := Option.bind_eq_some_iff.1 parsed
          simp only [valued, Option.bind_eq_bind, Option.bind_some]
          dsimp only at parsed
          split at parsed
          · obtain ⟨⟨others, after⟩, tail, parsed⟩ := Option.bind_eq_some_iff.1 parsed
            cases parsed
            rw [tail]
            rfl
          · cases parsed
            rfl
          · cases parsed
        · cases parsed

theorem entries?_last {piece : List Char} {key value : Expression} {afterKey : List Token}
    (keyed : parse? bound (.textPiece piece :: words) = some (key, .colon :: afterKey))
    (valued : parse? bound afterKey = some (value, .closing .curly :: rest)) :
    entries? (bound + 1) (.textPiece piece :: words) = some ([(key, value)], rest) := by
  rw [entries?.eq_def]
  simp only [keyed, valued, Option.bind_eq_bind, Option.bind_some]

theorem entries?_cons {piece : List Char} {key value : Expression} {afterKey : List Token}
    (keyed : parse? bound (.textPiece piece :: words) = some (key, .colon :: afterKey))
    (valued : parse? bound afterKey = some (value, .comma :: more))
    (others : entries? bound more = some (pairs, rest)) :
    entries? (bound + 1) (.textPiece piece :: words) = some ((key, value) :: pairs, rest) := by
  rw [entries?.eq_def]
  simp only [keyed, valued, Option.bind_eq_bind, Option.bind_some, others]
  rfl

theorem entries?_entryTokens {entries : List (String × Json)}
    (each : ∀ entry ∈ entries, Forms entry.2) (enough : 4 * (entryTokens entries).length ≤ bound) :
    entries? bound (entryTokens entries ++ rest) = some (entryExpressions entries, rest) := by
  induction entries generalizing bound with
  | nil =>
      obtain ⟨bound, rfl⟩ : ∃ less, bound = less + 1 :=
        ⟨bound - 1, by simp [entryTokens] at enough; omega⟩
      rfl
  | cons entry others ih =>
      obtain ⟨key, value⟩ := entry
      have own : Forms value := @each (key, value) List.mem_cons_self
      cases others with
      | nil =>
          simp only [entryTokens, List.length_append, List.length_cons, List.length_nil] at enough
          obtain ⟨bound, rfl⟩ : ∃ less, bound = less + 1 := ⟨bound - 1, by omega⟩
          have valued := @own bound (.closing .curly :: rest) (by omega) rfl
          simp only [entryTokens, List.append_assoc, List.cons_append, List.nil_append]
          exact entries?_last (parse?_textPiece key (by omega) rfl) valued
      | cons next others =>
          have length : (entryTokens ((key, value) :: next :: others)).length =
              (tokens value).length + (entryTokens (next :: others)).length + 3 := by
            rw [entryTokens, List.length_cons, List.length_cons, List.length_append,
              List.length_cons]
            · omega
            · exact List.cons_ne_nil _ _
          obtain ⟨bound, rfl⟩ : ∃ less, bound = less + 1 := ⟨bound - 1, by omega⟩
          have valued := @own bound (.comma :: (entryTokens (next :: others) ++ rest)) (by omega) rfl
          have tail := @ih bound
            (fun other member => @each other (List.mem_cons_of_mem _ member)) (by omega)
          rw [entryTokens, List.cons_append, List.cons_append, List.append_assoc, List.cons_append]
          · exact entries?_cons (parse?_textPiece key (by omega) rfl) valued tail
          · exact List.cons_ne_nil _ _

theorem forms_of_writable {value : Json} (writable : value.Writable depth) : Forms value := by
  induction writable with
  | null | bool =>
      intro bound rest enough ends
      exact parse?_constant (by simp [tokens] at enough; omega) ends
  | int | double =>
      intro bound rest enough ends
      exact parse?_signed enough ends
  | str value =>
      intro bound rest enough ends
      exact parse?_textPiece value (by simp [tokens] at enough; omega) ends
  | @list depth items each ih =>
      intro bound rest enough ends
      simp only [tokens, List.length_cons] at enough
      obtain ⟨bound, rfl⟩ : ∃ less, bound = less + 3 := ⟨bound - 3, by omega⟩
      obtain ⟨comma, inside⟩ := @items?_itemTokens bound rest items
        (fun item member => ih item member) (by omega)
      refine parse?_of_operand? (by rintro ⟨⟩) (by rintro ⟨⟩) ?_ ends
      rw [operand?]
      exact Option.bind_eq_some_iff.2 ⟨_, inside, rfl⟩
  | @object depth entries distinct each ih =>
      intro bound rest enough ends
      simp only [tokens, List.length_cons] at enough
      obtain ⟨bound, rfl⟩ : ∃ less, bound = less + 3 := ⟨bound - 3, by omega⟩
      have inside := @entries?_entryTokens bound rest entries
        (fun entry member => ih entry member) (by omega)
      refine parse?_of_operand? (by rintro ⟨⟩) (by rintro ⟨⟩) ?_ ends
      rw [operand?]
      exact braces?_of_entries? inside

/-- The words of a value form its expression. -/
theorem ofTokens?_tokens {value : Json} (writable : value.Writable depth) :
    ofTokens? (tokens value) = some (expression value) := by
  have parsed := @forms_of_writable _ _ writable (4 * (tokens value).length + 4) []
    (Nat.le_add_right _ _) rfl
  rw [List.append_nil] at parsed
  rw [ofTokens?, sequence?, parsed]
  rfl

/-! ## The value of the expression -/

theorem value_ofSigned (negative : Bool) (number : Literal) :
    (ofSigned negative number).value = .ok (if negative then negate number else number) := by
  cases negative <;> rfl

theorem negate_natAbs (number : Int) :
    (if decide (number < 0) = true then negate (.int number.natAbs) else .int number.natAbs) =
      .int number := by
  by_cases negative : number < 0
  · rw [if_pos (decide_eq_true negative), negate, Int.ofNat_natAbs_of_nonpos (by omega), Int.neg_neg]
  · rw [if_neg (by simpa using negative), Int.natAbs_of_nonneg (by omega)]

theorem store_ofEntries {before : List (String × Json)} {key : String} {value : Json}
    (fresh : key ∉ before.map Prod.fst) :
    store (.str key) (ofJson value) (ofEntries before) = ofEntries (before ++ [(key, value)]) := by
  induction before with
  | nil => rfl
  | cons entry others ih =>
      obtain ⟨name, old⟩ := entry
      simp only [List.map_cons, List.mem_cons, not_or] at fresh
      have other : (name == key) = false := beq_eq_false_iff_ne.2 (Ne.symm fresh.1)
      rw [ofEntries, store, List.cons_append, ofEntries, ih fresh.2]
      simp only [other]
      rfl

theorem values_expressions {items : List Json}
    (each : ∀ item ∈ items, (expression item).value = .ok (ofJson item)) :
    values (expressions items) = .ok (ofItems items) := by
  induction items with
  | nil => rfl
  | cons item others ih =>
      rw [expressions, values, each item List.mem_cons_self,
        ih fun other member => each other (List.mem_cons_of_mem _ member)]
      rfl

/-- Entries of distinct keys are stored one behind the other. -/
theorem entryValues_entryExpressions {before entries : List (String × Json)}
    (distinct : ((before ++ entries).map Prod.fst).Nodup)
    (each : ∀ entry ∈ entries, (expression entry.2).value = .ok (ofJson entry.2)) :
    entryValues (ofEntries before) (entryExpressions entries) =
      .ok (ofEntries (before ++ entries)) := by
  induction entries generalizing before with
  | nil => simp only [entryExpressions, entryValues, List.append_nil]
  | cons entry others ih =>
      obtain ⟨key, item⟩ := entry
      have own : (expression item).value = .ok (ofJson item) := each (key, item) List.mem_cons_self
      have fresh : key ∉ before.map Prod.fst := by
        rw [List.map_append, List.map_cons] at distinct
        exact fun member => List.disjoint_of_nodup_append distinct member List.mem_cons_self
      have stored := @ih (before ++ [(key, item)]) (by simpa using distinct)
        fun other member => each other (List.mem_cons_of_mem _ member)
      rw [entryExpressions, entryValues, own, value]
      show entryValues (store (.str key) (ofJson item) (ofEntries before)) _ = _
      rw [store_ofEntries fresh, stored, List.append_assoc, List.singleton_append]

/-- The expression of a value has that value. -/
theorem value_expression {value : Json} (writable : value.Writable depth) :
    (expression value).value = .ok (ofJson value) := by
  induction writable with
  | null | bool | str => rfl
  | @int depth number fits =>
      rw [expression, value_ofSigned, negate_natAbs]
      rfl
  | @double depth number finite =>
      cases number with
      | finite negative index => cases negative <;> rfl
      | infinite | nan => cases finite
  | @list depth items each ih =>
      rw [expression, Expression.value, values_expressions ih]
      rfl
  | @object depth entries distinct each ih =>
      have stored := @entryValues_entryExpressions [] entries distinct ih
      rw [expression, Expression.value]
      rw [ofEntries, List.nil_append] at stored
      rw [stored]
      rfl

end Expression

end TypedContract.Literal
