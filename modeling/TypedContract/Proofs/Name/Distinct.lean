/-
# TypedContract.Proofs.Name.Distinct -- when equal names are told apart

Names are told apart in two passes.  The first appends the method to each name that
was given before (`marked`); the second appends a counter to each name that still
occurs again.  So the second pass gives every name together with the number of its
occurrence, written out (`appendCounters_eq_map`), and these pairs are all different.
Written out, two of them can only agree when a name with its counter is itself one of
the names: the names are told apart exactly when that does not happen
(`nodup_counted_iff`).
-/
import Mathlib.Data.List.Nodup
import TypedContract.Name.Distinct
import TypedContract.Proofs.Steps
import TypedContract.Proofs.Text.BaseDigit

namespace TypedContract.Name

set_option autoImplicit false

variable {name other : String} {names methods : List String} {n m : Nat}

/-! ## Names with counters -/

/-- A name with a counter. -/
def withCounter (name : String) (n : Nat) : String := name ++ "_" ++ toString n

theorem toList_toString : (toString n).toList = Nat.toDigits 10 n := by
  change (Nat.repr n).toList = _
  rw [Nat.repr, String.toList_ofList]

theorem not_mem_digits : '_' ∉ (toString n).toList := by
  intro member
  rw [toList_toString] at member
  have digit := Text.isDigitOf_of_mem_toDigits (by decide) (by decide) n _ member
  exact absurd digit (by decide)

/-- The last mark in a text tells the name and the counter. -/
theorem withCounter_injective (same : withCounter name n = withCounter other m) :
    name = other ∧ n = m := by
  have texts : name.toList ++ '_' :: (toString n).toList =
      other.toList ++ '_' :: (toString m).toList := by
    have := congrArg String.toList same
    simpa [withCounter, String.toList_append] using this
  have fronts : name.toList = other.toList ∧ (toString n).toList = (toString m).toList := by
    rcases List.append_eq_append_iff.1 texts with ⟨middle, front, back⟩ | ⟨middle, front, back⟩
    · cases middle with
      | nil => exact ⟨by simpa using front.symm, by simpa using back⟩
      | cons first middle =>
          have member : '_' ∈ (toString n).toList := by
            rw [(List.cons.inj back).2]
            simp
          exact absurd member not_mem_digits
    · cases middle with
      | nil => exact ⟨by simpa using front, by simpa using back.symm⟩
      | cons first middle =>
          have member : '_' ∈ (toString m).toList := by
            rw [(List.cons.inj back).2]
            simp
          exact absurd member not_mem_digits
  have read : ∀ k, Text.ofDigits 10 (toString k).toList = k := by
    intro k
    rw [toList_toString]
    exact Text.ofDigits_toDigits (by decide) (by decide) k
  have numbers : n = m := by rw [← read n, fronts.2, read m]
  exact ⟨String.toList_inj.1 fronts.1, numbers⟩

/-! ## Occurrences -/

/-- Each name with the number of its occurrence, when some names were met before. -/
def occurrences (met : List String) : List String → List (String × Nat)
  | [] => []
  | name :: rest => (name, met.count name + 1) :: occurrences (name :: met) rest

/-- An occurrence written out: only a repeated one shows its number. -/
def written (occurrence : String × Nat) : String :=
  if occurrence.2 ≤ 1 then occurrence.1 else withCounter occurrence.1 occurrence.2

theorem mem_occurrences_iff {met : List String} :
    (name, n) ∈ occurrences met names ↔
      met.count name < n ∧ n ≤ met.count name + names.count name := by
  induction names generalizing met with
  | nil =>
      simp only [occurrences, List.not_mem_nil, List.count_nil, false_iff]
      omega
  | cons first rest ih =>
      simp only [occurrences, List.mem_cons, Prod.mk.injEq, ih, List.count_cons]
      by_cases same : first = name
      · subst same
        simp only [beq_self_eq_true, if_true, true_and]
        omega
      · simp only [beq_iff_eq, if_neg same, Ne.symm same, false_and, false_or, Nat.add_zero]

theorem nodup_occurrences {met : List String} : (occurrences met names).Nodup := by
  induction names generalizing met with
  | nil => exact List.nodup_nil
  | cons first rest ih =>
      refine List.nodup_cons.2 ⟨fun again => ?_, ih⟩
      have later := (mem_occurrences_iff.1 again).1
      rw [List.count_cons_self] at later
      omega

/-- The counters hold how often each name was met. -/
theorem appendCounters_eq_map {counts : List (String × Nat)} {met : List String}
    (counted : ∀ name, counts.lookup name =
      if met.count name = 0 then none else some (met.count name)) :
    appendCounters counts names = (occurrences met names).map written := by
  induction names generalizing counts met with
  | nil => rfl
  | cons first rest ih =>
      have next : ∀ n, n = met.count first + 1 → ∀ name, ((first, n) :: counts).lookup name =
          if (first :: met).count name = 0 then none else some ((first :: met).count name) := by
        rintro n rfl name
        rw [List.lookup_cons, List.count_cons]
        by_cases same : name = first
        · subst same
          simp
        · have apart : (name == first) = false := by simpa using same
          have apart' : (first == name) = false := by simpa using Ne.symm same
          simp only [apart, apart', counted, Bool.false_eq_true, if_false, Nat.add_zero]
      have here := counted first
      unfold appendCounters
      split
      · rename_i count found
        rw [found] at here
        split at here
        · cases here
        · rename_i some_
          obtain rfl : count = met.count first := Option.some.inj here
          rw [occurrences, List.map_cons, ih (next _ rfl), written, if_neg (by omega), withCounter]
      · rename_i absent
        rw [absent] at here
        split at here
        · rename_i none_
          rw [occurrences, List.map_cons, ih (next 1 (by omega)), written, if_pos (by omega)]
        · cases here

theorem appendCounters_nil : appendCounters [] names = (occurrences [] names).map written :=
  appendCounters_eq_map fun name => by simp

/-- No name with a counter that the second pass gives is one of the names already. -/
def CountersFree (names : List String) : Prop :=
  ∀ name ∈ names, ∀ n ≤ names.count name, 2 ≤ n → withCounter name n ∉ names

instance {names : List String} : Decidable (CountersFree names) := by
  unfold CountersFree
  infer_instance

/-- Occurrences are written alike only when a name with its counter is a name itself. -/
theorem nodup_counted_iff : (appendCounters [] names).Nodup ↔ CountersFree names := by
  rw [appendCounters_nil, List.nodup_map_iff_inj_on nodup_occurrences]
  have inside : ∀ name n, (name, n) ∈ occurrences [] names ↔ 1 ≤ n ∧ n ≤ names.count name := by
    intro name n
    rw [mem_occurrences_iff, List.count_nil, Nat.zero_add]
    exact Iff.rfl
  constructor
  · intro injective name held n small large listed
    have first := (inside (withCounter name n) 1).2
      ⟨Nat.le_refl 1, List.count_pos_iff.2 listed⟩
    have repeated := (inside name n).2 ⟨by omega, small⟩
    have same := injective _ first _ repeated (by
      rw [written, if_pos (Nat.le_refl 1), written, if_neg (by omega)])
    have counters : 1 = n := congrArg Prod.snd same
    omega
  · rintro free ⟨name, n⟩ first ⟨other, m⟩ second same
    obtain ⟨low, high⟩ := (inside name n).1 first
    obtain ⟨low', high'⟩ := (inside other m).1 second
    have held : name ∈ names := List.count_pos_iff.1 (by omega)
    have held' : other ∈ names := List.count_pos_iff.1 (by omega)
    by_cases once : n ≤ 1 <;> by_cases once' : m ≤ 1
    · simp only [written, if_pos once, if_pos once'] at same
      exact Prod.ext same (by change n = m; omega)
    · simp only [written, if_pos once, if_neg once'] at same
      exact absurd (same ▸ held) (free other held' m high' (by omega))
    · simp only [written, if_neg once, if_pos once'] at same
      exact absurd (same ▸ held') (free name held n high (by omega))
    · simp only [written, if_neg once, if_neg once'] at same
      obtain ⟨rfl, rfl⟩ := withCounter_injective same
      rfl

/-! ## Names with methods -/

/-- The names after the first pass: one that was given before has its method. -/
def marked (names methods : List String) : List String :=
  (names.zip methods).mapIdx fun i (name, method) =>
    if name ∈ names.take i then name ++ "_" ++ method else name

theorem appendMethods_eq {seen before : List String} (paired : names.length = methods.length)
    (same : ∀ name, name ∈ seen ↔ name ∈ before) :
    appendMethods seen names methods = .ok ((names.zip methods).mapIdx fun i (name, method) =>
      if name ∈ before ++ names.take i then name ++ "_" ++ method else name) := by
  induction names generalizing methods seen before with
  | nil => rfl
  | cons first rest ih =>
      cases methods with
      | nil => cases paired
      | cons method others =>
          have shorter : rest.length = others.length := Nat.succ.inj paired
          have shifted : ∀ i, before ++ (first :: rest).take (i + 1) =
              (before ++ [first]) ++ rest.take i := by
            intro i
            rw [List.take_succ_cons, List.append_assoc]
            rfl
          simp only [List.zip_cons_cons, List.mapIdx_cons, shifted, List.take_zero,
            List.append_nil]
          unfold appendMethods
          -- a name that was met before is added to `before` only: as sets both stay the same
          by_cases again : first ∈ before
          · have known : ∀ name, name ∈ seen ↔ name ∈ before ++ [first] := by
              intro name
              rw [same, List.mem_append, List.mem_singleton]
              exact ⟨.inl, fun found => found.elim id fun equal => equal ▸ again⟩
            have listed : seen.contains first = true := by
              simpa using (same first).2 again
            rw [if_pos listed, if_pos again]
            exact except_bind_eq_ok.2 ⟨_, ih shorter known, rfl⟩
          · have known : ∀ name, name ∈ first :: seen ↔ name ∈ before ++ [first] := by
              intro name
              rw [List.mem_cons, same, List.mem_append, List.mem_singleton, or_comm]
            have unlisted : ¬ seen.contains first = true := by
              simpa using fun found => again ((same first).1 found)
            rw [if_neg unlisted, if_neg again]
            exact except_bind_eq_ok.2 ⟨_, ih shorter known, rfl⟩

/-- Names with as many methods are never refused: both passes run to the end. -/
theorem distinct_eq (paired : names.length = methods.length) :
    distinct names methods = .ok (appendCounters [] (marked names methods)) := by
  have first : appendMethods [] names methods = .ok (marked names methods) :=
    appendMethods_eq paired fun _ => Iff.rfl
  exact except_bind_eq_ok.2 ⟨_, first, rfl⟩

theorem length_occurrences {met : List String} : (occurrences met names).length = names.length := by
  induction names generalizing met with
  | nil => rfl
  | cons first rest ih => exact congrArg Nat.succ ih

theorem length_distinct {told : List String} (paired : names.length = methods.length)
    (apart : distinct names methods = .ok told) : told.length = names.length := by
  obtain rfl := Except.ok.inj (apart.symm.trans (distinct_eq paired))
  rw [appendCounters_nil, List.length_map, length_occurrences, marked, List.length_mapIdx,
    List.length_zip, ← paired, Nat.min_self]

end TypedContract.Name
