/-
# TypedContract.Proofs.Steps -- steps over lists, item by item

A list of steps that may fault succeeds when each of them does; its results are then
related to its items one by one.  A loop that each time uses up one item of a list ends
because a count falls (`countP_lt_countP`).
-/
import Mathlib.Data.List.Forall2

namespace TypedContract

set_option autoImplicit false

/-! ## Steps that may fault -/

theorem except_bind_eq_ok {ε α β : Type} {step : Except ε α} {next : α → Except ε β} {b : β} :
    step >>= next = .ok b ↔ ∃ a, step = .ok a ∧ next a = .ok b := by
  cases step with
  | ok a => simp [bind, Except.bind]
  | error fault => simp [bind, Except.bind]

theorem except_bind_eq_error {ε α β : Type} {step : Except ε α} {next : α → Except ε β} {why : ε} :
    step >>= next = .error why ↔ step = .error why ∨ ∃ a, step = .ok a ∧ next a = .error why := by
  cases step with
  | ok a => simp [bind, Except.bind]
  | error fault => simp [bind, Except.bind]

theorem except_ok_bind {ε α β : Type} {a : α} {next : α → Except ε β} :
    (.ok a >>= next) = next a := rfl

theorem except_bind_congr {ε α β : Type} {step : Except ε α} {next next' : α → Except ε β}
    (same : ∀ a, step = .ok a → next a = next' a) : step >>= next = step >>= next' := by
  cases step with
  | ok a => exact same a rfl
  | error fault => rfl

/-- A step that succeeds with a good result, before one that then succeeds. -/
theorem exists_bind_eq_ok {ε α β : Type} {step : Except ε α} {next : α → Except ε β}
    {good : α → Prop} {fine : β → Prop} (first : ∃ a, step = .ok a ∧ good a)
    (rest : ∀ a, good a → ∃ b, next a = .ok b ∧ fine b) :
    ∃ b, step >>= next = .ok b ∧ fine b := by
  obtain ⟨a, rfl, own⟩ := first
  exact rest a own

theorem except_pure_eq_ok {ε α : Type} {a b : α} : (pure a : Except ε α) = .ok b ↔ a = b := by
  simp [pure, Except.pure]

theorem toOption_eq_some {ε α : Type} {step : Except ε α} {a : α} :
    step.toOption = some a ↔ step = .ok a := by
  cases step <;> simp [Except.toOption]

theorem mapM_eq_ok_iff {ε α β : Type} {step : α → Except ε β} {xs : List α} {ys : List β} :
    xs.mapM step = .ok ys ↔ List.Forall₂ (fun x y => step x = .ok y) xs ys := by
  induction xs generalizing ys with
  | nil =>
      rw [List.mapM_nil, except_pure_eq_ok, List.forall₂_nil_left_iff]
      exact eq_comm
  | cons x xs ih =>
      simp only [List.mapM_cons, except_bind_eq_ok, except_pure_eq_ok, ih]
      constructor
      · rintro ⟨y, first, ys, rest, rfl⟩
        exact .cons first rest
      · rintro (_ | ⟨first, rest⟩)
        exact ⟨_, first, _, rest, rfl⟩

/-- Steps that each succeed with a good result succeed one after the other. -/
theorem exists_mapM_eq_ok {ε α β : Type} {step : α → Except ε β} {good : β → Prop} {xs : List α}
    (each : ∀ x ∈ xs, ∃ y, step x = .ok y ∧ good y) :
    ∃ ys, xs.mapM step = .ok ys ∧ ∀ y ∈ ys, good y := by
  induction xs with
  | nil => exact ⟨[], rfl, nofun⟩
  | cons x xs ih =>
      obtain ⟨y, first, own⟩ := each x List.mem_cons_self
      obtain ⟨ys, rest, others⟩ := ih fun other member => each other (List.mem_cons_of_mem _ member)
      exact ⟨y :: ys, by rw [List.mapM_cons, first, rest]; rfl, List.forall_mem_cons.2 ⟨own, others⟩⟩

theorem mapM_eq_some_iff {α β : Type} {step : α → Option β} {xs : List α} {ys : List β} :
    xs.mapM step = some ys ↔ List.Forall₂ (fun x y => step x = some y) xs ys := by
  induction xs generalizing ys with
  | nil =>
      rw [List.mapM_nil, List.forall₂_nil_left_iff]
      exact (Option.some_inj).trans eq_comm
  | cons x xs ih =>
      simp only [List.mapM_cons, Option.bind_eq_bind, Option.bind_eq_some_iff, Option.pure_def,
        Option.some_inj, ih]
      constructor
      · rintro ⟨y, first, ys, rest, rfl⟩
        exact .cons first rest
      · rintro (_ | ⟨first, rest⟩)
        exact ⟨_, first, _, rest, rfl⟩

theorem option_mapM_eq_ok_iff {ε α β : Type} {step : α → Except ε β} {x? : Option α}
    {y? : Option β} :
    x?.mapM step = .ok y? ↔
      (x? = none ∧ y? = none) ∨ ∃ x y, x? = some x ∧ y? = some y ∧ step x = .ok y := by
  cases x? with
  | none => simp [Option.mapM_none, pure, Except.pure, eq_comm]
  | some x =>
      cases h : step x with
      | ok y => simp [Option.mapM_some, h, Functor.map, Except.map, eq_comm]
      | error fault => simp [Option.mapM_some, h, Functor.map, Except.map]

/-- A step for a value that may be absent succeeds when it does for the value. -/
theorem exists_option_mapM_eq_ok {ε α β : Type} {step : α → Except ε β} {good : β → Prop}
    {x? : Option α} (each : ∀ x, x? = some x → ∃ y, step x = .ok y ∧ good y) :
    ∃ y?, x?.mapM step = .ok y? ∧ ∀ y, y? = some y → good y := by
  cases x? with
  | none => exact ⟨none, rfl, by rintro _ ⟨⟩⟩
  | some x =>
      obtain ⟨y, stepped, own⟩ := each x rfl
      refine ⟨some y, option_mapM_eq_ok_iff.2 (.inr ⟨x, y, rfl, rfl, stepped⟩), ?_⟩
      rintro _ ⟨⟩
      exact own

section

variable {m : Type → Type} [Monad m] [LawfulMonad m] {α β γ : Type} {xs : List α}

theorem mapM_map_results {step : α → m β} {f : β → γ} :
    xs.mapM (fun x => f <$> step x) = List.map f <$> xs.mapM step := by
  induction xs with
  | nil => simp
  | cons x xs ih =>
      simp only [List.mapM_cons, ih, bind_map_left, map_bind, map_pure, List.map_cons]

theorem mapM_congr_mem {step step' : α → m β} (same : ∀ x ∈ xs, step x = step' x) :
    xs.mapM step = xs.mapM step' := by
  induction xs with
  | nil => rfl
  | cons x xs ih =>
      rw [List.mapM_cons, List.mapM_cons, same x List.mem_cons_self,
        ih fun other member => same other (List.mem_cons_of_mem _ member)]

end

/-! ## Counting -/

/-- A count falls when one item leaves and none joins. -/
theorem countP_lt_countP {α : Type} {p q : α → Bool} {xs : List α} {x : α}
    (imp : ∀ x, p x = true → q x = true) (among : x ∈ xs) (out : p x = false)
    (counts : q x = true) : xs.countP p < xs.countP q := by
  induction xs with
  | nil => cases among
  | cons y ys ih =>
      have fewer : ys.countP p ≤ ys.countP q := List.countP_mono_left fun x _ => imp x
      rw [List.countP_cons, List.countP_cons]
      rcases List.mem_cons.1 among with rfl | inside
      · rw [if_neg (by simp [out]), if_pos counts]
        omega
      · have less := ih inside
        by_cases own : p y = true
        · rw [if_pos own, if_pos (imp y own)]
          omega
        · rw [if_neg own]
          omega

/-! ## Lists related item by item -/

theorem forall₂_unique {α β : Type} {r r' : α → β → Prop} {xs : List α} {ys zs : List β}
    (first : List.Forall₂ r xs ys) (second : List.Forall₂ r' xs zs)
    (unique : ∀ {x y z}, r x y → r' x z → y = z) : ys = zs := by
  induction first generalizing zs with
  | nil => cases second; rfl
  | cons head tail ih =>
      cases second with
      | cons head' tail' => rw [unique head head', ih tail']

theorem forall₂_map_eq {α β γ δ : Type} {r : α → β → Prop} {r' : α → γ → Prop} {f : β → δ}
    {g : γ → δ} {xs : List α} {ys : List β} {zs : List γ} (first : List.Forall₂ r xs ys)
    (second : List.Forall₂ r' xs zs)
    (same : ∀ x ∈ xs, ∀ y z, r x y → r' x z → f y = g z) : ys.map f = zs.map g := by
  induction first generalizing zs with
  | nil => cases second; rfl
  | cons head tail ih =>
      cases second with
      | cons head' tail' =>
          rw [List.map_cons, List.map_cons, same _ List.mem_cons_self _ _ head head',
            ih tail' fun x member => same x (List.mem_cons_of_mem _ member)]

theorem map_eq_of_forall₂ {α β γ : Type} {f : α → γ} {g : β → γ} {xs : List α} {ys : List β}
    (related : List.Forall₂ (fun x y => g y = f x) xs ys) : ys.map g = xs.map f := by
  induction related with
  | nil => rfl
  | cons head tail ih => rw [List.map_cons, List.map_cons, head, ih]

theorem forall₂_of_map_eq {α β γ : Type} {f : α → γ} {g : β → γ} {xs : List α} {ys : List β}
    (same : ys.map g = xs.map f) : List.Forall₂ (fun x y => g y = f x) xs ys := by
  induction xs generalizing ys with
  | nil =>
      rw [List.map_nil, List.map_eq_nil_iff] at same
      rw [same]
      exact .nil
  | cons x xs ih =>
      obtain ⟨y, rest, rfl, head, tail⟩ := List.map_eq_cons_iff.1 same
      exact .cons head (ih tail)

theorem forall₂_mono_mem {α β : Type} {r r' : α → β → Prop} {xs : List α} {ys : List β}
    (related : List.Forall₂ r xs ys) (weaker : ∀ x ∈ xs, ∀ y, r x y → r' x y) :
    List.Forall₂ r' xs ys := by
  induction related with
  | nil => exact .nil
  | cons head tail ih =>
      obtain ⟨first, rest⟩ := List.forall_mem_cons.1 weaker
      exact .cons (first _ head) (ih rest)

/-- What goes with two lists that are related to one, item by item. -/
theorem exists_forall₂_of_both {α β γ δ : Type} {r : α → β → Prop} {r' : α → γ → Prop}
    {q : β → δ → Prop} {q' : γ → δ → Prop} {xs : List α} {ys : List β} {zs : List γ}
    (first : List.Forall₂ r xs ys) (second : List.Forall₂ r' xs zs)
    (each : ∀ {x y z}, y ∈ ys → r x y → r' x z → ∃ w, q y w ∧ q' z w) :
    ∃ ws, List.Forall₂ q ys ws ∧ List.Forall₂ q' zs ws := by
  induction first generalizing zs with
  | nil =>
      cases second
      exact ⟨[], .nil, .nil⟩
  | cons head tail ih =>
      cases second with
      | cons head' tail' =>
          obtain ⟨w, own, own'⟩ := each List.mem_cons_self head head'
          obtain ⟨ws, rest, rest'⟩ := ih tail' fun member => each (List.mem_cons_of_mem _ member)
          exact ⟨w :: ws, .cons own rest, .cons own' rest'⟩

theorem exists_of_forall₂_left {α β : Type} {r : α → β → Prop} {xs : List α} {ys : List β}
    (related : List.Forall₂ r xs ys) {x : α} (member : x ∈ xs) : ∃ y ∈ ys, r x y := by
  induction related with
  | nil => cases member
  | cons head tail ih =>
      rcases List.mem_cons.1 member with rfl | inside
      · exact ⟨_, List.mem_cons_self, head⟩
      · obtain ⟨y, held, related⟩ := ih inside
        exact ⟨y, List.mem_cons_of_mem _ held, related⟩

theorem exists_of_forall₂_right {α β : Type} {r : α → β → Prop} {xs : List α} {ys : List β}
    (related : List.Forall₂ r xs ys) {y : β} (member : y ∈ ys) : ∃ x ∈ xs, r x y := by
  induction related with
  | nil => cases member
  | cons head tail ih =>
      rcases List.mem_cons.1 member with rfl | inside
      · exact ⟨_, List.mem_cons_self, head⟩
      · obtain ⟨x, held, related⟩ := ih inside
        exact ⟨x, List.mem_cons_of_mem _ held, related⟩

/-- What goes with two lists, one after the other. -/
theorem exists_append_of_forall₂ {α β : Type} {r : α → β → Prop} {xs xs' : List α} {ys : List β}
    (related : List.Forall₂ r (xs ++ xs') ys) :
    ∃ front back, ys = front ++ back ∧ List.Forall₂ r xs front ∧ List.Forall₂ r xs' back := by
  induction xs generalizing ys with
  | nil => exact ⟨[], ys, rfl, .nil, related⟩
  | cons x xs ih =>
      cases related with
      | cons head tail =>
          obtain ⟨front, back, rfl, first, rest⟩ := ih tail
          exact ⟨_ :: front, back, rfl, .cons head first, rest⟩

end TypedContract
