/-
# TypedContract.Proofs.Registry.Free -- the first free name

A new type that may not have the name it asks for gets the first free one of `base_2`,
`base_3`, ...  The search has no bound of its own: `Searches` is the loop that tries one number
after the other, and a derivation of it is a run that ends.  What a step decides is whether
the search goes on, so by induction along a run everything before its end is taken
(`searches_iff`), and two runs end at the same number.

The registry carries a bound, one step for each name that can be taken.  The bound is never what
stops the search: it stops at a free name (`uniqueName_free`), so the loop without the bound
stops there as well (`Searches.of_firstFree`).  And a free name is neither registered nor in
progress, which is all that a registration asks before it runs its factory.
-/
import TypedContract.Proofs.Registry.Nested

namespace TypedContract.Registry

set_option autoImplicit false

variable {registry : Registry} {base : String} {n m : Nat}

/-! ## The search -/

/-- Trying the numbered names from a number on, for as long as they are taken, ends at a number. -/
inductive Searches (registry : Registry) (base : String) : Nat → Nat → Prop where
  | free {n : Nat} (free : numbered base n ∉ registry.taken) : Searches registry base n n
  | next {n m : Nat} (taken : numbered base n ∈ registry.taken)
      (rest : Searches registry base (n + 1) m) : Searches registry base n m

/-- The search ends at the least number from its start on whose name is free. -/
theorem searches_iff : Searches registry base n m ↔
    n ≤ m ∧ numbered base m ∉ registry.taken ∧
      ∀ k, n ≤ k → k < m → numbered base k ∈ registry.taken := by
  constructor
  · intro searches
    induction searches with
    | free free => exact ⟨Nat.le_refl _, free, fun k from_ before => by omega⟩
    | @next n m taken rest ih =>
        obtain ⟨later, free, all⟩ := ih
        refine ⟨by omega, free, fun k from_ before => ?_⟩
        rcases Nat.eq_or_lt_of_le from_ with rfl | beyond
        · exact taken
        · exact all k beyond before
  · rintro ⟨later, free, all⟩
    obtain ⟨steps, rfl⟩ := Nat.exists_eq_add_of_le later
    induction steps generalizing n with
    | zero => exact .free free
    | succ steps ih =>
        have shifted : n + (steps + 1) = n + 1 + steps := by omega
        rw [shifted] at free all ⊢
        exact .next (all n (Nat.le_refl _) (by omega))
          (ih (by omega) free fun k from_ before => all k (by omega) before)

/-- A bounded search that stops at a free name stops where the search does. -/
theorem Searches.of_firstFree {bound : Nat}
    (free : registry.firstFree base n bound ∉ registry.taken) :
    ∃ m, Searches registry base n m ∧ registry.firstFree base n bound = numbered base m := by
  induction bound generalizing n with
  | zero => exact ⟨n, .free free, rfl⟩
  | succ bound ih =>
      rw [firstFree] at free ⊢
      by_cases taken : numbered base n ∈ registry.taken
      · rw [if_pos (isTaken_iff.2 taken)] at free ⊢
        obtain ⟨m, searches, same⟩ := ih free
        exact ⟨m, .next taken searches, same⟩
      · rw [if_neg fun held => taken (isTaken_iff.1 held)]
        exact ⟨n, .free taken, rfl⟩

theorem uniqueName_not_mem_taken : registry.uniqueName base ∉ registry.taken := by
  rw [← isTaken_iff, uniqueName_free]
  exact Bool.false_ne_true

/-! ## Registering a free name -/

/-- A name that is not taken has its factory run. -/
theorem outcome_register_of_free {s : Session} {name : String}
    (free : name ∉ s.registry.taken) (factory : Run Ty) :
    (Run.register name factory).outcome s =
      match factory.outcome (Run.begun s name) with
      | (.ok type, t) => (.ok type, Run.finished t name type)
      | (.error fault, t) => (.error fault, Run.abandoned t name) := by
  have fresh : s.registry.contains name = false := by
    rw [← isTaken_iff, isTaken, Bool.or_eq_true, not_or] at free
    exact Bool.eq_false_iff.2 free.1
  have opened := Run.outcome_register name factory s
  rw [enter_eq_inr_iff.2 ⟨fresh, rfl⟩] at opened
  exact opened

/-- A name that no entry, no placeholder and no reservation has is given as it is.  For any
other the search from 2 on ends, and the name with the number at which it ends is given: it is
free and all before it are taken.  A registration of the name that was given runs its factory,
with the name in progress. -/
theorem uniqueName_first (s : Session) (base : String) :
    (base ∉ s.registry.taken ∧ s.registry.uniqueName base = base ∨
      base ∈ s.registry.taken ∧ ∃ n, Searches s.registry base 2 n ∧
        s.registry.uniqueName base = numbered base n ∧ 2 ≤ n ∧
        numbered base n ∉ s.registry.taken ∧
        ∀ k, 2 ≤ k → k < n → numbered base k ∈ s.registry.taken) ∧
    ∀ factory : Run Ty,
      (do Run.register ((← Run.registry).uniqueName base) factory).outcome s =
        match factory.outcome (Run.begun s (s.registry.uniqueName base)) with
        | (.ok type, t) => (.ok type, Run.finished t (s.registry.uniqueName base) type)
        | (.error fault, t) => (.error fault, Run.abandoned t (s.registry.uniqueName base)) := by
  have free : s.registry.uniqueName base ∉ s.registry.taken := uniqueName_not_mem_taken
  refine ⟨?_, fun factory => ?_⟩
  · by_cases taken : base ∈ s.registry.taken
    · have searched : s.registry.uniqueName base =
          s.registry.firstFree base 2 s.registry.nameCount := if_pos (isTaken_iff.2 taken)
      rw [searched] at free ⊢
      obtain ⟨n, searches, same⟩ := Searches.of_firstFree free
      exact .inr ⟨taken, n, searches, same, searches_iff.1 searches⟩
    · exact .inl ⟨taken, if_neg fun held => taken (isTaken_iff.1 held)⟩
  · rw [Run.outcome_bind]
    exact outcome_register_of_free free factory

end TypedContract.Registry
