/-
# TypedContract.Proofs.Registry.Cycles -- where references end

A chain of references ends at a type that is no reference, at a name that is not registered,
or nowhere: then it runs into a cycle of registered references and stays there
(`RefersAlong.closed`).  The registry follows it until a name comes again, which is the first
name of the chain that lies on the cycle.  So what `resolve` returns is in each case the first
type of the chain that can be called its end (`resolve_first`), and the end of a chain is its own
end: following again from there leads nowhere else (`resolve_resolve`).

The bound that `follow` carries is never what stops it, since each step uses up a registered
name (`chases_follow`); `Chases` is the loop without the bound.
-/
import TypedContract.Proofs.Registry.Resolving
import TypedContract.Proofs.Steps

namespace TypedContract.Registry

set_option autoImplicit false

variable {registry : Registry} {name : String} {names names' : List String} {type last next : Ty}

/-! ## Chains of references -/

/-- The registered references of these names lead from a type to another one. -/
inductive RefersAlong (registry : Registry) : List String → Ty → Ty → Prop where
  | here {type : Ty} : RefersAlong registry [] type type
  | step {name : String} {names : List String} {next last : Ty}
      (found : registry.get? name = some next) (rest : RefersAlong registry names next last) :
      RefersAlong registry (name :: names) (.reference name) last

namespace RefersAlong

theorem append_iff : RefersAlong registry (names ++ names') type last ↔
    ∃ middle, RefersAlong registry names type middle ∧ RefersAlong registry names' middle last := by
  constructor
  · intro leads
    induction names generalizing type with
    | nil => exact ⟨type, .here, leads⟩
    | cons name names ih =>
        cases leads with
        | step found rest =>
            obtain ⟨middle, first, second⟩ := ih rest
            exact ⟨middle, .step found first, second⟩
  · rintro ⟨middle, first, second⟩
    induction first with
    | here => exact second
    | step found rest ih => exact .step found (ih second)

theorem start_eq (leads : RefersAlong registry (name :: names) type last) :
    type = .reference name := by
  cases leads
  rfl

/-- A chain can be cut at each of its names. -/
theorem split {before after : List String}
    (leads : RefersAlong registry (before ++ name :: after) type last) :
    RefersAlong registry before type (.reference name) ∧
      RefersAlong registry (name :: after) (.reference name) last := by
  obtain ⟨middle, first, second⟩ := append_iff.1 leads
  obtain rfl := second.start_eq
  exact ⟨first, second⟩

/-- Of two chains from one type one is the beginning of the other. -/
theorem comparable {last' : Ty} (leads : RefersAlong registry names type last)
    (leads' : RefersAlong registry names' type last') :
    (∃ more, names' = names ++ more ∧ RefersAlong registry more last last') ∨
      ∃ more, names = names' ++ more ∧ RefersAlong registry more last' last := by
  induction leads generalizing names' with
  | here => exact .inl ⟨names', rfl, leads'⟩
  | @step name names next last found rest ih =>
      cases leads' with
      | here => exact .inr ⟨name :: names, rfl, .step found rest⟩
      | step found' rest' =>
          obtain rfl := Option.some.inj (found.symm.trans found')
          rcases ih rest' with ⟨more, rfl, further⟩ | ⟨more, rfl, further⟩
          · exact .inl ⟨more, rfl, further⟩
          · exact .inr ⟨more, rfl, further⟩

/-- A chain ends at its start or at a registered type. -/
theorem eq_or_registered (leads : RefersAlong registry names type last) :
    last = type ∨ ∃ name, registry.get? name = some last := by
  induction leads with
  | here => exact .inl rfl
  | step found rest ih =>
      rcases ih with rfl | registered
      · exact .inr ⟨_, found⟩
      · exact .inr registered

theorem reaches_iff (apart : ∀ name, last ≠ .reference name) :
    RefersAlong registry names type last ↔ Reaches registry names type last := by
  constructor
  · intro leads
    induction leads with
    | here => exact .here apart
    | step found rest ih => exact .step found (ih apart)
  · intro reaches
    induction reaches with
    | here => exact .here
    | step found rest ih => exact .step found (ih apart)

end RefersAlong

/-! ## Cycles -/

/-- The name lies on a cycle of registered references. -/
def OnCycle (registry : Registry) (name : String) : Prop :=
  ∃ names, RefersAlong registry (name :: names) (.reference name) (.reference name)

section

variable {cycle : List String}

/-- The reference that follows one on a cycle is on the cycle. -/
theorem next_mem_cycle
    (round : RefersAlong registry (name :: cycle) (.reference name) (.reference name))
    {key : String} (member : key ∈ name :: cycle) (found : registry.get? key = some next) :
    ∃ key' ∈ name :: cycle, next = .reference key' := by
  obtain ⟨before, after, same⟩ := List.append_of_mem member
  rw [same] at round
  obtain ⟨-, round⟩ := round.split
  cases round with
  | step found' rest =>
      obtain rfl := Option.some.inj (found.symm.trans found')
      cases after with
      | nil =>
          cases rest
          exact ⟨name, List.mem_cons_self, rfl⟩
      | cons key' after =>
          refine ⟨key', ?_, rest.start_eq⟩
          rw [same]
          simp

/-- No chain leaves a cycle. -/
theorem RefersAlong.closed
    (round : RefersAlong registry (name :: cycle) (.reference name) (.reference name))
    (leads : RefersAlong registry names type last)
    (start : ∃ key ∈ name :: cycle, type = .reference key) :
    ∃ key ∈ name :: cycle, last = .reference key := by
  induction leads with
  | here => exact start
  | step found rest ih =>
      obtain ⟨key, member, same⟩ := start
      obtain rfl : _ = key := Ty.reference.inj same
      exact ih (next_mem_cycle round member found)

/-- What a name on a cycle leads to is a reference that leads back to it. -/
theorem OnCycle.returns (on : OnCycle registry name)
    (leads : RefersAlong registry names (.reference name) last) :
    ∃ key names', last = .reference key ∧ RefersAlong registry (key :: names') (.reference key)
      (.reference name) := by
  obtain ⟨cycle, round⟩ := on
  obtain ⟨key, member, rfl⟩ := RefersAlong.closed round leads ⟨name, List.mem_cons_self, rfl⟩
  obtain ⟨before, after, same⟩ := List.append_of_mem member
  rw [same] at round
  exact ⟨key, after, rfl, round.split.2⟩

end

/-! ## Ends -/

/-- The type can be called the end of a chain: it is no reference, its name is not registered, or
it lies on a cycle. -/
inductive IsChainEnd (registry : Registry) : Ty → Prop where
  | type {type : Ty} (apart : ∀ name, type ≠ .reference name) : IsChainEnd registry type
  | missing {name : String} (none : registry.get? name = none) :
      IsChainEnd registry (.reference name)
  | cycle {name : String} (on : OnCycle registry name) : IsChainEnd registry (.reference name)

theorem isChainEnd_reference_iff :
    IsChainEnd registry (.reference name) ↔ registry.get? name = none ∨ OnCycle registry name := by
  constructor
  · intro ends
    cases ends with
    | type apart => exact absurd rfl (apart name)
    | missing none => exact .inl none
    | cycle on => exact .inr on
  · rintro (none | on)
    · exact .missing none
    · exact .cycle on

/-- The first end of the chain of a type. -/
def First (registry : Registry) (type last : Ty) : Prop :=
  ∃ names, RefersAlong registry names type last ∧ IsChainEnd registry last ∧
    ∀ name ∈ names, ¬ IsChainEnd registry (.reference name)

theorem IsChainEnd.first (ends : IsChainEnd registry type) : First registry type type :=
  ⟨[], .here, ends, nofun⟩

/-- A chain has one first end. -/
theorem First.unique {last' : Ty} (first : First registry type last)
    (first' : First registry type last') : last = last' := by
  obtain ⟨names, leads, ends, before⟩ := first
  obtain ⟨names', leads', ends', before'⟩ := first'
  rcases leads.comparable leads' with ⟨more, rfl, further⟩ | ⟨more, rfl, further⟩
  · cases further with
    | here => rfl
    | step found rest => exact absurd ends (before' _ (by simp))
  · cases further with
    | here => rfl
    | step found rest => exact absurd ends' (before _ (by simp))

/-! ## The loop -/

/-- Following references with the names met so far, for as long as it takes. -/
inductive Chases (registry : Registry) : List String → Ty → Ty → Prop where
  | type {seen : List String} {type : Ty} (apart : ∀ name, type ≠ .reference name) :
      Chases registry seen type type
  | met {seen : List String} {name : String} (again : name ∈ seen) :
      Chases registry seen (.reference name) (.reference name)
  | missing {seen : List String} {name : String} (fresh : name ∉ seen)
      (none : registry.get? name = none) : Chases registry seen (.reference name) (.reference name)
  | step {seen : List String} {name : String} {next last : Ty} (fresh : name ∉ seen)
      (found : registry.get? name = some next) (rest : Chases registry (name :: seen) next last) :
      Chases registry seen (.reference name) last

section

variable {seen : List String}

/-- The number of registered names that have not been met. -/
def unmet (registry : Registry) (seen : List String) : Nat :=
  registry.names.countP fun name => !seen.contains name

theorem unmet_cons_lt (fresh : name ∉ seen) (found : registry.get? name = some next) :
    registry.unmet (name :: seen) < registry.unmet seen := by
  apply countP_lt_countP (x := name)
  · intro other unmet
    simp only [List.contains_cons, Bool.not_or, Bool.and_eq_true] at unmet
    exact unmet.2
  · exact mem_names_iff.2 ⟨next, found⟩
  · simp
  · simpa using fresh

/-- With a step for each name that has not been met, the bound does not stop the loop. -/
theorem chases_follow {bound : Nat} (room : registry.unmet seen < bound) :
    Chases registry seen type (registry.follow seen bound type) := by
  induction bound generalizing seen type with
  | zero => exact absurd room (Nat.not_lt_zero _)
  | succ bound ih =>
      cases type with
      | reference name =>
          rw [follow]
          by_cases again : name ∈ seen
          · rw [if_pos (List.contains_iff_mem.2 again)]
            exact .met again
          · rw [if_neg fun met => again (List.contains_iff_mem.1 met)]
            cases found : registry.get? name with
            | none => exact .missing again found
            | some next =>
                have less := unmet_cons_lt again found
                exact .step again found (ih (by omega))
      | _ => exact .type fun _ same => by cases same

/-- The loop goes along a chain of fresh names, each once, and ends at an end of it or at a name
that was met. -/
theorem Chases.exists_refersAlong (follows : Chases registry seen type last) :
    ∃ names, RefersAlong registry names type last ∧ names.Nodup ∧ (∀ name ∈ names, name ∉ seen) ∧
      ((∀ name, last ≠ .reference name) ∨
        ∃ name, last = .reference name ∧
          (registry.get? name = none ∨ name ∈ seen ∨ name ∈ names)) := by
  induction follows with
  | type apart => exact ⟨[], .here, List.nodup_nil, nofun, .inl apart⟩
  | met again => exact ⟨[], .here, List.nodup_nil, nofun, .inr ⟨_, rfl, .inr (.inl again)⟩⟩
  | missing fresh none => exact ⟨[], .here, List.nodup_nil, nofun, .inr ⟨_, rfl, .inl none⟩⟩
  | @step seen name next last fresh found rest ih =>
      obtain ⟨names, leads, once, apart, stops⟩ := ih
      refine ⟨name :: names, .step found leads, List.nodup_cons.2 ⟨?_, once⟩, ?_, ?_⟩
      · exact fun again => apart name again List.mem_cons_self
      · refine List.forall_mem_cons.2 ⟨fresh, fun other member met => ?_⟩
        exact apart other member (List.mem_cons_of_mem _ met)
      · refine stops.imp_right ?_
        rintro ⟨key, same, none | met | member⟩
        · exact ⟨key, same, .inl none⟩
        · rcases List.mem_cons.1 met with rfl | met
          · exact ⟨key, same, .inr (.inr List.mem_cons_self)⟩
          · exact ⟨key, same, .inr (.inl met)⟩
        · exact ⟨key, same, .inr (.inr (List.mem_cons_of_mem _ member))⟩

end

theorem chases_resolve (registry : Registry) (type : Ty) :
    Chases registry [] type (registry.resolve type) := by
  apply chases_follow
  have few : registry.unmet [] ≤ registry.names.length := List.countP_le_length
  have same : registry.names.length = registry.entries.length := List.length_map ..
  omega

/-- Before the end of a chain without repetition nothing can be called an end. -/
theorem not_isChainEnd_of_refersAlong (leads : RefersAlong registry names type last)
    (stops : (∀ key, last ≠ .reference key) ∨ ∃ key, last = .reference key ∧
      registry.get? key = none) (member : name ∈ names) :
    ¬ IsChainEnd registry (.reference name) := by
  obtain ⟨before, after, rfl⟩ := List.append_of_mem member
  obtain ⟨-, leads⟩ := leads.split
  rw [isChainEnd_reference_iff]
  rintro (none | on)
  · cases leads with
    | step found rest => cases none.symm.trans found
  · obtain ⟨key, names', rfl, back⟩ := on.returns leads
    rcases stops with apart | ⟨key', same, none⟩
    · exact apart key rfl
    · obtain rfl := Ty.reference.inj same
      cases back with
      | step found rest => cases none.symm.trans found

/-- Before the name at which a chain without repetition comes again nothing can be called an end. -/
theorem not_isChainEnd_of_round {before after : List String} {key : String}
    (leads : RefersAlong registry before type (.reference key))
    (round : RefersAlong registry (key :: after) (.reference key) (.reference key))
    (once : (before ++ key :: after).Nodup) (member : name ∈ before) :
    ¬ IsChainEnd registry (.reference name) := by
  obtain ⟨front, back, rfl⟩ := List.append_of_mem member
  obtain ⟨-, leads⟩ := leads.split
  rw [isChainEnd_reference_iff]
  rintro (none | on)
  · cases leads with
    | step found rest => cases none.symm.trans found
  · obtain ⟨key', names', same, back⟩ := on.returns leads
    obtain rfl := Ty.reference.inj same
    -- the cycle of the name is the one that the chain runs into, which does not hold it
    obtain ⟨key', inside, same⟩ := RefersAlong.closed round back ⟨key, List.mem_cons_self, rfl⟩
    obtain rfl := Ty.reference.inj same
    exact List.disjoint_of_nodup_append once member inside

/-- The registry finds the first end of a chain. -/
theorem resolve_first (registry : Registry) (type : Ty) :
    First registry type (registry.resolve type) := by
  obtain ⟨names, leads, once, -, stops⟩ := (chases_resolve registry type).exists_refersAlong
  rcases stops with apart | ⟨key, same, none | met | member⟩
  · exact ⟨names, leads, .type apart, fun name => not_isChainEnd_of_refersAlong leads (.inl apart)⟩
  · refine ⟨names, leads, same ▸ .missing none, fun name => ?_⟩
    exact not_isChainEnd_of_refersAlong leads (.inr ⟨key, same, none⟩)
  · cases met
  · rw [same] at leads ⊢
    obtain ⟨before, after, rfl⟩ := List.append_of_mem member
    obtain ⟨first, round⟩ := leads.split
    exact ⟨before, first, .cycle ⟨after, round⟩, fun name =>
      not_isChainEnd_of_round first round once⟩

theorem resolve_eq_iff_first : registry.resolve type = last ↔ First registry type last := by
  constructor
  · rintro rfl
    exact resolve_first registry type
  · exact (resolve_first registry type).unique

theorem isChainEnd_resolve (registry : Registry) (type : Ty) :
    IsChainEnd registry (registry.resolve type) := by
  obtain ⟨names, leads, ends, before⟩ := resolve_first registry type
  exact ends

/-- The end of a chain is its own end. -/
theorem resolve_resolve (registry : Registry) (type : Ty) :
    registry.resolve (registry.resolve type) = registry.resolve type :=
  resolve_eq_iff_first.2 (isChainEnd_resolve registry type).first

/-- References lead to the type itself or to a registered one. -/
theorem resolve_cases (registry : Registry) (type : Ty) :
    registry.resolve type = type ∨ ∃ name, registry.get? name = some (registry.resolve type) := by
  obtain ⟨names, leads, -, -⟩ := resolve_first registry type
  exact leads.eq_or_registered

/-- Following references comes to an end that is its own end: a type that is no reference as it is;
a reference only where its name is not registered or lies on a cycle, the first one of the chain;
and otherwise the type that is no reference at the end of the chain. -/
theorem resolve_settles (registry : Registry) (type : Ty) :
    Chases registry [] type (registry.resolve type) ∧
      registry.resolve (registry.resolve type) = registry.resolve type ∧
      ((∀ name, type ≠ .reference name) → registry.resolve type = type) ∧
      (∀ name, registry.resolve type = .reference name →
        registry.get? name = none ∨ OnCycle registry name) ∧
      ∀ last, (∀ name, last ≠ .reference name) →
        (registry.resolve type = last ↔ ∃ names, RefersAlong registry names type last) := by
  refine ⟨chases_resolve registry type, resolve_resolve registry type, ?_, ?_, ?_⟩
  · intro apart
    exact resolve_eq_iff_first.2 (IsChainEnd.type apart).first
  · intro name same
    rw [← isChainEnd_reference_iff, ← same]
    exact isChainEnd_resolve registry type
  · intro last apart
    rw [resolve_eq_iff apart]
    exact exists_congr fun names => (RefersAlong.reaches_iff apart).symm

/-- A chain that runs into a cycle ends where it enters it. -/
example : (Registry.mk [("A", .reference "B"), ("B", .reference "C"), ("C", .reference "B")] [] []
    |>.resolve (.reference "A")) = .reference "B" := rfl

end TypedContract.Registry
