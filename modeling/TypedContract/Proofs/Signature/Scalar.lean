/-
# TypedContract.Proofs.Signature.Scalar -- when a type fits into a path or a header

A path takes what is a scalar at the end of all references and unions
(`Registry.MeetsScalars`), a header also a list of it.  The check looks at the members of
a union from the left until one of them is refused; `Registry.Asks` is one such step.  A
registry has finitely many members to ask about, so a check that does not come to an end
asks about one of them while it is already asking about it, and then no number of steps
is enough (`Registry.Recurs`).

So the check answers exactly when it does not recur, and then it says whether only scalars
are met (`Registry.isScalar_exact`).  References that lead back to themselves end it; a
union that lists a reference to itself does not (`SignatureBuilder.recursive_choice_endless`).
-/
import TypedContract.Proofs.Registry.Cycles
import TypedContract.Proofs.Signature.Origins
import Mathlib.Logic.Relation

namespace TypedContract

set_option autoImplicit false

/-! ## Parts of unions -/

namespace Ty

variable {type other member : Ty} {types : List Ty}

mutual

/-- The members of a union and, where these are unions, theirs. -/
def unionParts : Ty → List Ty
  | .union _ members => memberParts members
  | _ => []

/-- The members and, where these are unions, theirs. -/
def memberParts : List Ty → List Ty
  | [] => []
  | member :: rest => member :: (unionParts member ++ memberParts rest)

end

mutual

theorem length_unionParts_lt : ∀ type : Ty, type.unionParts.length < type.weight
  | .union _ members => by
      rw [unionParts, weight]
      exact Nat.lt_succ_of_le (length_memberParts_le members)
  | .primitive _ | .reference _ | .unknown _ => Nat.zero_lt_one
  | .array _ | .map _ | .record _ _ _ => Nat.succ_pos _

theorem length_memberParts_le : ∀ types : List Ty, (memberParts types).length ≤ memberWeight types
  | [] => Nat.le_refl 0
  | member :: rest => by
      have own := length_unionParts_lt member
      have others := length_memberParts_le rest
      rw [memberParts, memberWeight, List.length_cons, List.length_append]
      omega

end

theorem mem_memberParts (listed : member ∈ types) : member ∈ memberParts types := by
  induction types with
  | nil => cases listed
  | cons first rest ih =>
      rw [memberParts]
      rcases List.mem_cons.1 listed with rfl | listed
      · exact List.mem_cons_self
      · exact List.mem_cons_of_mem _ (List.mem_append_right _ (ih listed))

theorem mem_unionParts {name : Option String} (listed : member ∈ types) :
    member ∈ (Ty.union name types).unionParts := mem_memberParts listed

mutual

/-- Parts of parts are parts. -/
theorem unionParts_trans : ∀ {type : Ty}, member ∈ other.unionParts → other ∈ type.unionParts →
    member ∈ type.unionParts
  | .union _ _, inner, outer => memberParts_trans inner outer
  | .primitive _, _, outer | .reference _, _, outer | .unknown _, _, outer | .array _, _, outer
  | .map _, _, outer | .record _ _ _, _, outer => absurd outer List.not_mem_nil

theorem memberParts_trans : ∀ {types : List Ty}, member ∈ other.unionParts →
    other ∈ memberParts types → member ∈ memberParts types
  | [], _, outer => absurd outer List.not_mem_nil
  | first :: rest, inner, outer => by
      rw [memberParts, List.mem_cons, List.mem_append] at outer ⊢
      rcases outer with rfl | outer | outer
      · exact .inr (.inl inner)
      · exact .inr (.inl (unionParts_trans inner outer))
      · exact .inr (.inr (memberParts_trans inner outer))

end

end Ty

namespace Registry

variable {registry : Registry} {type member : Ty} {members : List Ty} {bound : Nat}
  {fault : Fault}

/-! ## What is met -/

/-- The member stands in the union at the end of the type's references. -/
def Opens (registry : Registry) (type member : Ty) : Prop :=
  ∃ name members, registry.resolve type = .union name members ∧ member ∈ members

/-- The type is a scalar or nothing, or a union, of which only the members count. -/
def isScalarOrUnion : Ty → Bool
  | .primitive p => p.scalar.isScalar
  | .union _ _ => true
  | _ => false

/-- Following references and unions from the type only meets scalars and nothing. -/
def MeetsScalars (registry : Registry) (type : Ty) : Prop :=
  ∀ met, Relation.ReflTransGen registry.Opens type met →
    isScalarOrUnion (registry.resolve met) = true

theorem MeetsScalars.of_opens (meets : registry.MeetsScalars type)
    (opens : registry.Opens type member) : registry.MeetsScalars member :=
  fun met path => meets met (.head opens path)

/-- Only scalars are met from a type that is none of the refused kinds and whose members
meet only scalars. -/
theorem meetsScalars_iff : registry.MeetsScalars type ↔
    isScalarOrUnion (registry.resolve type) = true ∧
      ∀ member, registry.Opens type member → registry.MeetsScalars member := by
  constructor
  · intro meets
    exact ⟨meets type .refl, fun member opens => meets.of_opens opens⟩
  · rintro ⟨own, inside⟩ met path
    rcases path.cases_head with rfl | ⟨member, opens, rest⟩
    · exact own
    · exact inside member opens met rest

theorem opens_union {name : Option String} (resolved : registry.resolve type = .union name members) :
    registry.Opens type member ↔ member ∈ members := by
  constructor
  · rintro ⟨name', members', again, listed⟩
    cases resolved.symm.trans again
    exact listed
  · exact fun listed => ⟨name, members, resolved, listed⟩

/-! ## What is asked -/

/-- The check of a type comes to a member: the type leads to a union, and only scalars are
met from the members before this one. -/
def Asks (registry : Registry) (type member : Ty) : Prop :=
  ∃ name before after, registry.resolve type = .union name (before ++ member :: after) ∧
    ∀ earlier ∈ before, registry.MeetsScalars earlier

/-- The check of a type comes to a type whose check comes back to it. -/
def Recurs (registry : Registry) (type : Ty) : Prop :=
  ∃ met, Relation.ReflTransGen registry.Asks type met ∧ Relation.TransGen registry.Asks met met

/-! ## Asking about the members in turn -/

theorem allM_eq_ok_true {check : Ty → Except Fault Bool} :
    members.allM check = .ok true ↔ ∀ member ∈ members, check member = .ok true := by
  induction members with
  | nil => exact iff_of_true rfl fun _ inside => absurd inside List.not_mem_nil
  | cons first rest ih =>
      rw [List.allM, List.forall_mem_cons, ← ih]
      cases check first with
      | error fault => exact iff_of_false (fun same => nomatch same) fun both => nomatch both.1
      | ok answer =>
          cases answer with
          | false => exact iff_of_false (fun same => nomatch same) fun both => nomatch both.1
          | true => exact (and_iff_right rfl).symm

/-- The members are asked until one is refused. -/
theorem exists_of_allM_eq {check : Ty → Except Fault Bool} {answer : Except Fault Bool}
    (asked : members.allM check = answer) (refused : answer ≠ .ok true) :
    ∃ before member after, members = before ++ member :: after ∧
      (∀ earlier ∈ before, check earlier = .ok true) ∧ check member = answer := by
  induction members with
  | nil => exact absurd asked.symm refused
  | cons first rest ih =>
      rw [List.allM] at asked
      cases own : check first with
      | error fault =>
          rw [own] at asked
          exact ⟨[], first, rest, rfl, fun _ inside => absurd inside List.not_mem_nil,
            own.trans asked⟩
      | ok passed =>
          rw [own] at asked
          cases passed with
          | false =>
              exact ⟨[], first, rest, rfl, fun _ inside => absurd inside List.not_mem_nil,
                own.trans asked⟩
          | true =>
              obtain ⟨before, member, after, rfl, passed, last⟩ := ih asked
              exact ⟨first :: before, member, after, rfl,
                List.forall_mem_cons.2 ⟨own, passed⟩, last⟩

/-- When the members have an answer, each member has one that no refused member stands
before. -/
theorem exists_ok_of_allM {check : Ty → Except Fault Bool} {before after : List Ty}
    {answer : Bool} (asked : (before ++ member :: after).allM check = .ok answer)
    (fine : ∀ earlier ∈ before, check earlier ≠ .ok false) :
    ∃ own, check member = .ok own := by
  induction before with
  | nil =>
      rw [List.nil_append, List.allM] at asked
      cases own : check member with
      | error fault =>
          rw [own] at asked
          nomatch asked
      | ok answer => exact ⟨answer, rfl⟩
  | cons first before ih =>
      rw [List.forall_mem_cons] at fine
      rw [List.cons_append, List.allM] at asked
      cases own : check first with
      | error fault =>
          rw [own] at asked
          nomatch asked
      | ok passed =>
          cases passed with
          | false => exact absurd own fine.1
          | true =>
              rw [own] at asked
              exact ih asked fine.2

/-! ## One step of the check -/

/-- The check by the kind at the end of the references. -/
theorem isScalarWithin_succ : registry.isScalarWithin (bound + 1) type =
    match registry.resolve type with
    | .primitive p => .ok p.scalar.isScalar
    | .union _ members => members.allM (registry.isScalarWithin bound)
    | _ => .ok false := rfl

theorem isScalarWithin_of_not_union
    (apart : ∀ name members, registry.resolve type ≠ .union name members) :
    registry.isScalarWithin (bound + 1) type = .ok (isScalarOrUnion (registry.resolve type)) := by
  rw [isScalarWithin_succ]
  split
  · rename_i p resolved
    rw [resolved, isScalarOrUnion]
  · rename_i name members resolved
    exact absurd resolved (apart name members)
  · rename_i notPrimitive notUnion
    cases resolved : registry.resolve type with
    | primitive p => exact absurd resolved (notPrimitive p)
    | union name members => exact absurd resolved (notUnion name members)
    | _ => rfl

/-- The type leads to a union or to something else. -/
theorem union_cases (registry : Registry) (type : Ty) :
    (∃ name members, registry.resolve type = .union name members) ∨
      ∀ name members, registry.resolve type ≠ .union name members := by
  by_cases union : ∃ name members, registry.resolve type = .union name members
  · exact .inl union
  · exact .inr fun name members resolved => union ⟨name, members, resolved⟩

theorem not_opens (apart : ∀ name members, registry.resolve type ≠ .union name members) :
    ¬ registry.Opens type member := by
  rintro ⟨name, members, resolved, -⟩
  exact apart name members resolved

theorem meetsScalars_of_not_union
    (apart : ∀ name members, registry.resolve type ≠ .union name members) :
    registry.MeetsScalars type ↔ isScalarOrUnion (registry.resolve type) = true := by
  rw [meetsScalars_iff]
  exact and_iff_left fun member opens => absurd opens (not_opens apart)

theorem meetsScalars_union {name : Option String}
    (resolved : registry.resolve type = .union name members) :
    registry.MeetsScalars type ↔ ∀ member ∈ members, registry.MeetsScalars member := by
  rw [meetsScalars_iff, resolved]
  simp only [isScalarOrUnion, true_and, opens_union resolved]

/-- An answer is right: it says whether only scalars are met. -/
theorem meetsScalars_of_ok {answer : Bool}
    (checked : registry.isScalarWithin bound type = .ok answer) :
    answer = true ↔ registry.MeetsScalars type := by
  induction bound generalizing type answer with
  | zero => nomatch checked
  | succ bound ih =>
      rcases union_cases registry type with ⟨name, members, resolved⟩ | apart
      · rw [isScalarWithin_succ, resolved] at checked
        rw [meetsScalars_union resolved]
        cases answer with
        | true =>
            exact iff_of_true rfl fun member inside =>
              (ih (allM_eq_ok_true.1 checked member inside)).1 rfl
        | false =>
            obtain ⟨before, member, after, rfl, -, refused⟩ :=
              exists_of_allM_eq checked (fun same => nomatch same)
            refine iff_of_false Bool.false_ne_true fun meets => ?_
            exact Bool.false_ne_true ((ih refused).2 (meets member (by simp)))
      · rw [isScalarWithin_of_not_union apart, Except.ok.injEq] at checked
        rw [meetsScalars_of_not_union apart, checked]

/-! ## Checks that answer come to an end -/

/-- A check that answers has answers for what it asks, so it never comes back. -/
theorem acc_of_ok {answer : Bool} (checked : registry.isScalarWithin bound type = .ok answer) :
    Acc (flip registry.Asks) type := by
  induction bound generalizing type answer with
  | zero => nomatch checked
  | succ bound ih =>
      refine .intro type fun member asks => ?_
      obtain ⟨name, before, after, resolved, fine⟩ := asks
      rw [isScalarWithin_succ, resolved] at checked
      obtain ⟨own, asked⟩ := exists_ok_of_allM checked fun earlier inside refused =>
        Bool.false_ne_true ((meetsScalars_of_ok refused).2 (fine earlier inside))
      exact ih asked

theorem not_recurs_of_acc (ends : Acc (flip registry.Asks) type) : ¬ registry.Recurs type := by
  rintro ⟨met, path, back⟩
  have inner : Acc (flip registry.Asks) met := by
    clear back
    induction path with
    | refl => exact ends
    | tail _ asks ih => exact ih.inv asks
  clear path ends
  induction inner with
  | intro met _ ih =>
      obtain ⟨next, asks, rest⟩ := Relation.TransGen.head'_iff.1 back
      exact ih next asks (Relation.TransGen.tail' rest asks)

/-! ## Checks that do not answer come back -/

/-- A check that does not answer within a bound asks once for each step of it. -/
theorem exists_walk_of_error (unanswered : registry.isScalarWithin bound type = .error fault) :
    ∃ walk : List Ty, walk.length = bound ∧ (type :: walk).IsChain registry.Asks := by
  induction bound generalizing type with
  | zero => exact ⟨[], rfl, .singleton type⟩
  | succ bound ih =>
      rcases union_cases registry type with ⟨name, members, resolved⟩ | apart
      · rw [isScalarWithin_succ, resolved] at unanswered
        obtain ⟨before, member, after, rfl, passed, last⟩ :=
          exists_of_allM_eq unanswered fun same => nomatch same
        obtain ⟨walk, long, chain⟩ := ih last
        refine ⟨member :: walk, by rw [List.length_cons, long], .cons_cons ?_ chain⟩
        exact ⟨name, before, after, resolved, fun earlier inside =>
          (meetsScalars_of_ok (passed earlier inside)).1 rfl⟩
      · rw [isScalarWithin_of_not_union apart] at unanswered
        nomatch unanswered

/-- A walk through a pool that is longer than the pool comes back to where it was. -/
theorem recurs_of_walk {walk pool : List Ty} (chain : (type :: walk).IsChain registry.Asks)
    (inside : walk ⊆ pool) (long : pool.length < walk.length) : registry.Recurs type := by
  have repeats : ¬ walk.Nodup := fun apart =>
    Nat.not_le.2 long (apart.subperm inside).length_le
  rw [List.nodup_iff_sublist, not_forall_not] at repeats
  obtain ⟨met, twice⟩ := repeats
  have reaches : (type :: walk).Pairwise (Relation.TransGen registry.Asks) :=
    (chain.imp fun _ _ asks => .single asks).pairwise
  rw [List.pairwise_cons] at reaches
  have back := reaches.2.sublist twice
  rw [List.pairwise_cons] at back
  have comes : met ∈ walk := twice.subset List.mem_cons_self
  exact ⟨met, (reaches.1 met comes).to_reflTransGen, back.1 met (List.mem_singleton_self met)⟩

/-- What can be asked: the parts of the type and of all registered types. -/
def pool (registry : Registry) (type : Ty) : List Ty :=
  type.unionParts ++ registry.entries.flatMap fun entry => entry.2.unionParts

theorem length_pool_lt (registry : Registry) (type : Ty) :
    (registry.pool type).length < registry.weight + type.weight := by
  have summed : ∀ (entries : List (String × Ty)) (total : Nat),
      total + (entries.flatMap fun entry => entry.2.unionParts).length ≤
        entries.foldl (fun total entry => total + entry.2.weight) total := by
    intro entries
    induction entries with
    | nil => exact fun total => Nat.le_refl total
    | cons entry rest ih =>
        intro total
        rw [List.flatMap_cons, List.length_append, List.foldl_cons]
        have small := Ty.length_unionParts_lt entry.2
        have further := ih (total + entry.2.weight)
        omega
  have entries := summed registry.entries 0
  have own := Ty.length_unionParts_lt type
  rw [pool, List.length_append, weight]
  omega

theorem mem_pool_of_asks {start : Ty} (asks : registry.Asks type member)
    (inside : type = start ∨ type ∈ registry.pool start) : member ∈ registry.pool start := by
  obtain ⟨name, before, after, resolved, -⟩ := asks
  have listed : member ∈ (registry.resolve type).unionParts := by
    rw [resolved]
    exact Ty.mem_unionParts (by simp)
  rcases resolve_cases registry type with same | ⟨key, found⟩
  · rw [same] at listed
    rcases inside with rfl | inside
    · exact List.mem_append_left _ listed
    · unfold pool at inside ⊢
      rw [List.mem_append, List.mem_flatMap] at inside ⊢
      exact inside.imp (Ty.unionParts_trans listed) fun ⟨entry, held, part⟩ =>
        ⟨entry, held, Ty.unionParts_trans listed part⟩
  · exact List.mem_append_right _
      (List.mem_flatMap.2 ⟨(key, registry.resolve type), mem_entries_of_get? found, listed⟩)

theorem walk_subset_pool {walk : List Ty} {start : Ty}
    (chain : (type :: walk).IsChain registry.Asks)
    (inside : type = start ∨ type ∈ registry.pool start) : walk ⊆ registry.pool start := by
  induction walk generalizing type with
  | nil => exact List.nil_subset _
  | cons next rest ih =>
      rw [List.isChain_cons_cons] at chain
      have here := mem_pool_of_asks chain.1 inside
      exact List.cons_subset.2 ⟨here, ih chain.2 (.inr here)⟩

theorem recurs_of_error (long : (registry.pool type).length < bound)
    (unanswered : registry.isScalarWithin bound type = .error fault) : registry.Recurs type := by
  obtain ⟨walk, rfl, chain⟩ := exists_walk_of_error unanswered
  exact recurs_of_walk chain (walk_subset_pool chain (.inl rfl)) long

/-- The only fault is that there is no end. -/
theorem eq_endless_of_error (unanswered : registry.isScalarWithin bound type = .error fault) :
    fault = .endless := by
  induction bound generalizing type with
  | zero => exact (Except.error.inj unanswered).symm
  | succ bound ih =>
      rcases union_cases registry type with ⟨name, members, resolved⟩ | apart
      · rw [isScalarWithin_succ, resolved] at unanswered
        obtain ⟨-, member, -, -, -, last⟩ :=
          exists_of_allM_eq unanswered fun same => nomatch same
        exact ih last
      · rw [isScalarWithin_of_not_union apart] at unanswered
        nomatch unanswered

/-! ## The checks are exact -/

/-- With more steps than there is to ask about, the check answers exactly when it does not
come back to itself. -/
theorem isScalarWithin_eq_ok_iff (long : (registry.pool type).length < bound) {answer : Bool} :
    registry.isScalarWithin bound type = .ok answer ↔
      ¬ registry.Recurs type ∧ (answer = true ↔ registry.MeetsScalars type) := by
  constructor
  · exact fun checked => ⟨not_recurs_of_acc (acc_of_ok checked), meetsScalars_of_ok checked⟩
  · rintro ⟨ends, right⟩
    cases checked : registry.isScalarWithin bound type with
    | error fault => exact absurd (recurs_of_error long checked) ends
    | ok found =>
        have same : found = answer :=
          Bool.eq_iff_iff.2 ((meetsScalars_of_ok checked).trans right.symm)
        rw [same]

theorem isScalar_eq_ok_iff {answer : Bool} :
    registry.isScalar type = .ok answer ↔
      ¬ registry.Recurs type ∧ (answer = true ↔ registry.MeetsScalars type) :=
  isScalarWithin_eq_ok_iff (Nat.lt_succ_of_lt (length_pool_lt registry type))

/-- A check that comes back to itself has no answer, whatever number of steps it is given. -/
theorem recurs_iff :
    registry.Recurs type ↔ ∀ bound, registry.isScalarWithin bound type = .error .endless := by
  constructor
  · intro recurs bound
    cases checked : registry.isScalarWithin bound type with
    | ok answer => exact absurd recurs (not_recurs_of_acc (acc_of_ok checked))
    | error fault => rw [eq_endless_of_error checked]
  · exact fun endless => recurs_of_error (Nat.lt_succ_self _) (endless _)

/-- Types whose checks have the same answers have the same checks. -/
theorem isScalar_congr {registry' : Registry} {other : Ty}
    (same : ∀ answer, registry.isScalar type = .ok answer ↔ registry'.isScalar other = .ok answer) :
    registry.isScalar type = registry'.isScalar other := by
  cases own : registry.isScalar type with
  | ok answer => exact ((same answer).1 own).symm
  | error fault =>
      cases others : registry'.isScalar other with
      | ok answer => nomatch own.symm.trans ((same answer).2 others)
      | error fault' => rw [eq_endless_of_error own, eq_endless_of_error others]

/-! ## Headers -/

theorem isScalarWithin_resolve :
    registry.isScalarWithin bound (registry.resolve type) = registry.isScalarWithin bound type := by
  cases bound with
  | zero => rfl
  | succ bound =>
      rw [isScalarWithin_succ, isScalarWithin_succ, resolve_resolve]

theorem recurs_resolve : registry.Recurs (registry.resolve type) ↔ registry.Recurs type := by
  simp only [recurs_iff, isScalarWithin_resolve]

theorem meetsScalars_resolve :
    registry.MeetsScalars (registry.resolve type) ↔ registry.MeetsScalars type := by
  have same := resolve_resolve registry type
  rw [meetsScalars_iff, same, @meetsScalars_iff registry type]
  simp only [Opens, same]

theorem isScalar_resolve : registry.isScalar (registry.resolve type) = registry.isScalar type :=
  isScalar_congr fun answer => by
    rw [isScalar_eq_ok_iff, isScalar_eq_ok_iff, recurs_resolve, meetsScalars_resolve]

theorem isHeaderType_of_array {element : Ty} (resolved : registry.resolve type = .array element) :
    registry.isHeaderType type = registry.isScalar element := by
  rw [isHeaderType, resolved]

theorem isHeaderType_of_not_array (apart : ∀ element, registry.resolve type ≠ .array element) :
    registry.isHeaderType type = registry.isScalar type := by
  rw [isHeaderType, ← @isScalar_resolve registry type]
  split
  · rename_i element resolved
    exact absurd resolved (apart element)
  · rfl

/-- The type leads to scalars only, or to a list of elements that do. -/
def FitsHeader (registry : Registry) (type : Ty) : Prop :=
  registry.MeetsScalars type ∨
    ∃ element, registry.resolve type = .array element ∧ registry.MeetsScalars element

/-- The check of a type or of the elements of the list that it leads to comes back to
itself. -/
def RecursInHeader (registry : Registry) (type : Ty) : Prop :=
  registry.Recurs type ∨ ∃ element, registry.resolve type = .array element ∧ registry.Recurs element

/-- A list is no scalar, and that is found out at once. -/
theorem isScalar_of_array {element : Ty} (resolved : registry.resolve type = .array element) :
    registry.isScalar type = .ok false := by
  have apart : ∀ name members, registry.resolve type ≠ .union name members := by
    intro name members union
    nomatch resolved.symm.trans union
  rw [isScalar, isScalarWithin_of_not_union apart, resolved]
  rfl

theorem isHeaderType_eq_ok_iff {answer : Bool} :
    registry.isHeaderType type = .ok answer ↔
      ¬ registry.RecursInHeader type ∧ (answer = true ↔ registry.FitsHeader type) := by
  unfold RecursInHeader FitsHeader
  by_cases array : ∃ element, registry.resolve type = .array element
  · obtain ⟨element, resolved⟩ := array
    obtain ⟨ends, right⟩ := isScalar_eq_ok_iff.1 (isScalar_of_array resolved)
    have meetsNone : ¬ registry.MeetsScalars type := fun meets => nomatch right.2 meets
    rw [isHeaderType_of_array resolved, isScalar_eq_ok_iff]
    simp [resolved, ends, meetsNone]
  · have apart : ∀ element, registry.resolve type ≠ .array element :=
      fun element same => array ⟨element, same⟩
    rw [isHeaderType_of_not_array apart, isScalar_eq_ok_iff]
    simp [apart]

/-- The checks answer exactly when they do not come back to themselves, and then they say
whether following references and unions from the type only meets scalars and nothing; for a
header it may be a list of such a type.  A reference that leads nowhere, or back to itself,
meets no scalar. -/
theorem isScalar_exact (registry : Registry) (type : Ty) :
    (registry.isScalar type = .ok true ↔
      ¬ registry.Recurs type ∧ registry.MeetsScalars type) ∧
    (registry.isScalar type = .ok false ↔
      ¬ registry.Recurs type ∧ ¬ registry.MeetsScalars type) ∧
    (registry.isHeaderType type = .ok true ↔
      ¬ registry.RecursInHeader type ∧ registry.FitsHeader type) ∧
    (registry.isHeaderType type = .ok false ↔
      ¬ registry.RecursInHeader type ∧ ¬ registry.FitsHeader type) ∧
    (registry.Recurs type ↔ ∀ bound, registry.isScalarWithin bound type = .error .endless) := by
  simp only [isScalar_eq_ok_iff, isHeaderType_eq_ok_iff, true_iff, Bool.false_eq_true, false_iff,
    recurs_iff, and_self]

end Registry

namespace SignatureBuilder

/-- A path parameter whose type lists a text and, by a reference, itself. -/
def recursiveChoice : Json := .object [
    ("paths", .object [("/pets/{petId}", .object [("get", .object [
      ("parameters", .list [.object [("name", .str "petId"), ("in", .str "path"),
        ("schema", reference)]])])])]),
    ("components", .object [("schemas", .object [
      ("Id", .object [("oneOf", .list [.object [("type", .str "string")], reference])])])])]
where
  /-- A reference to the recursive type. -/
  reference : Json := .object [("$ref", .str "#/components/schemas/Id")]

/-- The operation with the parameter. -/
def recursiveChoiceOperation : Node :=
  operationAt (.root 0 recursiveChoice) "/pets/{petId}" "get"

/-- The type and the default of the parameter. -/
def recursiveChoiceType : Run (Ty × Json) := do
  let translator ← Translator.create (.root 0 recursiveChoice)
  let builder : SignatureBuilder := { document := .root 0 recursiveChoice, translator }
  let parameter := (recursiveChoiceOperation.under "parameters").items.headD (.free .null)
  builder.typeAndDefault (parameter.under "schema") "petId" "GetPet"

/-- The type is a reference to a union of a scalar and itself. -/
def listsItself (registry : Registry) (type : Ty) : Bool :=
  match type, registry.resolve type with
  | .reference name, .union _ [.primitive p, .reference again] =>
      p.scalar.isScalar && again == name
  | _, _ => false

theorem meetsScalars_of_listsItself {registry : Registry} {type : Ty}
    (itself : listsItself registry type = true) :
    registry.MeetsScalars type ∧ registry.Recurs type := by
  unfold listsItself at itself
  split at itself
  · rename_i name union p again resolved
    rw [Bool.and_eq_true, beq_iff_eq] at itself
    obtain ⟨scalar, rfl⟩ := itself
    have opens : ∀ {met}, registry.Opens (.reference again) met →
        met = .primitive p ∨ met = .reference again := by
      intro met opens
      simpa using (Registry.opens_union resolved).1 opens
    have apart : ∀ name members, registry.resolve (.primitive p) ≠ .union name members :=
      fun name members => (nofun : Ty.primitive p ≠ .union name members)
    have text : registry.MeetsScalars (.primitive p) :=
      (Registry.meetsScalars_of_not_union apart).2 scalar
    refine ⟨fun met path => ?_, .reference again, .refl, .single
      ⟨union, [.primitive p], [], resolved, by simpa using text⟩⟩
    have met : registry.MeetsScalars met ∨ met = .reference again := by
      induction path with
      | refl => exact .inr rfl
      | tail _ step ih =>
          rcases ih with meets | rfl
          · exact .inl (meets.of_opens step)
          · exact (opens step).imp_left (by rintro rfl; exact text)
    rcases met with meets | rfl
    · exact meets _ .refl
    · rw [resolved]
      rfl
  · cases itself

/-- Only scalars are met from the type of the parameter, but its checks do not end, and no
signature comes back. -/
theorem recursive_choice_endless : ∃ type default t,
    Run.Returns recursiveChoiceType {} (type, default) t ∧
    t.registry.MeetsScalars type ∧ t.registry.isScalar type = .error .endless ∧
    t.registry.isHeaderType type = .error .endless ∧
    ¬ ∃ found u, Run.Returns (buildAt (.root 0 recursiveChoice) "getPet"
      "/pets/{petId}" "get") {} found u := by
  have ok : (recursiveChoiceType.passes {} fun found t => listsItself t.registry found.1) = true := by
    decide +kernel
  obtain ⟨⟨type, default⟩, t, returned, itself⟩ := Run.exists_returns_of ok
  obtain ⟨meets, recurs⟩ := meetsScalars_of_listsItself itself
  have endless : t.registry.isScalar type = .error .endless := Registry.recurs_iff.1 recurs _
  have apart : ∀ element, t.registry.resolve type ≠ .array element := by
    intro element resolved
    nomatch endless.symm.trans (Registry.isScalar_of_array resolved)
  refine ⟨type, default, t, returned, meets, endless,
    (Registry.isHeaderType_of_not_array apart).trans endless, ?_⟩
  rintro ⟨found, u, built⟩
  have faults : ((buildAt (.root 0 recursiveChoice) "getPet" "/pets/{petId}" "get").passes {}
      fun _ _ => true) = false := by decide +kernel
  rw [Run.passes, built] at faults
  cases faults

end SignatureBuilder

end TypedContract
