/-
# TypedContract.Proofs.Registry.Nested -- registrations inside registrations

A `Program` calls the registry: the factory of a registration is a program again, which
may register further names, its own and those of its callers among them, before it
returns a type or fails.  What a program may call besides registrations is its
vocabulary, and `Program.run` performs it with `Run.register`.

A `Script` has registrations only.  `Moment.step` performs it one registration at a time
with the calls under way on an explicit stack, and `Moment.outcome` is what is still to
come of a moment, so a step leaves it as it is (`outcome_step`) and the machine ends with
the outcome of the run (`comesTo_done`).

`Moment.Consistent` ties the registry to the stack: the names in progress are those of
the calls under way, and the entries are those of the start followed by the types whose
factories have returned, in that order.  A step keeps it (`Consistent.step`), and
`nested_registrations` reads off it what holds at every moment of a program.
-/
import Mathlib.Logic.Relation
import TypedContract.Proofs.Registry.Entries
import TypedContract.Proofs.Returning

namespace TypedContract

set_option autoImplicit false

namespace Run

/-- The session in which the factory of a name has just failed. -/
def abandoned (s : Session) (name : String) : Session :=
  { s with registry := s.registry.leave name none }

/-- The outcome of a step, also when it faults. -/
def attempt {α : Type} (step : Run α) : Run (Except Fault α) := ExceptT.lift step.run

theorem outcome_attempt {α : Type} (step : Run α) (s : Session) :
    (attempt step).outcome s = (.ok (step.outcome s).1, (step.outcome s).2) := rfl

/-- A registration gives what the name stands for, or what comes of its factory. -/
theorem outcome_register (name : String) (factory : Run Ty) (s : Session) :
    (register name factory).outcome s =
      match s.registry.enter name with
      | .inl known => (.ok known, s)
      | .inr _ =>
          match factory.outcome (begun s name) with
          | (.ok type, t) => (.ok type, finished t name type)
          | (.error fault, t) => (.error fault, abandoned t name) := by
  have opened : (register name factory).outcome s =
      (match s.registry.enter name with
      | .inl known => (pure known : Run Ty)
      | .inr begun => do
          onRegistry fun _ => begun
          let built ← afterwards factory fun result s =>
            { s with registry := s.registry.leave name result.toOption }
          note .debug .registry ("registered type " ++ name)
          return built).outcome s := rfl
  rw [opened]
  cases entered : s.registry.enter name with
  | inl known => rfl
  | inr r =>
      obtain ⟨-, rfl⟩ := Registry.enter_eq_inr_iff.1 entered
      have inside : (afterwards factory fun result s =>
          { s with registry := s.registry.leave name result.toOption }).outcome (begun s name) =
          ((factory.outcome (begun s name)).1,
            { (factory.outcome (begun s name)).2 with
              registry := (factory.outcome (begun s name)).2.registry.leave name
                (factory.outcome (begun s name)).1.toOption }) := rfl
      have started : (onRegistry fun _ => s.registry.start name).outcome s =
          (.ok (), begun s name) := rfl
      simp only [outcome_bind, started, inside]
      cases factory.outcome (begun s name) with
      | mk result t => cases result <;> rfl

/-- What a factory that ran to its end does to the session: it stores its type, or gives
its name up. -/
def settle (name : String) : Except Fault Ty × Session → Session
  | (.ok type, t) => finished t name type
  | (.error _, t) => abandoned t name

end Run

namespace Registry

/-! ## Programs -/

/-- What a program may call besides registrations. -/
structure Vocabulary where
  Action : Type
  Answer : Type
  perform : Action → Run Answer

/-- A program of calls: it returns a type or fails, performs an action and goes on with the
answer, or registers a name with a factory and goes on with what came of that. -/
inductive Program (vocabulary : Vocabulary) where
  | done (result : Except Fault Ty)
  | act (action : vocabulary.Action) (next : vocabulary.Answer → Program vocabulary)
  | register (name : String) (factory : Program vocabulary)
      (next : Except Fault Ty → Program vocabulary)

namespace Program

variable {vocabulary : Vocabulary}

/-- Performs a program.  A registration that fails does not end it: what comes next
decides whether to go on or to fail as well. -/
def run : Program vocabulary → Run Ty
  | .done result => Run.lift result
  | .act action next => do
      let answer ← vocabulary.perform action
      (next answer).run
  | .register name factory next => do
      let result ← Run.attempt (Run.register name factory.run)
      (next result).run

variable {name : String} {action : vocabulary.Action}
  {after : vocabulary.Answer → Program vocabulary} {factory : Program vocabulary}
  {next : Except Fault Ty → Program vocabulary} {s : Session}

theorem outcome_act {answer : vocabulary.Answer} {t : Session}
    (returned : Run.Returns (vocabulary.perform action) s answer t) :
    (Program.act action after).run.outcome s = (after answer).run.outcome t := by
  rw [run, Run.outcome_bind, show (vocabulary.perform action).outcome s = _ from returned]

theorem outcome_known {known : Ty} (found : s.registry.enter name = .inl known) :
    (Program.register name factory next).run.outcome s = (next (.ok known)).run.outcome s := by
  rw [run, Run.outcome_bind, Run.outcome_attempt, Run.outcome_register, found]

theorem outcome_begun (fresh : s.registry.contains name = false) :
    (Program.register name factory next).run.outcome s =
      (next (factory.run.outcome (Run.begun s name)).1).run.outcome
        (Run.settle name (factory.run.outcome (Run.begun s name))) := by
  rw [run, Run.outcome_bind, Run.outcome_attempt, Run.outcome_register,
    enter_eq_inr_iff.2 ⟨fresh, rfl⟩]
  cases factory.run.outcome (Run.begun s name) with
  | mk result t => cases result <;> rfl

end Program

/-- The vocabulary of programs that only register. -/
abbrev Vocabulary.empty : Vocabulary := ⟨Empty, Empty, nofun⟩

/-- A program of registrations. -/
abbrev Script : Type := Program .empty

/-! ## One registration at a time -/

/-- A registration whose factory is running, and what its caller goes on with. -/
structure Call where
  name : String
  next : Except Fault Ty → Script

/-- A moment of a program: what the innermost factory has still to do, the calls under
way from the innermost outwards, and what the factories that returned have built, in the
order in which they returned. -/
structure Moment where
  script : Script
  calls : List Call
  session : Session
  completed : List (String × Ty)

namespace Moment

/-- The names whose factories are running. -/
def running (m : Moment) : List String := m.calls.map (·.name)

/-- The next moment; none at the end of the program. -/
def step (m : Moment) : Option Moment :=
  match m.script, m.calls with
  | .act action _, _ => nomatch action
  | .register name factory next, calls =>
      match m.session.registry.enter name with
      | .inl known => some { m with script := next (.ok known) }
      | .inr _ => some {
          m with
          script := factory
          calls := ⟨name, next⟩ :: calls
          session := Run.begun m.session name }
  | .done _, [] => none
  | .done (.ok type), call :: calls => some {
      script := call.next (.ok type)
      calls := calls
      session := Run.finished m.session call.name type
      completed := m.completed ++ [(call.name, type)] }
  | .done (.error fault), call :: calls => some {
      m with
      script := call.next (.error fault)
      calls := calls
      session := Run.abandoned m.session call.name }

/-- The second moment comes later in the same program, or is the first. -/
def ComesTo : Moment → Moment → Prop := Relation.ReflTransGen fun m n => m.step = some n

/-- The first moment of a program. -/
def start (script : Script) (s : Session) : Moment := ⟨script, [], s, []⟩

variable {m n : Moment}

/-- A step either answers a registration at once, runs a factory, or ends the innermost
one with a type or without. -/
theorem step_cases (taken : m.step = some n) :
    (∃ name factory next known, m.script = .register name factory next ∧
      m.session.registry.enter name = .inl known ∧ n = { m with script := next (.ok known) }) ∨
    (∃ name factory next, m.script = .register name factory next ∧
      m.session.registry.contains name = false ∧
      n = ⟨factory, ⟨name, next⟩ :: m.calls, Run.begun m.session name, m.completed⟩) ∨
    (∃ type call calls, m.script = .done (.ok type) ∧ m.calls = call :: calls ∧
      n = ⟨call.next (.ok type), calls, Run.finished m.session call.name type,
        m.completed ++ [(call.name, type)]⟩) ∨
    ∃ fault call calls, m.script = .done (.error fault) ∧ m.calls = call :: calls ∧
      n = ⟨call.next (.error fault), calls, Run.abandoned m.session call.name, m.completed⟩ := by
  obtain ⟨script, calls, s, completed⟩ := m
  cases script with
  | act action next => cases action
  | register name factory next =>
      cases entered : s.registry.enter name with
      | inl known =>
          simp only [step, entered] at taken
          exact .inl ⟨name, factory, next, known, rfl, entered, (Option.some.inj taken).symm⟩
      | inr begun =>
          simp only [step, entered] at taken
          exact .inr (.inl ⟨name, factory, next, rfl, (enter_eq_inr_iff.1 entered).1,
            (Option.some.inj taken).symm⟩)
  | done result =>
      cases calls with
      | nil => simp [step] at taken
      | cons call calls =>
          cases result with
          | ok type =>
              exact .inr (.inr (.inl ⟨type, call, calls, rfl, rfl, (Option.some.inj taken).symm⟩))
          | error fault =>
              exact .inr (.inr (.inr ⟨fault, call, calls, rfl, rfl, (Option.some.inj taken).symm⟩))

/-! ## The machine performs the program -/

/-- What comes of the calls under way once the innermost factory has ended. -/
def unwind : List Call → Except Fault Ty × Session → Except Fault Ty × Session
  | [], ended => ended
  | call :: calls, ended =>
      unwind calls ((call.next ended.1).run.outcome (Run.settle call.name ended))

/-- What is still to come of a program. -/
def outcome (m : Moment) : Except Fault Ty × Session :=
  unwind m.calls (m.script.run.outcome m.session)

/-- A step leaves what is to come of the program as it is. -/
theorem outcome_step (taken : m.step = some n) : n.outcome = m.outcome := by
  obtain ⟨script, calls, s, completed⟩ := m
  rcases step_cases taken with ⟨name, factory, next, known, rfl, found, rfl⟩ |
    ⟨name, factory, next, rfl, fresh, rfl⟩ | ⟨type, call, rest, rfl, rfl, rfl⟩ |
    ⟨fault, call, rest, rfl, rfl, rfl⟩
  · simp only [outcome, Program.outcome_known found]
  · simp only [outcome, Program.outcome_begun fresh, unwind]
  · rfl
  · rfl

theorem outcome_of_comesTo (later : ComesTo m n) : n.outcome = m.outcome := by
  induction later with
  | refl => rfl
  | tail _ taken ih => exact (outcome_step taken).trans ih

/-- A factory runs to its end whatever calls stand below it. -/
theorem comesTo_done (script : Script) (calls : List Call) (s : Session)
    (completed : List (String × Ty)) :
    ∃ later, ComesTo ⟨script, calls, s, completed⟩
      ⟨.done (script.run.outcome s).1, calls, (script.run.outcome s).2, later⟩ := by
  induction script generalizing calls s completed with
  | done result => exact ⟨completed, .refl⟩
  | act action next => cases action
  | register name factory next ihFactory ihNext =>
      cases entered : s.registry.enter name with
      | inl known =>
          obtain ⟨later, rest⟩ := ihNext (.ok known) calls s completed
          rw [Program.outcome_known entered]
          exact ⟨later, .head (by simp only [step, entered]) rest⟩
      | inr begun =>
          have fresh : s.registry.contains name = false := (enter_eq_inr_iff.1 entered).1
          rw [Program.outcome_begun fresh]
          -- the factory runs on top of the call that waits for it
          obtain ⟨middle, inside⟩ :=
            ihFactory (⟨name, next⟩ :: calls) (Run.begun s name) completed
          cases ended : factory.run.outcome (Run.begun s name) with
          | mk result t =>
              rw [ended] at inside
              cases result with
              | ok type =>
                  obtain ⟨later, rest⟩ := ihNext (.ok type) calls (Run.finished t name type)
                    (middle ++ [(name, type)])
                  exact ⟨later, .head (by simp only [step, entered])
                    (inside.trans (.head rfl rest))⟩
              | error fault =>
                  obtain ⟨later, rest⟩ := ihNext (.error fault) calls (Run.abandoned t name)
                    middle
                  exact ⟨later, .head (by simp only [step, entered])
                    (inside.trans (.head rfl rest))⟩

/-! ## The registry and the stack -/

/-- The registry at a moment of a program begun in `s`: the names in progress are those of
the calls under way, the entries those of the start and what was completed since. -/
structure Consistent (s : Session) (m : Moment) : Prop where
  building : m.session.registry.building = m.running
  entries : m.session.registry.entries = s.registry.entries ++ m.completed
  /-- No factory runs twice at a time. -/
  apart : m.running.Nodup
  /-- The name of a running factory is not registered. -/
  absent : ∀ name ∈ m.running, name ∉ m.session.registry.names
  /-- No factory completes twice, and none whose name was registered at the start. -/
  once : (m.completed.map (·.1)).Nodup
  anew : ∀ name ∈ m.completed.map (·.1), name ∉ s.registry.names

namespace Consistent

variable {s : Session}

theorem start {script : Script} (idle : s.registry.building = []) :
    (Moment.start script s).Consistent s where
  building := idle
  entries := (List.append_nil _).symm
  apart := .nil
  absent := fun _ member => absurd member List.not_mem_nil
  once := .nil
  anew := fun _ member => absurd member List.not_mem_nil

theorem names (consistent : m.Consistent s) :
    m.session.registry.names = s.registry.names ++ m.completed.map (·.1) := by
  unfold Registry.names
  rw [consistent.entries, List.map_append]

theorem get?_running (consistent : m.Consistent s) {name : String} (member : name ∈ m.running) :
    m.session.registry.get? name = none :=
  get?_eq_none_iff.2 (consistent.absent name member)

/-- A factory that begins has a name that no factory has that runs or has returned. -/
theorem begun (consistent : m.Consistent s) {name : String} {factory : Script}
    {next : Except Fault Ty → Script} (fresh : m.session.registry.contains name = false) :
    Consistent s
      ⟨factory, ⟨name, next⟩ :: m.calls, Run.begun m.session name, m.completed⟩ := by
  have free : ¬ ((∃ type, m.session.registry.get? name = some type) ∨
      name ∈ m.session.registry.building) := by
    rw [← contains_iff, fresh]
    exact Bool.false_ne_true
  obtain ⟨unregistered, idle⟩ := not_or.1 free
  refine ⟨congrArg (name :: ·) consistent.building, consistent.entries, ?_, ?_,
    consistent.once, consistent.anew⟩
  · rw [consistent.building] at idle
    exact List.nodup_cons.2 ⟨idle, consistent.apart⟩
  · intro other member
    rcases List.mem_cons.1 member with rfl | earlier
    · exact fun registered => unregistered (mem_names_iff.1 registered)
    · exact consistent.absent other earlier

variable {call : Call} {calls : List Call}

theorem running_cons (under : m.calls = call :: calls) :
    m.running = call.name :: calls.map (·.name) := by
  rw [running, under, List.map_cons]

/-- The name of the innermost call is no longer in progress once its factory has ended. -/
theorem filter_running (consistent : m.Consistent s) (under : m.calls = call :: calls) :
    m.session.registry.building.filter (· != call.name) = calls.map (·.name) := by
  have apart := consistent.apart
  rw [running_cons under] at apart
  rw [consistent.building, running_cons under, filter_cons_ne (List.nodup_cons.1 apart).1]

/-- The type of a factory that returns comes last. -/
theorem entries_returned (consistent : m.Consistent s) (under : m.calls = call :: calls)
    (type : Ty) :
    (Run.finished m.session call.name type).registry.entries =
      m.session.registry.entries ++ [(call.name, type)] :=
  entries_leave (consistent.get?_running (running_cons under ▸ List.mem_cons_self))

theorem returned (consistent : m.Consistent s) {type : Ty} (under : m.calls = call :: calls) :
    Consistent s
      ⟨call.next (.ok type), calls, Run.finished m.session call.name type,
        m.completed ++ [(call.name, type)]⟩ := by
  have own : call.name ∈ m.running := running_cons under ▸ List.mem_cons_self
  have apart := consistent.apart
  rw [running_cons under, List.nodup_cons] at apart
  have new : call.name ∉ s.registry.names ++ m.completed.map (·.1) :=
    consistent.names ▸ consistent.absent call.name own
  rw [List.mem_append, not_or] at new
  refine ⟨?_, ?_, apart.2, ?_, ?_, ?_⟩
  · exact Registry.building_leave.trans (consistent.filter_running under)
  · rw [consistent.entries_returned under, consistent.entries, List.append_assoc]
  · intro name member registered
    have earlier : name ∈ m.session.registry.names ++ [call.name] := by
      rw [Registry.names, consistent.entries_returned under, List.map_append] at registered
      exact registered
    rcases List.mem_append.1 earlier with before | last
    · exact consistent.absent name (running_cons under ▸ List.mem_cons_of_mem _ member) before
    · rw [List.mem_singleton.1 last] at member
      exact apart.1 member
  · rw [List.map_append, List.map_singleton]
    exact List.nodup_append_comm.2 (List.nodup_cons.2 ⟨new.2, consistent.once⟩)
  · intro name member
    rw [List.map_append, List.map_singleton, List.mem_append, List.mem_singleton] at member
    rcases member with before | rfl
    · exact consistent.anew name before
    · exact new.1

theorem failed (consistent : m.Consistent s) {fault : Fault} (under : m.calls = call :: calls) :
    Consistent s
      ⟨call.next (.error fault), calls, Run.abandoned m.session call.name, m.completed⟩ := by
  have apart := consistent.apart
  rw [running_cons under, List.nodup_cons] at apart
  refine ⟨?_, consistent.entries, apart.2, ?_, consistent.once, consistent.anew⟩
  · exact Registry.building_leave.trans (consistent.filter_running under)
  · exact fun name member =>
      consistent.absent name (running_cons under ▸ List.mem_cons_of_mem _ member)

theorem step (consistent : m.Consistent s) (taken : m.step = some n) : n.Consistent s := by
  rcases step_cases taken with ⟨name, factory, next, known, -, -, rfl⟩ |
    ⟨name, factory, next, -, fresh, rfl⟩ | ⟨type, call, calls, -, under, rfl⟩ |
    ⟨fault, call, calls, -, under, rfl⟩
  · exact ⟨consistent.building, consistent.entries, consistent.apart, consistent.absent,
      consistent.once, consistent.anew⟩
  · exact consistent.begun fresh
  · exact consistent.returned under
  · exact consistent.failed under

theorem of_comesTo (consistent : m.Consistent s) (later : ComesTo m n) : n.Consistent s := by
  induction later with
  | refl => exact consistent
  | tail _ taken ih => exact ih.step taken

end Consistent

/-- What was completed stays completed, in the order in which it was. -/
theorem completed_prefix (later : ComesTo m n) : m.completed <+: n.completed := by
  induction later with
  | refl => exact List.prefix_rfl
  | tail _ taken ih =>
      refine ih.trans ?_
      rcases step_cases taken with ⟨_, _, _, _, -, -, rfl⟩ | ⟨_, _, _, -, -, rfl⟩ |
        ⟨type, call, _, -, -, rfl⟩ | ⟨_, _, _, -, -, rfl⟩
      · exact List.prefix_rfl
      · exact List.prefix_rfl
      · exact List.prefix_append _ _
      · exact List.prefix_rfl

/-! ## Every moment of a program -/

/-- What holds at a moment of a program begun in `s`. -/
structure Disciplined (s : Session) (m : Moment) : Prop where
  inProgress : ∀ name, m.session.registry.inProgress name = true ↔ name ∈ m.running
  /-- A name whose factory is running stands for a reference; no factory runs. -/
  placeholder : ∀ name factory next, m.script = .register name factory next →
    name ∈ m.running → m.step = some { m with script := next (.ok (.reference name)) }
  /-- No name's factory completes twice, and none that was registered before. -/
  once : (m.completed.map (·.1)).Nodup ∧
    ∀ name ∈ m.completed.map (·.1), name ∉ s.registry.names
  /-- The types stand in the order in which their factories returned. -/
  ordered : m.session.registry.entries = s.registry.entries ++ m.completed
  /-- The type of a factory that returns comes after all that was completed inside it. -/
  returning : ∀ type call calls, m.script = .done (.ok type) → m.calls = call :: calls →
    ∃ n, m.step = some n ∧
      n.session.registry.entries = m.session.registry.entries ++ [(call.name, type)]
  /-- The name of a factory that fails can be registered again, and all that was completed
  before stays. -/
  failing : ∀ fault call calls, m.script = .done (.error fault) → m.calls = call :: calls →
    ∃ n, m.step = some n ∧ n.session.registry.entries = m.session.registry.entries ∧
      n.session.registry.contains call.name = false ∧
      n.session.registry.enter call.name = .inr (n.session.registry.start call.name)
  /-- Outside every call nothing is in progress, and each name whose factory has not
  completed is free. -/
  outermost : m.calls = [] → m.session.registry.building = [] ∧
    ∀ name, name ∉ s.registry.names → name ∉ m.completed.map (·.1) →
      m.session.registry.contains name = false ∧
      m.session.registry.enter name = .inr (m.session.registry.start name)

/-- A name that is neither registered nor in progress is free. -/
theorem free_of_absent {registry : Registry} {name : String} (unregistered : name ∉ registry.names)
    (idle : name ∉ registry.building) :
    registry.contains name = false ∧ registry.enter name = .inr (registry.start name) := by
  have fresh : registry.contains name = false := by
    rw [← Bool.not_eq_true, contains_iff, ← mem_names_iff]
    exact not_or.2 ⟨unregistered, idle⟩
  exact ⟨fresh, enter_eq_inr_iff.2 ⟨fresh, rfl⟩⟩

theorem Consistent.disciplined {s : Session} (consistent : m.Consistent s) :
    m.Disciplined s where
  inProgress := by
    intro name
    rw [Registry.inProgress, consistent.building, List.contains_iff_mem]
  placeholder := by
    intro name factory next script member
    have known : m.session.registry.enter name = .inl (.reference name) :=
      enter_eq_inl_iff.2
        (.inr ⟨consistent.get?_running member, consistent.building ▸ member, rfl⟩)
    obtain ⟨_, calls, s, completed⟩ := m
    subst script
    simp only [Moment.step, known]
  once := ⟨consistent.once, consistent.anew⟩
  ordered := consistent.entries
  returning := by
    intro type call calls script under
    have last := consistent.entries_returned under type
    obtain ⟨_, _, s, completed⟩ := m
    subst script under
    exact ⟨_, rfl, last⟩
  failing := by
    intro fault call calls script under
    have absent := consistent.absent call.name
      (Consistent.running_cons under ▸ List.mem_cons_self)
    have idle : (Run.abandoned m.session call.name).registry.building = calls.map (·.name) :=
      Registry.building_leave.trans (consistent.filter_running under)
    have apart := consistent.apart
    rw [Consistent.running_cons under, List.nodup_cons] at apart
    obtain ⟨_, _, s, completed⟩ := m
    subst script under
    exact ⟨_, rfl, rfl, free_of_absent absent (idle ▸ apart.1)⟩
  outermost := by
    intro ended
    have none : m.session.registry.building = [] := by
      rw [consistent.building, running, ended, List.map_nil]
    refine ⟨none, fun name before since => free_of_absent ?_ (none ▸ List.not_mem_nil)⟩
    rw [consistent.names, List.mem_append]
    exact not_or.2 ⟨before, since⟩

end Moment

/-- A program of nested registrations runs to its end, and at each of its moments the
names in progress are those on the stack of calls, each of them stands for a reference,
each factory completes at most once, the types stand in the order in which their
factories returned, and a factory that fails leaves nothing but what was completed
inside it. -/
theorem nested_registrations (script : Script) (s : Session) (idle : s.registry.building = []) :
    (∃ completed, (Moment.start script s).ComesTo
      ⟨.done (script.run.outcome s).1, [], (script.run.outcome s).2, completed⟩) ∧
    ∀ m, (Moment.start script s).ComesTo m →
      m.outcome = script.run.outcome s ∧ m.Disciplined s ∧
      ∀ n, m.ComesTo n → m.completed <+: n.completed := by
  refine ⟨Moment.comesTo_done script [] s [], fun m later => ?_⟩
  have consistent : m.Consistent s := (Moment.Consistent.start idle).of_comesTo later
  have same : m.outcome = script.run.outcome s := Moment.outcome_of_comesTo later
  exact ⟨same, consistent.disciplined, fun n after => Moment.completed_prefix after⟩

/-- A factory asks for its own name, tries a name in vain and completes another; the name
that failed is registered afterwards. -/
def retried : Script :=
  .register "Order"
    (.register "Order" (.done (.ok .nil)) fun own =>
      .register "Line" (.done (.error (.scripted "boom"))) fun _ =>
        .register "Item" (.done (.ok (.array .nil))) fun _ => .done own)
    fun _ => .register "Line" (.done (.ok .nil)) .done

theorem nested_registrations_retried :
    ({} : Session).registry.building = [] ∧
      ∃ completed, (Moment.start retried {}).ComesTo
        ⟨.done (retried.run.outcome {}).1, [], (retried.run.outcome {}).2, completed⟩ ∧
      completed = [("Item", .array .nil), ("Order", .reference "Order"), ("Line", .nil)] := by
  obtain ⟨⟨completed, ended⟩, every⟩ := nested_registrations retried {} rfl
  refine ⟨rfl, completed, ended, ?_⟩
  have ordered : (retried.run.outcome {}).2.registry.entries = [] ++ completed :=
    (every _ ended).2.1.ordered
  rw [List.nil_append] at ordered
  exact ordered.symm

end Registry

end TypedContract
