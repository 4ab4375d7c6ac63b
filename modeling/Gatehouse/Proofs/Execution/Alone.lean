import Gatehouse.Site

/-!
# Tasks that run alone

If no other routine acts, a task is a function of the state that it starts in.
This module says what that function is for each way of putting a task together,
and reduces a call of a store to the condition in which the call finds it.
-/

namespace Gatehouse

namespace Routine

variable {σ α : Type} [Clocked σ]

@[simp] theorem run_atomically (act : σ → α × σ) (state : σ) :
    (atomically act).run state = act state := rfl

@[simp] theorem run_observe (view : σ → α) (state : σ) :
    (observe view).run state = (view state, state) := rfl

@[simp] theorem run_change (act : σ → σ) (state : σ) :
    (change act).run state = ((), act state) := rfl

/-- A wait without an instant lets no time pass. -/
@[simp] theorem run_after_until (ready : σ → Bool) (act : σ → α × σ) (state : σ) :
    (after (.until_ ready) act).run state = act state := rfl

end Routine

/-- The fault that a store in this condition answers a call with, if it does:
an answer that takes longer than the limit is not waited for. -/
def Condition.fault? (condition : Condition) (operation : String) (limit : Span) :
    Option StoreFault :=
  if limit.nanos < condition.delay.nanos then some (.timeout operation limit.millis)
  else condition.failure

/-- A store that answers in time and does not fail. -/
def Condition.Answers (condition : Condition) (limit : Span) : Prop :=
  condition.delay.nanos ≤ limit.nanos ∧ condition.failure = none

theorem Condition.fault?_eq_none {condition : Condition} {limit : Span} (operation : String)
    (answers : condition.Answers limit) : condition.fault? operation limit = none := by
  rw [fault?, if_neg (Nat.not_lt.mpr answers.1), answers.2]

/-- The state in which the answer of a store is there: the call has been counted,
and the time of the answer has passed, or the limit if that is shorter. -/
def Site.answered (backend : Backend) (limit : Span) (site : Site) : Site :=
  { site.countCall backend with
    clock := site.clock + min (site.conditions backend).delay.nanos limit.nanos }

namespace Task

variable {φ ψ α β : Type}

/-- What a task that runs alone comes to, with the state behind it. -/
def alone (task : Task φ α) (site : Site) : Except φ α × Site := task.toRoutine.run site

/-- What a task that runs alone comes to. -/
def outcome (task : Task φ α) (site : Site) : Except φ α := (task.alone site).1

/-- The state behind a task that ran alone. -/
def behind (task : Task φ α) (site : Site) : Site := (task.alone site).2

theorem alone_eq (task : Task φ α) (site : Site) :
    task.alone site = (task.outcome site, task.behind site) := rfl

@[simp] theorem run_toRoutine (task : Task φ α) (site : Site) :
    task.toRoutine.run site = task.alone site := rfl

@[simp] theorem alone_ofRoutine (routine : Routine Site (Except φ α)) (site : Site) :
    (ofRoutine routine).alone site = routine.run site := rfl

@[simp] theorem alone_pure (value : α) (site : Site) :
    (pure value : Task φ α).alone site = (.ok value, site) := rfl

@[simp] theorem alone_throw (fault : φ) (site : Site) :
    (throw fault : Task φ α).alone site = (.error fault, site) := rfl

@[simp] theorem alone_lift (routine : Routine Site α) (site : Site) :
    (liftM routine : Task φ α).alone site =
      (.ok (routine.run site).1, (routine.run site).2) := by
  change (routine.bind fun value => .done (Except.ok value)).run site = _
  rw [Routine.run_bind]
  rfl

@[simp] theorem alone_exceptLift (routine : Routine Site α) (site : Site) :
    alone (ExceptT.lift routine : Task φ α) site =
      (.ok (routine.run site).1, (routine.run site).2) :=
  alone_lift routine site

/-- A sequence stops at the first fault. -/
theorem alone_bind (task : Task φ α) (next : α → Task φ β) (site : Site) :
    (task >>= next).alone site =
      match task.alone site with
      | (.ok value, after) => (next value).alone after
      | (.error fault, after) => (.error fault, after) := by
  change (task.toRoutine.bind (ExceptT.bindCont next)).run site = _
  rw [Routine.run_bind, run_toRoutine]
  cases task.alone site with
  | mk result after => cases result <;> rfl

@[simp] theorem mapError_ok (convert : φ → ψ) (value : α) :
    (Except.ok value).mapError convert = .ok value := rfl

@[simp] theorem mapError_error (convert : φ → ψ) (fault : φ) :
    (Except.error fault : Except φ α).mapError convert = .error (convert fault) := rfl

/-- Only faults are converted. -/
theorem mapError_eq_ok_iff {result : Except φ α} {convert : φ → ψ} {value : α} :
    result.mapError convert = .ok value ↔ result = .ok value := by
  cases result <;> simp

@[simp] theorem alone_mapFault (convert : φ → ψ) (task : Task φ α) (site : Site) :
    (task.mapFault convert).alone site =
      ((task.alone site).1.mapError convert, (task.alone site).2) := by
  change (task.toRoutine.bind fun result => .done (result.mapError convert)).run site = _
  rw [Routine.run_bind]
  rfl

end Task

open Gatehouse.Task in
/-- A call of a store comes to the fault of its condition, or to what it does
once the answer is there. -/
theorem alone_callStore {α : Type} (operation : String) (limit : Span) (backend : Backend)
    (act : Site → Except StoreFault α × Site) (site : Site) :
    (callStore operation limit backend act).alone site =
      match (site.conditions backend).fault? operation limit with
      | some fault => (.error fault, site.answered backend limit)
      | none => act (site.answered backend limit) := by
  have waits : ∀ {β : Type} (answer : Site → β × Site),
      (Routine.after (.for_ (site.clock + min (site.conditions backend).delay.nanos limit.nanos))
        answer).run (site.countCall backend) = answer (site.answered backend limit) := by
    intro β answer
    change answer (Clocked.setClock (max _ site.clock) (site.countCall backend)) = _
    rw [Nat.max_eq_left (Nat.le_add_right _ _)]
    rfl
  simp only [callStore, alone_ofRoutine, Routine.run_bind, Routine.run_atomically, waits]
  have late : (site.answered backend limit).clock <
      site.clock + (site.conditions backend).delay.nanos ↔
        limit.nanos < (site.conditions backend).delay.nanos := by
    simp only [Site.answered]
    omega
  simp only [Condition.fault?, late]
  split
  · rfl
  · cases (site.conditions backend).failure <;> rfl

end Gatehouse
