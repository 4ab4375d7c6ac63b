import Gatehouse.Policy.Engine
import Gatehouse.Proofs.Execution.Alone

/-!
# What an edit of the policy comes to

An edit looks at the grants, and from what it sees it follows which change it
asks the store for, if any. The change is published if and only if the store
made it. This module reduces every edit to that one change.
-/

namespace Gatehouse.PolicyEngine

/-! ## A change of the store -/

/-- A change as it is asked of the store: tuples are dropped and others added. -/
structure Change where
  operation : String
  removed : List PolicyTuple
  added : List PolicyTuple

/-- The state in which a change has been stored and published. -/
def Change.carried (change : Change) (site : Site) : Site :=
  { site with
    tuples := (site.tuples.eraseAll change.removed).insertAll change.added
    grants := site.grants.change change.removed change.added
    edition := site.edition + 1 }

/-- The fault that the store answers a change with, if it does. -/
def Change.fault? (change : Change) (engine : PolicyEngine) (site : Site) : Option StoreFault :=
  (site.conditions .policyWrite).fault? change.operation engine.timeout

variable {engine : PolicyEngine} {α : Type}

theorem alone_exclusively (task : Task StoreFault α) (site : Site) :
    (exclusively task).alone site =
      ((task.alone { site with writing := true }).1,
        { (task.alone { site with writing := true }).2 with writing := false }) := by
  simp only [exclusively, acquire, release, Task.alone_ofRoutine, Routine.run_bind,
    Routine.run_after_until, Routine.run_change, Routine.run_done, Task.run_toRoutine]

@[simp] theorem run_snapshot (site : Site) :
    snapshot.run site = (⟨site.edition, site.grants⟩, site) := rfl

@[simp] theorem alone_snapshot {φ : Type} (site : Site) :
    Task.alone (liftM snapshot : Task φ Snapshot) site =
      (.ok ⟨site.edition, site.grants⟩, site) := by
  rw [Task.alone_lift, run_snapshot]

theorem alone_apply (change : Change) (site : Site) :
    (engine.apply change.operation change.removed change.added).alone site =
      match change.fault? engine site with
      | some fault => (.error fault, site.answered .policyWrite engine.timeout)
      | none => (.ok (), change.carried (site.answered .policyWrite engine.timeout)) := by
  rw [apply, Task.alone_bind, storeChange, alone_callStore]
  simp only [Change.fault?]
  cases (site.conditions .policyWrite).fault? change.operation engine.timeout with
  | some fault => rfl
  | none =>
      simp only [Task.alone_lift, publishChange, publish, Routine.run_bind, run_snapshot,
        Routine.run_change]
      rfl

/-- Ask the store for a change, if there is one to be asked for. -/
def ask (engine : PolicyEngine) : Option Change → Task StoreFault Unit
  | none => pure ()
  | some change => engine.apply change.operation change.removed change.added

/-- The fault that asking for a change comes to, if it does. -/
def askFault? (engine : PolicyEngine) (change? : Option Change) (site : Site) :
    Option StoreFault :=
  change?.bind fun change => change.fault? engine site

/-- The state behind asking for a change: nothing was asked for, or the store
refused, or the change was made. -/
def asked (engine : PolicyEngine) (change? : Option Change) (site : Site) : Site :=
  match change? with
  | none => site
  | some change =>
      match change.fault? engine site with
      | some _ => site.answered .policyWrite engine.timeout
      | none => change.carried (site.answered .policyWrite engine.timeout)

/-- An outcome that is a fault or, for want of one, a value. -/
def outcomeOf (fault? : Option StoreFault) (value : α) : Except StoreFault α :=
  match fault? with
  | some fault => .error fault
  | none => .ok value

theorem outcomeOf_eq_ok {fault? : Option StoreFault} {value answer : α} :
    outcomeOf fault? value = .ok answer ↔ fault? = none ∧ value = answer := by
  cases fault? <;> simp [outcomeOf]

theorem outcomeOf_eq_error {fault? : Option StoreFault} {value : α} {fault : StoreFault} :
    outcomeOf fault? value = .error fault ↔ fault? = some fault := by
  cases fault? <;> simp [outcomeOf]

theorem alone_ask (change? : Option Change) (site : Site) :
    (engine.ask change?).alone site =
      (outcomeOf (engine.askFault? change? site) (), engine.asked change? site) := by
  cases change? with
  | none => rfl
  | some change =>
      rw [ask, alone_apply]
      simp only [askFault?, asked, Option.bind_some]
      cases change.fault? engine site <;> rfl

/-! ## The edits -/

/-- What the policy can be asked for. -/
inductive Edit where
  | add (tuples : List PolicyTuple)
  | remove (tuples : List PolicyTuple)
  | createRole (role : Role) (procedures : List String)
  | replaceRole (role : Role) (procedures : List String)
  | removeRole (role : Role)

namespace Edit

/-- What an edit is answered with. -/
@[reducible] def Answer : Edit → Type
  | .add _ => Unit
  | .remove _ => Unit
  | .createRole _ _ => Bool
  | .replaceRole _ _ => List PolicyTuple
  | .removeRole _ => List PolicyTuple

/-- Carry out an edit. -/
def perform (engine : PolicyEngine) : (edit : Edit) → Task StoreFault edit.Answer
  | .add tuples => engine.add tuples
  | .remove tuples => engine.remove tuples
  | .createRole role procedures => engine.createRole role procedures
  | .replaceRole role procedures => engine.replaceRole role procedures
  | .removeRole role => engine.removeRole role

/-- The change that an edit asks the store for, if it asks for one. -/
def change? (grants : Grants) : Edit → Option Change
  | .add tuples => if tuples.isEmpty then none else some ⟨"policy.add", [], tuples⟩
  | .remove tuples => if tuples.isEmpty then none else some ⟨"policy.remove", tuples, []⟩
  | .createRole role procedures =>
      if (grants.filtered role.name).isEmpty then
        if (roleTuples role procedures).isEmpty then none
        else some ⟨"policy.add", [], roleTuples role procedures⟩
      else none
  | .replaceRole role procedures =>
      if (grants.filtered role.name).isEmpty then none
      else some ⟨"policy.replace", grants.filtered role.name, roleTuples role procedures⟩
  | .removeRole role =>
      if (grants.filtered role.name).isEmpty then none
      else some ⟨"policy.remove", grants.filtered role.name, []⟩

/-- What a successful edit is answered with. -/
def answer (grants : Grants) : (edit : Edit) → edit.Answer
  | .add _ => ()
  | .remove _ => ()
  | .createRole role _ => (grants.filtered role.name).isEmpty
  | .replaceRole role _ => grants.filtered role.name
  | .removeRole role => grants.filtered role.name

/-- What an edit comes to. -/
def result (edit : Edit) (engine : PolicyEngine) (site : Site) : Except StoreFault edit.Answer :=
  outcomeOf (engine.askFault? (edit.change? site.grants) site) (edit.answer site.grants)

/-- The state behind an edit. -/
def behind (edit : Edit) (engine : PolicyEngine) (site : Site) : Site :=
  { engine.asked (edit.change? site.grants) site with writing := false }

end Edit

theorem applyAdd_eq_ask (tuples : List PolicyTuple) :
    engine.applyAdd tuples =
      engine.ask (if tuples.isEmpty then none else some ⟨"policy.add", [], tuples⟩) := by
  rw [applyAdd]
  split <;> rfl

theorem applyRemove_eq_ask (tuples : List PolicyTuple) :
    engine.applyRemove tuples =
      engine.ask (if tuples.isEmpty then none else some ⟨"policy.remove", tuples, []⟩) := by
  rw [applyRemove]
  split <;> rfl

/-- An answer that is given once a change was asked for is given unless asking
failed. -/
theorem alone_ask_then (change? : Option Change) (answer : α) (site : Site) :
    (engine.ask change? >>= fun _ => pure answer).alone site =
      (outcomeOf (engine.askFault? change? site) answer, engine.asked change? site) := by
  rw [Task.alone_bind, alone_ask]
  cases engine.askFault? change? site <;> rfl

/-- The mark of a change under way does not matter to what the store is asked
for. -/
theorem alone_exclusively_asking {change? : Option Change} {task : Task StoreFault α} {answer : α}
    {site : Site}
    (asking : ∀ marked : Site, marked = { site with writing := true } →
      task.alone marked =
        (outcomeOf (engine.askFault? change? marked) answer, engine.asked change? marked)) :
    (exclusively task).alone site =
      (outcomeOf (engine.askFault? change? site) answer,
        { engine.asked change? site with writing := false }) := by
  rw [alone_exclusively, asking _ rfl]
  cases change? with
  | none => rfl
  | some change =>
      simp only [askFault?, asked, Option.bind_some]
      change (outcomeOf (change.fault? engine site) answer, _) = _
      have same : change.fault? engine { site with writing := true } =
        change.fault? engine site := rfl
      rw [same]
      cases change.fault? engine site <;> rfl

/-- An edit that runs alone comes to its result. -/
theorem alone_perform (edit : Edit) (site : Site) :
    (edit.perform engine).alone site = (edit.result engine site, edit.behind engine site) := by
  cases edit with
  | add tuples =>
      apply alone_exclusively_asking
      intro marked _
      rw [applyAdd_eq_ask, alone_ask]
      rfl
  | remove tuples =>
      apply alone_exclusively_asking
      intro marked _
      rw [applyRemove_eq_ask, alone_ask]
      rfl
  | createRole role procedures =>
      apply alone_exclusively_asking
      intro marked same
      subst same
      rw [Task.alone_bind, alone_snapshot]
      simp only [Edit.change?, Edit.answer]
      cases (site.grants.filtered role.name).isEmpty with
      | false => rfl
      | true =>
          simp only [if_true]
          rw [applyAdd_eq_ask, alone_ask_then]
  | replaceRole role procedures =>
      apply alone_exclusively_asking
      intro marked same
      subst same
      rw [Task.alone_bind, alone_snapshot]
      simp only [Edit.change?, Edit.answer]
      split
      · next unknown =>
          rw [List.isEmpty_iff.mp unknown]
          rfl
      · exact alone_ask_then
          (some ⟨"policy.replace", site.grants.filtered role.name, roleTuples role procedures⟩)
          (site.grants.filtered role.name) _
  | removeRole role =>
      apply alone_exclusively_asking
      intro marked same
      subst same
      rw [Task.alone_bind, alone_snapshot]
      simp only [Edit.change?, Edit.answer]
      rw [applyRemove_eq_ask, alone_ask_then]

end Gatehouse.PolicyEngine
