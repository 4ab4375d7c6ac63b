/-!
# Routines

A routine acts on a shared state in atomic steps. In front of a step it may
have to wait, until the state allows the step or until an instant has come.
What happens between two steps of a routine is left to the other routines.

A routine that runs alone is a function of the state: `run` takes every step as
it comes and lets the time pass that the routine waits for.
-/

namespace Gatehouse

/-- States with a clock, in nanoseconds. -/
class Clocked (σ : Type) where
  clock : σ → Nat
  /-- The state with the clock at an instant. -/
  setClock : Nat → σ → σ

/-- What a step waits for. -/
structure Wait (σ : Type) where
  /-- Whether the step may be taken. -/
  ready : σ → Bool
  /-- The instant from which time alone makes the step ready, if there is one. -/
  wake : Option Nat

namespace Wait

variable {σ : Type}

/-- Do not wait. -/
def none : Wait σ := ⟨fun _ => true, .none⟩

/-- Wait for another routine to change the state. -/
def until_ (ready : σ → Bool) : Wait σ := ⟨ready, .none⟩

/-- Wait for an instant. -/
def for_ [Clocked σ] (instant : Nat) : Wait σ :=
  ⟨fun state => instant ≤ Clocked.clock state, some instant⟩

end Wait

/-- A routine with a result: it is done, or it waits for a step that changes
the state and goes on with what it saw before the change. -/
inductive Routine (σ : Type) (α : Type) where
  | done (value : α)
  | step (wait : Wait σ) (act : σ → σ) (next : σ → Routine σ α)

namespace Routine

variable {σ α β γ : Type}

instance [Inhabited α] : Inhabited (Routine σ α) := ⟨.done default⟩

/-- Go on with the result of a routine. -/
def bind (routine : Routine σ α) (next : α → Routine σ β) : Routine σ β :=
  match routine with
  | .done value => next value
  | .step wait act rest => .step wait act fun state => (rest state).bind next

instance : Monad (Routine σ) where
  pure := .done
  bind := bind

/-- One step that does not wait. -/
def atomically (act : σ → α × σ) : Routine σ α :=
  .step .none (fun state => (act state).2) fun state => .done (act state).1

/-- One step that waits. -/
def after (wait : Wait σ) (act : σ → α × σ) : Routine σ α :=
  .step wait (fun state => (act state).2) fun state => .done (act state).1

/-- Look at the state. -/
def observe (view : σ → α) : Routine σ α := .step .none id fun state => .done (view state)

/-- Change the state. -/
def change (act : σ → σ) : Routine σ Unit := .step .none act fun _ => .done ()

/-- The result of a routine and the state behind it, if no other routine acts
in between. -/
def run [Clocked σ] (routine : Routine σ α) (state : σ) : α × σ :=
  match routine with
  | .done value => (value, state)
  | .step wait act next =>
      let state := match wait.wake with
        | some instant => Clocked.setClock (max instant (Clocked.clock state)) state
        | .none => state
      (next state).run (act state)

/-- Take steps as long as none has to wait. -/
def settle (routine : Routine σ α) (state : σ) : Routine σ α × σ :=
  match routine with
  | .done value => (.done value, state)
  | .step wait act next =>
      if wait.ready state then (next state).settle (act state) else (.step wait act next, state)

/-- The result of a routine that is done. -/
def result? : Routine σ α → Option α
  | .done value => some value
  | .step _ _ _ => none

/-- The instant that a routine waits for. -/
def wake? : Routine σ α → Option Nat
  | .done _ => none
  | .step wait _ _ => wait.wake

@[simp] theorem pure_eq_done (value : α) : (pure value : Routine σ α) = .done value := rfl

@[simp] theorem bind_eq (routine : Routine σ α) (next : α → Routine σ β) :
    routine >>= next = routine.bind next := rfl

@[simp] theorem bind_done (routine : Routine σ α) : routine.bind .done = routine := by
  induction routine with
  | done value => rfl
  | step wait act rest ih => simp [bind, ih]

theorem bind_assoc (routine : Routine σ α) (next : α → Routine σ β) (last : β → Routine σ γ) :
    (routine.bind next).bind last = routine.bind fun value => (next value).bind last := by
  induction routine with
  | done value => rfl
  | step wait act rest ih => simp [bind, ih]

@[simp] theorem run_done [Clocked σ] (value : α) (state : σ) :
    (done value).run state = (value, state) := rfl

@[simp] theorem run_bind [Clocked σ] (routine : Routine σ α) (next : α → Routine σ β)
    (state : σ) :
    (routine.bind next).run state = (next (routine.run state).1).run (routine.run state).2 := by
  induction routine generalizing state with
  | done value => rfl
  | step wait act rest ih => simp [bind, run, ih]

instance : LawfulMonad (Routine σ) :=
  LawfulMonad.mk' _ bind_done (fun _ _ => rfl) bind_assoc

end Routine

end Gatehouse
