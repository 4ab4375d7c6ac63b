import Gatehouse.Proofs.Execution.Interference

/-!
# The moves of routines

The states that the steps of a routine find decide what it comes to. What it does is seen
if each of them is taken down together with the state that the step leaves. This module
says for each way of putting a routine together by which moves it goes.
-/

namespace Gatehouse.Routine

variable {σ α β : Type}

/-- A routine goes to a value by moves: each of its steps takes the state that it finds to
the one that it leaves. What lies between two moves is up to others. -/
inductive Goes : Routine σ α → List (σ × σ) → α → Prop where
  | done (value : α) : Goes (.done value) [] value
  | step {wait : Wait σ} {act : σ → σ} {next : σ → Routine σ α} {state : σ}
      {moves : List (σ × σ)} {value : α} (ready : wait.ready state = true)
      (rest : Goes (next state) moves value) :
      Goes (.step wait act next) ((state, act state) :: moves) value

variable {routine : Routine σ α} {moves : List (σ × σ)} {value : α}

@[simp] theorem goes_done_iff {result : α} :
    (done result).Goes moves value ↔ moves = [] ∧ value = result := by
  constructor
  · intro goes
    cases goes with
    | done => exact ⟨rfl, rfl⟩
  · rintro ⟨rfl, rfl⟩
    exact .done value

theorem goes_step_iff {wait : Wait σ} {act : σ → σ} {next : σ → Routine σ α} :
    (step wait act next).Goes moves value ↔
      ∃ state rest, moves = (state, act state) :: rest ∧ wait.ready state = true ∧
        (next state).Goes rest value := by
  constructor
  · intro goes
    cases goes with
    | step ready rest => exact ⟨_, _, rfl, ready, rest⟩
  · rintro ⟨state, rest, rfl, ready, goes⟩
    exact .step ready goes

theorem goes_observe_iff {view : σ → α} : (observe view).Goes moves value ↔
    ∃ state, moves = [(state, state)] ∧ value = view state := by
  rw [observe, goes_step_iff]
  constructor
  · rintro ⟨state, rest, rfl, -, goes⟩
    obtain ⟨rfl, rfl⟩ := goes_done_iff.mp goes
    exact ⟨state, rfl, rfl⟩
  · rintro ⟨state, rfl, rfl⟩
    exact ⟨state, [], rfl, rfl, .done _⟩

theorem goes_change_iff {act : σ → σ} {result : Unit} : (change act).Goes moves result ↔
    ∃ state, moves = [(state, act state)] := by
  rw [change, goes_step_iff]
  constructor
  · rintro ⟨state, rest, rfl, -, goes⟩
    obtain ⟨rfl, -⟩ := goes_done_iff.mp goes
    exact ⟨state, rfl⟩
  · rintro ⟨state, rfl⟩
    exact ⟨state, [], rfl, rfl, .done _⟩

/-- A sequence makes the moves of its first part, and then those of the second one. -/
theorem goes_bind_iff {next : α → Routine σ β} {last : β} :
    (routine.bind next).Goes moves last ↔
      ∃ early late value, moves = early ++ late ∧ routine.Goes early value ∧
        (next value).Goes late last := by
  induction routine generalizing moves with
  | done value =>
      constructor
      · intro goes
        exact ⟨[], moves, value, rfl, .done value, goes⟩
      · rintro ⟨early, late, other, rfl, first, second⟩
        obtain ⟨rfl, rfl⟩ := goes_done_iff.mp first
        exact second
  | step wait act rest ih =>
      rw [bind, goes_step_iff]
      constructor
      · rintro ⟨state, moves, rfl, ready, further⟩
        rcases (ih state).mp further with ⟨early, late, value, rfl, first, second⟩
        exact ⟨_ :: early, late, value, rfl, .step ready first, second⟩
      · rintro ⟨_, late, value, rfl, first, second⟩
        rcases goes_step_iff.mp first with ⟨state, early, rfl, ready, first⟩
        exact ⟨state, early ++ late, rfl, ready, (ih state).mpr ⟨early, late, value, rfl, first,
          second⟩⟩

/-- A routine comes to a value by the states that its moves begin in, and by no others. -/
theorem comesTo_iff_goes {states : List σ} :
    routine.ComesTo states value ↔
      ∃ moves, routine.Goes moves value ∧ moves.map Prod.fst = states := by
  constructor
  · intro comes
    induction comes with
    | done value => exact ⟨[], .done value, rfl⟩
    | step ready rest ih =>
        rcases ih with ⟨moves, goes, rfl⟩
        exact ⟨_, .step ready goes, rfl⟩
  · rintro ⟨moves, goes, rfl⟩
    induction goes with
    | done value => exact .done value
    | step ready rest ih => exact .step ready ih

end Gatehouse.Routine
