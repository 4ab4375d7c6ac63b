import Gatehouse.Proofs.Execution.Interleaving

/-!
# Routines among others

What a routine comes to while others act depends only on the states that its steps
find. This module says for each way of putting a routine together which states its
steps find and what it makes of them, whatever happens between two of them.
-/

namespace Gatehouse

namespace Routine

variable {σ α β : Type}

/-- A routine comes to a value, its steps finding these states one after the other. What
lies between a state that a step leaves and the next one that is found is up to others. -/
inductive ComesTo : Routine σ α → List σ → α → Prop where
  | done (value : α) : ComesTo (.done value) [] value
  | step {wait : Wait σ} {act : σ → σ} {next : σ → Routine σ α} {state : σ} {states : List σ}
      {value : α} (ready : wait.ready state = true)
      (rest : ComesTo (next state) states value) :
      ComesTo (.step wait act next) (state :: states) value

variable {routine : Routine σ α} {states : List σ} {value : α}

theorem comesTo_done_iff {result : α} :
    (done result).ComesTo states value ↔ states = [] ∧ value = result := by
  constructor
  · intro comes
    cases comes with
    | done => exact ⟨rfl, rfl⟩
  · rintro ⟨rfl, rfl⟩
    exact .done value

theorem comesTo_after_iff {wait : Wait σ} {act : σ → α × σ} :
    (after wait act).ComesTo states value ↔
      ∃ state, states = [state] ∧ wait.ready state = true ∧ value = (act state).1 := by
  constructor
  · intro comes
    cases comes with
    | step ready rest =>
        cases rest with
        | done => exact ⟨_, rfl, ready, rfl⟩
  · rintro ⟨state, rfl, ready, rfl⟩
    exact .step ready (.done _)

theorem comesTo_atomically_iff {act : σ → α × σ} :
    (atomically act).ComesTo states value ↔
      ∃ state, states = [state] ∧ value = (act state).1 := by
  change (after .none act).ComesTo states value ↔ _
  simp [comesTo_after_iff, Wait.none]

theorem comesTo_observe_iff {view : σ → α} :
    (observe view).ComesTo states value ↔ ∃ state, states = [state] ∧ value = view state := by
  change (after .none fun state => (view state, state)).ComesTo states value ↔ _
  simp [comesTo_after_iff, Wait.none]

/-- A sequence finds what its first part finds, and then what the second one does. -/
theorem comesTo_bind_iff {next : α → Routine σ β} {last : β} :
    (routine.bind next).ComesTo states last ↔
      ∃ early late value, states = early ++ late ∧ routine.ComesTo early value ∧
        (next value).ComesTo late last := by
  induction routine generalizing states with
  | done value =>
      constructor
      · intro comes
        exact ⟨[], states, value, rfl, .done value, comes⟩
      · rintro ⟨early, late, other, rfl, first, second⟩
        cases first with
        | done => exact second
  | step wait act rest ih =>
      constructor
      · intro comes
        cases comes with
        | @step _ _ _ state states _ ready further =>
            rcases (ih state).mp further with ⟨early, late, value, rfl, first, second⟩
            exact ⟨state :: early, late, value, rfl, .step ready first, second⟩
      · rintro ⟨early, late, value, rfl, first, second⟩
        cases first with
        | step ready first => exact .step ready ((ih _).mpr ⟨_, late, value, rfl, first, second⟩)

/-- What a sequence finds behind the states of its first part is found by the second one. -/
theorem comesTo_append_iff {early late : List σ} {next : α → Routine σ β} {last : β}
    (first : routine.ComesTo early value) :
    (routine.bind next).ComesTo (early ++ late) last ↔ (next value).ComesTo late last := by
  induction first with
  | done value => rfl
  | step ready rest ih =>
      constructor
      · intro comes
        cases comes with
        | step _ further => exact ih.mp further
      · intro comes
        exact .step ready (ih.mpr comes)

end Routine

/-! ## Tasks -/

namespace Task

variable {φ ψ α β : Type}

/-- A task succeeds with a value, its steps finding these states one after the other. -/
def Gives (task : Task φ α) (states : List Site) (value : α) : Prop :=
  task.toRoutine.ComesTo states (.ok value)

variable {task : Task φ α} {states : List Site} {value : α}

theorem gives_known_iff {outcome : Except φ α} :
    (ofRoutine (.done outcome) : Task φ α).Gives states value ↔
      states = [] ∧ outcome = .ok value := by
  rw [Gives, eq_comm (a := outcome)]
  exact Routine.comesTo_done_iff

theorem gives_pure_iff {result : α} :
    (pure result : Task φ α).Gives states value ↔ states = [] ∧ result = value := by
  constructor
  · intro gives
    cases gives with
    | done => exact ⟨rfl, rfl⟩
  · rintro ⟨rfl, rfl⟩
    exact .done _

theorem not_gives_throw {fault : φ} : ¬ (throw fault : Task φ α).Gives states value := by
  intro gives
  have same : Except.error fault = Except.ok value := (gives_known_iff.mp gives).2
  injection same

theorem gives_observe_iff {view : Site → Except φ α} :
    (ofRoutine (.observe view) : Task φ α).Gives states value ↔
      ∃ site, states = [site] ∧ view site = .ok value := by
  rw [Gives]
  simp only [eq_comm (b := Except.ok value)]
  exact Routine.comesTo_observe_iff

/-- A sequence succeeds if both parts do. -/
theorem gives_bind_iff {next : α → Task φ β} {last : β} :
    (task >>= next).Gives states last ↔
      ∃ early late value, states = early ++ late ∧ task.Gives early value ∧
        (next value).Gives late last := by
  change (task.toRoutine.bind (ExceptT.bindCont next)).ComesTo states (.ok last) ↔ _
  rw [Routine.comesTo_bind_iff]
  constructor
  · rintro ⟨early, late, outcome, split, first, second⟩
    cases outcome with
    | ok value => exact ⟨early, late, value, split, first, second⟩
    | error fault => exact absurd second not_gives_throw
  · rintro ⟨early, late, value, split, first, second⟩
    exact ⟨early, late, .ok value, split, first, second⟩

/-- A routine as a task does not fail. -/
theorem gives_lift_iff {routine : Routine Site α} :
    (liftM routine : Task φ α).Gives states value ↔ routine.ComesTo states value := by
  change (routine.bind fun result => .done (Except.ok result)).ComesTo states (.ok value) ↔ _
  rw [Routine.comesTo_bind_iff]
  constructor
  · rintro ⟨early, late, result, rfl, first, second⟩
    rcases Routine.comesTo_done_iff.mp second with ⟨rfl, same⟩
    rw [List.append_nil, Except.ok.inj same]
    exact first
  · intro comes
    exact ⟨states, [], value, (List.append_nil states).symm, comes, .done _⟩

theorem gives_mapFault_iff {convert : φ → ψ} :
    (task.mapFault convert).Gives states value ↔ task.Gives states value := by
  change (task.toRoutine.bind fun outcome => .done (outcome.mapError convert)).ComesTo states
    (.ok value) ↔ _
  rw [Routine.comesTo_bind_iff]
  constructor
  · rintro ⟨early, late, outcome, rfl, first, second⟩
    rcases Routine.comesTo_done_iff.mp second with ⟨rfl, same⟩
    rw [List.append_nil, Gives, ← mapError_eq_ok_iff.mp same.symm]
    exact first
  · intro gives
    exact ⟨states, [], .ok value, (List.append_nil states).symm, gives, .done _⟩

/-- A call of a store finds the state in which it is asked and the one in which it answers. -/
theorem comesTo_callStore_iff {operation : String} {limit : Span} {backend : Backend}
    {act : Site → Except StoreFault α × Site} {outcome : Except StoreFault α} :
    (callStore operation limit backend act).toRoutine.ComesTo states outcome ↔
      ∃ asked answered, states = [asked, answered] ∧
        asked.clock + min (asked.conditions backend).delay.nanos limit.nanos ≤ answered.clock ∧
          outcome = (storeAnswer operation limit asked.clock (asked.conditions backend) act
            answered).1 := by
  constructor
  · intro comes
    rcases Routine.comesTo_bind_iff.mp comes with ⟨_, _, ⟨start, condition⟩, rfl, first, second⟩
    rcases Routine.comesTo_atomically_iff.mp first with ⟨asked, rfl, same⟩
    rcases Routine.comesTo_after_iff.mp second with ⟨answered, rfl, ready, came⟩
    cases same
    exact ⟨asked, answered, rfl, of_decide_eq_true ready, came⟩
  · rintro ⟨asked, answered, rfl, ready, rfl⟩
    exact .step rfl (.step (decide_eq_true ready) (.done _))

/-- A store that gives something was asked in one state and has answered in another. -/
theorem gives_callStore {operation : String} {limit : Span} {backend : Backend}
    {act : Site → Except StoreFault α × Site}
    (gives : (callStore operation limit backend act).Gives states value) :
    ∃ asked answered, states = [asked, answered] ∧ (act answered).1 = .ok value := by
  rcases comesTo_callStore_iff.mp gives with ⟨asked, answered, rfl, -, same⟩
  refine ⟨asked, answered, rfl, ?_⟩
  rcases storeAnswer_cases operation limit asked.clock (asked.conditions backend) act answered with
    ⟨fault, failed⟩ | succeeded
  · rw [failed] at same
    injection same
  · rw [succeeded] at same
    exact same.symm

end Task

/-! ## Runs -/

namespace Workload

variable {κ : Type} {workload : Workload κ} {start site : Site} {trace : Trace κ}
  {threads : List workload.Thread}

/-- The states that the steps of a call have found. -/
def found (trace : Trace κ) (number : Nat) : List Site :=
  (trace.steps number).map Event.before

/-- What is left of a call comes to what the whole call comes to. -/
theorem Run.comesTo_of_left (run : workload.Run start trace site threads) {number : Nat}
    {thread : workload.Thread} (begun : threads[number]? = some thread) {rest : List Site}
    {answer : workload.Answer thread.call} (left : thread.left.ComesTo rest answer) :
    (workload.program thread.call).ComesTo (found trace number ++ rest) answer := by
  induction run generalizing number thread rest with
  | start => simp at begun
  | @begins trace site other threads run call admitted ih =>
      rw [found, Trace.steps_append, Trace.steps_begins, List.append_nil]
      rcases getElem?_snoc_cases begun with ⟨-, early⟩ | ⟨rfl, rfl⟩
      · exact ih early left
      · rw [run.steps_eq_nil (Nat.le_refl _)]
        exact left
  | @takes trace site threads mover call wait act next run stood ready ih =>
      rw [found, Trace.steps_append]
      rcases getElem?_set_cases begun with ⟨rfl, rfl⟩ | ⟨apart, early⟩
      · have whole := ih stood (.step ready left)
        rw [Trace.steps_takes, List.map_append, List.append_assoc]
        exact whole
      · rw [Trace.steps_takes_of_ne (Ne.symm apart), List.append_nil]
        exact ih early left
  | drifts run acts ih =>
      rw [found, Trace.steps_append, Trace.steps_drifts, List.append_nil]
      exact ih begun left

/-- In every run a call that has been answered has come to its answer by the states that
its steps have found. -/
theorem Run.comesTo (run : workload.Run start trace site threads) {number : Nat} {call : κ}
    {answer : workload.Answer call} (answered : workload.Answered threads number call answer) :
    (workload.program call).ComesTo (found trace number) answer := by
  have whole := run.comesTo_of_left answered (.done answer)
  rw [List.append_nil] at whole
  exact whole

end Workload

/-- A routine that goes on to its end comes to its value by the states on its way. -/
theorem Routine.comesTo_of_settle {κ α : Type} {number : Nat} {call : κ} {routine : Routine Site α}
    {site after : Site} {value : α} (settled : routine.settle site = (.done value, after)) :
    routine.ComesTo ((routine.events number call site).map Event.before) value := by
  induction routine generalizing site with
  | done same =>
      cases settled
      exact .done value
  | step wait act next ih =>
      rw [Routine.settle] at settled
      split at settled
      · next ready =>
          rw [Routine.events, if_pos ready]
          exact .step ready (ih site settled)
      · cases settled

end Gatehouse
