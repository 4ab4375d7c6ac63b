import Gatehouse.Proofs.Execution.Alone
import Gatehouse.Proofs.Execution.Disciplines

/-!
# Routines that keep an invariant

A routine keeps an invariant if every step of it does, whatever other routines
do between its steps as long as they keep the invariant too. What is known of
its result may depend on the invariant, but on nothing else that it saw of the
state, since the state may have changed when the result is used.
-/

namespace Gatehouse

namespace Routine

variable {σ α β : Type} {invariant : σ → Prop} {post : α → Prop}

/-- Every step of a routine keeps an invariant, and its result has a property. -/
def Keeps (invariant : σ → Prop) (post : α → Prop) : Routine σ α → Prop
  | .done value => post value
  | .step wait act next =>
      ∀ state, invariant state → wait.ready state = true →
        invariant (act state) ∧ (next state).Keeps invariant post

theorem keeps_bind {routine : Routine σ α} {next : α → Routine σ β} {final : β → Prop}
    (first : routine.Keeps invariant post)
    (rest : ∀ value, post value → (next value).Keeps invariant final) :
    (routine.bind next).Keeps invariant final := by
  induction routine with
  | done value => exact rest value first
  | step wait act further ih =>
      intro state holds ready
      have kept := first state holds ready
      exact ⟨kept.1, ih state kept.2⟩

theorem keeps_after {wait : Wait σ} {act : σ → α × σ}
    (step : ∀ state, invariant state → wait.ready state = true →
      invariant (act state).2 ∧ post (act state).1) :
    (after wait act).Keeps invariant post :=
  step

theorem keeps_atomically {act : σ → α × σ}
    (step : ∀ state, invariant state → invariant (act state).2 ∧ post (act state).1) :
    (atomically act).Keeps invariant post :=
  fun state holds _ => step state holds

theorem keeps_observe {view : σ → α} (seen : ∀ state, invariant state → post (view state)) :
    (observe view).Keeps invariant post :=
  fun state holds _ => ⟨holds, seen state holds⟩

theorem keeps_change {act : σ → σ} (step : ∀ state, invariant state → invariant (act state)) :
    (change act).Keeps invariant fun _ => True :=
  fun state holds _ => ⟨step state holds, trivial⟩

end Routine

/-- The discipline of an invariant. -/
def Discipline.keeping (invariant : Site → Prop) : Discipline where
  Holds known routine := routine.Keeps invariant known
  done result := result
  bind := Routine.keeps_bind

/-! ## Calls of a store -/

/-- A call of a store keeps what counting the call and answering it keep. Where the
store always answers, the call does not fail. -/
theorem keeps_callStore {α : Type} {operation : String} {limit : Span} {backend : Backend}
    {act : Site → Except StoreFault α × Site} {invariant : Site → Prop}
    {post : Except StoreFault α → Prop}
    (counted : ∀ site, invariant site → invariant (site.countCall backend))
    (failed : (∀ fault, post (.error fault)) ∨
      ∀ site, invariant site → (site.conditions backend).Answers limit)
    (acted : ∀ site, invariant site → invariant (act site).2 ∧ post (act site).1) :
    (callStore operation limit backend act).Obeys (.keeping invariant) post := by
  intro called holds _
  refine ⟨counted called holds, ?_⟩
  apply Routine.keeps_after
  intro site kept ready
  have woken : called.clock + min (called.conditions backend).delay.nanos limit.nanos ≤
      site.clock := of_decide_eq_true ready
  split
  · next late =>
      cases failed with
      | inl anyFault => exact ⟨kept, anyFault _⟩
      | inr answers =>
          have inTime := (answers called holds).1
          omega
  · cases failure : (called.conditions backend).failure with
    | none => exact acted site kept
    | some fault =>
        cases failed with
        | inl anyFault => exact ⟨kept, anyFault fault⟩
        | inr answers =>
            rw [(answers called holds).2] at failure
            contradiction

end Gatehouse
