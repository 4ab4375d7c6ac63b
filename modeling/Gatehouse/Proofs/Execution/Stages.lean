import Gatehouse.Proofs.Execution.Interleaving

/-!
# Calls by their own steps

How far a call has come shows in the steps that it has taken, whatever others have done in
between. An itinerary says of each place on the way of a call what the step is that may be
taken there and what the call waits for in front of it. A routine that travels by an
itinerary does so in every run.
-/

namespace Gatehouse

variable {κ : Type}

/-- What is laid down for a call that has taken some steps: the step that is next, and the
wait in front of it. -/
structure Itinerary (κ : Type) where
  leg : List (Event κ) → Event κ → Prop
  halt : List (Event κ) → Wait Site → Prop

/-- Behind the steps that a call has taken, what is left of it travels by an itinerary, and
in the end its steps and its result are related. -/
def Routine.Travels {α : Type} (itinerary : Itinerary κ) (number : Nat) (call : κ)
    (post : List (Event κ) → α → Prop) : Routine Site α → List (Event κ) → Prop
  | .done value, own => post own value
  | .step wait act next, own => itinerary.halt own wait ∧
      ∀ site, wait.ready site = true →
        itinerary.leg own ⟨.takes number call, site, act site⟩ ∧
          (next site).Travels itinerary number call post
            (own ++ [⟨.takes number call, site, act site⟩])

namespace Routine

variable {α β : Type} {itinerary : Itinerary κ} {number : Nat} {call : κ}
  {post : List (Event κ) → α → Prop} {own : List (Event κ)}

theorem travels_bind {routine : Routine Site α} {next : α → Routine Site β}
    {final : List (Event κ) → β → Prop}
    (first : routine.Travels itinerary number call post own)
    (rest : ∀ value further, post further value →
      (next value).Travels itinerary number call final further) :
    (routine.bind next).Travels itinerary number call final own := by
  induction routine generalizing own with
  | done value => exact rest value own first
  | step wait act further ih =>
      refine ⟨first.1, ?_⟩
      intro site ready
      exact ⟨(first.2 site ready).1, ih site (first.2 site ready).2⟩

/-- A single step. -/
theorem travels_after {wait : Wait Site} {act : Site → α × Site}
    (halts : itinerary.halt own wait)
    (step : ∀ site, wait.ready site = true →
      itinerary.leg own ⟨.takes number call, site, (act site).2⟩ ∧
        post (own ++ [⟨.takes number call, site, (act site).2⟩]) (act site).1) :
    (after wait act).Travels itinerary number call post own :=
  ⟨halts, step⟩

theorem travels_atomically {act : Site → α × Site} (halts : itinerary.halt own .none)
    (step : ∀ site, itinerary.leg own ⟨.takes number call, site, (act site).2⟩ ∧
      post (own ++ [⟨.takes number call, site, (act site).2⟩]) (act site).1) :
    (atomically act).Travels itinerary number call post own :=
  ⟨halts, fun site _ => step site⟩

theorem travels_change {act : Site → Site} {post : List (Event κ) → Unit → Prop}
    (halts : itinerary.halt own .none)
    (step : ∀ site, itinerary.leg own ⟨.takes number call, site, act site⟩ ∧
      post (own ++ [⟨.takes number call, site, act site⟩]) ()) :
    (change act).Travels itinerary number call post own :=
  ⟨halts, fun site _ => step site⟩

end Routine

/-- A task in front of another one: what follows a fault is the fault itself. -/
theorem Task.travels_bind {φ α β : Type} {itinerary : Itinerary κ} {number : Nat} {call : κ}
    {own : List (Event κ)} {post : List (Event κ) → Except φ α → Prop}
    {final : List (Event κ) → Except φ β → Prop} {task : Task φ α} {next : α → Task φ β}
    (first : task.toRoutine.Travels itinerary number call post own)
    (rest : ∀ value further, post further (.ok value) →
      (next value).toRoutine.Travels itinerary number call final further)
    (failed : ∀ fault further, post further (.error fault) → final further (.error fault)) :
    (task >>= next).toRoutine.Travels itinerary number call final own := by
  apply Routine.travels_bind first
  intro outcome further known
  cases outcome with
  | ok value => exact rest value further known
  | error fault => exact failed fault further known

/-- A routine in front of a task: it does not fail. -/
theorem Task.travels_lift_bind {φ α β : Type} {itinerary : Itinerary κ} {number : Nat}
    {call : κ} {own : List (Event κ)} {post : List (Event κ) → α → Prop}
    {final : List (Event κ) → Except φ β → Prop} {routine : Routine Site α}
    {next : α → Task φ β} (first : routine.Travels itinerary number call post own)
    (rest : ∀ value further, post further value →
      (next value).toRoutine.Travels itinerary number call final further) :
    ((liftM routine : Task φ α) >>= next).toRoutine.Travels itinerary number call final own := by
  have lifted : (liftM routine : Task φ α).toRoutine.Travels itinerary number call
      (fun further outcome => ∃ value, outcome = .ok value ∧ post further value) own :=
    Routine.travels_bind first fun value further known => ⟨value, rfl, known⟩
  apply Task.travels_bind lifted
  · rintro value further ⟨same, succeeded, known⟩
    rw [Except.ok.inj succeeded]
    exact rest same further known
  · rintro fault further ⟨value, failed, -⟩
    injection failed

/-- A call of a store is two steps: it is counted, and when its time has come it is
answered. -/
theorem Routine.travels_callStore {α : Type} {itinerary : Itinerary κ} {number : Nat} {call : κ}
    {own : List (Event κ)} {post : List (Event κ) → Except StoreFault α → Prop}
    {operation : String} {limit : Span} {backend : Backend}
    {act : Site → Except StoreFault α × Site} (halts : itinerary.halt own .none)
    (asks : ∀ called,
      itinerary.leg own ⟨.takes number call, called, called.countCall backend⟩ ∧
        ∀ instant, itinerary.halt
          (own ++ [⟨.takes number call, called, called.countCall backend⟩]) (.for_ instant))
    (answers : ∀ called site answer, answer = storeAnswer operation limit called.clock
        (called.conditions backend) act site →
      itinerary.leg (own ++ [⟨.takes number call, called, called.countCall backend⟩])
          ⟨.takes number call, site, answer.2⟩ ∧
        post (own ++ [⟨.takes number call, called, called.countCall backend⟩,
          ⟨.takes number call, site, answer.2⟩]) answer.1) :
    (callStore operation limit backend act).toRoutine.Travels itinerary number call post own := by
  refine ⟨halts, ?_⟩
  intro called _
  refine ⟨(asks called).1, ?_⟩
  refine Routine.travels_after ((asks called).2 _) ?_
  intro site _
  rw [List.append_assoc]
  exact answers called site _ rfl

/-! ## Runs -/

theorem Trace.steps_split {number : Nat} {event : Event κ} (own : event.act.stepOf? = some number)
    (early late : Trace κ) :
    steps number (early ++ event :: late) = steps number early ++ event :: steps number late := by
  rw [steps_append]
  simp [steps, own]

theorem Trace.steps_snoc {number : Nat} {event : Event κ} (own : event.act.stepOf? = some number)
    (trace : Trace κ) : steps number (trace ++ [event]) = steps number trace ++ [event] :=
  steps_split own trace []

theorem Trace.steps_snoc_of_ne {number : Nat} {event : Event κ}
    (other : event.act.stepOf? ≠ some number) (trace : Trace κ) :
    steps number (trace ++ [event]) = steps number trace := by
  rw [steps_append]
  simp [steps, other]

/-- A step of a call stands in the trace where it stands among the steps of the call. -/
theorem Trace.split_of_steps {number : Nat} {trace : Trace κ} {front back : List (Event κ)}
    {event : Event κ} (steps : trace.steps number = front ++ event :: back) :
    ∃ early late, trace = early ++ event :: late ∧ early.steps number = front ∧
      Trace.steps number late = back := by
  obtain ⟨before, rest, rfl, early, shown⟩ := List.filter_eq_append_iff.mp steps
  obtain ⟨others, late, rfl, apart, -, behind⟩ := List.filter_eq_cons_iff.mp shown
  refine ⟨before ++ others, late, by simp, ?_, behind⟩
  have none : Trace.steps number others = [] := List.filter_eq_nil_iff.mpr apart
  rw [steps_append, none, List.append_nil]
  exact early

namespace Workload

variable {workload : Workload κ} {start site : Site} {trace : Trace κ}
  {threads : List workload.Thread} {plan : κ → Itinerary κ}
  {post : (call : κ) → List (Event κ) → workload.Answer call → Prop}

/-- The workload's calls travel, each by the itinerary laid down for it. -/
def Travels (workload : Workload κ) (plan : κ → Itinerary κ)
    (post : (call : κ) → List (Event κ) → workload.Answer call → Prop) : Prop :=
  ∀ number call, (workload.program call).Travels (plan call) number call (post call) []

/-- In every run, what is left of a call travels on behind the steps of the call. -/
theorem Run.travels (run : workload.Run start trace site threads)
    (travels : workload.Travels plan post) {number : Nat} {thread : workload.Thread}
    (begun : threads[number]? = some thread) :
    thread.left.Travels (plan thread.call) number thread.call (post thread.call)
      (trace.steps number) := by
  induction run generalizing number thread with
  | start => simp at begun
  | @begins trace site other threads run call admitted ih =>
      rw [Trace.steps_append, Trace.steps_begins, List.append_nil]
      rcases getElem?_snoc_cases begun with ⟨-, early⟩ | ⟨rfl, rfl⟩
      · exact ih early
      · rw [run.steps_eq_nil (Nat.le_refl _)]
        exact travels threads.length call
  | @takes trace site threads mover call wait act next run stood ready ih =>
      rw [Trace.steps_append]
      rcases getElem?_set_cases begun with ⟨rfl, rfl⟩ | ⟨apart, early⟩
      · rw [Trace.steps_takes]
        exact ((ih stood).2 site ready).2
      · rw [Trace.steps_takes_of_ne (Ne.symm apart), List.append_nil]
        exact ih early
  | drifts run acts ih =>
      rw [Trace.steps_append, Trace.steps_drifts, List.append_nil]
      exact ih begun

/-- A call that has taken a step is among the calls that have begun. -/
theorem Run.thread_of_mem_steps (run : workload.Run start trace site threads) {number : Nat}
    {call : κ} {event : Event κ} (own : event ∈ trace.steps number)
    (act : event.act = .takes number call) : ∃ left, threads[number]? = some ⟨call, left⟩ := by
  cases found : threads[number]? with
  | none =>
      rw [run.steps_eq_nil (List.getElem?_eq_none_iff.mp found)] at own
      contradiction
  | some thread =>
      obtain ⟨other, left⟩ := thread
      have same := run.act_of_mem_steps found own
      rw [act] at same
      obtain rfl : call = other := by
        injection same
      exact ⟨left, rfl⟩

/-- In every run, each step of a call is the one that is laid down for its place. -/
theorem Run.leg (run : workload.Run start trace site threads)
    (travels : workload.Travels plan post) {early late : Trace κ} {event : Event κ}
    {number : Nat} (split : trace = early ++ event :: late)
    (own : event.act.stepOf? = some number) :
    ∃ call, event.act = .takes number call ∧ (plan call).leg (early.steps number) event := by
  induction run generalizing late with
  | start => simp at split
  | begins run call admitted ih =>
      rcases Trace.snoc_cases split with ⟨rfl, rfl, -⟩ | ⟨front, -, earlier⟩
      · nomatch own
      · exact ih earlier
  | takes run found ready ih =>
      rcases Trace.snoc_cases split with ⟨rfl, rfl, -⟩ | ⟨front, -, earlier⟩
      · obtain rfl := Option.some.inj own
        exact ⟨_, rfl, ((run.travels travels found).2 _ ready).1⟩
      · exact ih earlier
  | drifts run acts ih =>
      rcases Trace.snoc_cases split with ⟨rfl, rfl, -⟩ | ⟨front, -, earlier⟩
      · nomatch own
      · exact ih earlier

/-- The same by the steps of the call. -/
theorem Run.leg_of_steps (run : workload.Run start trace site threads)
    (travels : workload.Travels plan post) {number : Nat} {front back : List (Event κ)}
    {event : Event κ} (steps : trace.steps number = front ++ event :: back) :
    ∃ call, event.act = .takes number call ∧ (plan call).leg front event := by
  have own : event ∈ trace.steps number := by
    rw [steps]
    simp
  obtain ⟨early, late, split, rfl, -⟩ := Trace.split_of_steps steps
  exact run.leg travels split (Trace.mem_steps.mp own).2

end Workload

end Gatehouse
