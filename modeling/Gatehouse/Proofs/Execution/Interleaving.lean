import Gatehouse.Proofs.Execution.Alone

/-!
# Calls side by side

Any number of calls run over one state. A call may begin at any time; whichever
call is ready may take the next step; and between two steps the world outside may
act. A run is recorded in the trace of its events.

Each call is carried on knowing only what held of the trace and the state when it
last acted, and that the others keep to the same. This module says what has to be
shown of a single call so that it holds of every run.
-/

namespace Gatehouse

/-! ## Runs -/

/-- Calls of several kinds over one state. -/
structure Workload (κ : Type) where
  /-- What a call is answered with. -/
  Answer : κ → Type
  program : (call : κ) → Routine Site (Answer call)
  /-- What the state becomes when a call begins, if it may begin. -/
  admits : κ → Site → Site → Prop
  /-- What the world outside may do. -/
  outside : Site → Site → Prop

/-- What happens in a run: a call begins and gets a number, a call takes a step, or
the world outside acts. -/
inductive Act (κ : Type) where
  | begins (number : Nat) (call : κ)
  | takes (number : Nat) (call : κ)
  | drifts

/-- The number of the call that takes a step. -/
def Act.stepOf? {κ : Type} : Act κ → Option Nat
  | .takes number _ => some number
  | .begins _ _ => none
  | .drifts => none

/-- An act with the states in front of it and behind it. -/
structure Event (κ : Type) where
  act : Act κ
  before : Site
  after : Site

/-- The events of a run, the first one first. -/
abbrev Trace (κ : Type) := List (Event κ)

variable {κ : Type}

/-- A call with what is left of it. -/
structure Workload.Thread (workload : Workload κ) where
  call : κ
  left : Routine Site (workload.Answer call)

/-- A call has been answered. -/
def Workload.Answered (workload : Workload κ) (threads : List workload.Thread) (number : Nat)
    (call : κ) (answer : workload.Answer call) : Prop :=
  threads[number]? = some ⟨call, .done answer⟩

/-- Every call that has begun has been answered. -/
def Workload.Finished (workload : Workload κ) (threads : List workload.Thread) : Prop :=
  ∀ number thread, threads[number]? = some thread →
    ∃ answer, workload.Answered threads number thread.call answer

/-- The runs of a workload: what has happened since the start, the state and the
calls as far as they have come, each under its number. -/
inductive Workload.Run (workload : Workload κ) (start : Site) :
    Trace κ → Site → List workload.Thread → Prop where
  | start : Run workload start [] start []
  | begins {trace : Trace κ} {site other : Site} {threads : List workload.Thread}
      (run : Run workload start trace site threads) (call : κ)
      (admitted : workload.admits call site other) :
      Run workload start (trace ++ [⟨.begins threads.length call, site, other⟩]) other
        (threads ++ [⟨call, workload.program call⟩])
  | takes {trace : Trace κ} {site : Site} {threads : List workload.Thread} {number : Nat}
      {call : κ} {wait : Wait Site} {act : Site → Site}
      {next : Site → Routine Site (workload.Answer call)}
      (run : Run workload start trace site threads)
      (found : threads[number]? = some ⟨call, .step wait act next⟩)
      (ready : wait.ready site = true) :
      Run workload start (trace ++ [⟨.takes number call, site, act site⟩]) (act site)
        (threads.set number ⟨call, next site⟩)
  | drifts {trace : Trace κ} {site other : Site} {threads : List workload.Thread}
      (run : Run workload start trace site threads) (acts : workload.outside site other) :
      Run workload start (trace ++ [⟨.drifts, site, other⟩]) other threads

/-- A call that has begun stays where it is when another one begins. -/
theorem Workload.getElem?_snoc {workload : Workload κ} {threads : List workload.Thread}
    {number : Nat} {thread : workload.Thread} (found : threads[number]? = some thread)
    (begun : workload.Thread) : (threads ++ [begun])[number]? = some thread := by
  rw [List.getElem?_append_left (List.getElem?_eq_some_iff.mp found).1, found]

/-- When a call has begun, the others are those that had begun before. -/
theorem Workload.getElem?_snoc_cases {workload : Workload κ} {threads : List workload.Thread}
    {number : Nat} {begun thread : workload.Thread}
    (found : (threads ++ [begun])[number]? = some thread) :
    number < threads.length ∧ threads[number]? = some thread ∨
      number = threads.length ∧ thread = begun := by
  rw [List.getElem?_append] at found
  split at found
  · next early => exact .inl ⟨early, found⟩
  · rw [List.getElem?_singleton] at found
    split at found
    · exact .inr ⟨by omega, (Option.some.inj found).symm⟩
    · contradiction

/-- After a step of one call, it has come further and the others have not. -/
theorem Workload.getElem?_set_cases {workload : Workload κ} {threads : List workload.Thread}
    {number other : Nat} {stepped thread : workload.Thread}
    (found : (threads.set number stepped)[other]? = some thread) :
    other = number ∧ thread = stepped ∨ other ≠ number ∧ threads[other]? = some thread := by
  rw [List.getElem?_set] at found
  split at found
  · next same =>
      split at found
      · exact .inl ⟨same.symm, (Option.some.inj found).symm⟩
      · contradiction
  · next apart => exact .inr ⟨Ne.symm apart, found⟩

/-- A call that has been answered takes no further step. -/
theorem Workload.Answered.set {workload : Workload κ} {threads : List workload.Thread}
    {number other : Nat} {call mover : κ} {answer : workload.Answer call} {wait : Wait Site}
    {act : Site → Site} {next : Site → Routine Site (workload.Answer mover)}
    (answered : workload.Answered threads number call answer)
    (found : threads[other]? = some ⟨mover, .step wait act next⟩) (stepped : workload.Thread) :
    workload.Answered (threads.set other stepped) number call answer := by
  rw [Answered, List.getElem?_set_ne, answered]
  rintro rfl
  rw [answered] at found
  cases found

/-! ## The steps of one call -/

namespace Trace

variable {number : Nat} {now later : Trace κ}

/-- The steps of the call with a number. -/
def steps (number : Nat) (trace : Trace κ) : List (Event κ) :=
  trace.filter fun event => event.act.stepOf? == some number

@[simp] theorem steps_nil : steps number ([] : Trace κ) = [] := rfl

@[simp] theorem steps_append (early late : Trace κ) :
    steps number (early ++ late) = steps number early ++ steps number late :=
  List.filter_append ..

@[simp] theorem steps_takes (call : κ) (before after : Site) :
    steps number [⟨.takes number call, before, after⟩] = [⟨.takes number call, before, after⟩] := by
  simp [steps, Act.stepOf?]

theorem steps_takes_of_ne {other : Nat} (apart : other ≠ number) (call : κ) (before after : Site) :
    steps number [⟨.takes other call, before, after⟩] = [] := by
  simp [steps, Act.stepOf?, apart]

@[simp] theorem steps_begins (other : Nat) (call : κ) (before after : Site) :
    steps number [⟨.begins other call, before, after⟩] = [] := rfl

@[simp] theorem steps_drifts (before after : Site) :
    steps number ([⟨.drifts, before, after⟩] : Trace κ) = [] := rfl

theorem mem_steps {trace : Trace κ} {event : Event κ} :
    event ∈ steps number trace ↔ event ∈ trace ∧ event.act.stepOf? = some number := by
  simp [steps]

theorem steps_mono (grows : now <+: later) : now.steps number <+: later.steps number :=
  grows.filter _

/-- Two places in a trace are one place, or one of them lies in front of the other. -/
theorem place_cases {early late front back : Trace κ} {event other : Event κ}
    (split : early ++ event :: late = front ++ other :: back) :
    (front = early ∧ other = event ∧ back = late) ∨
      (∃ between, front = early ++ event :: between ∧ late = between ++ other :: back) ∨
        ∃ between, early = front ++ other :: between ∧ back = between ++ event :: late := by
  rcases List.append_eq_append_iff.mp split with ⟨between, rfl, shift⟩ | ⟨between, rfl, shift⟩
  · cases between with
    | nil =>
        obtain ⟨rfl, rfl⟩ := List.cons.inj shift
        exact .inl ⟨by simp, rfl, rfl⟩
    | cons head rest =>
        obtain ⟨rfl, rfl⟩ := List.cons.inj shift
        exact .inr (.inl ⟨rest, rfl, rfl⟩)
  · cases between with
    | nil =>
        obtain ⟨rfl, rfl⟩ := List.cons.inj shift
        exact .inl ⟨by simp, rfl, rfl⟩
    | cons head rest =>
        obtain ⟨rfl, rfl⟩ := List.cons.inj shift
        exact .inr (.inr ⟨rest, rfl, rfl⟩)

/-- A place in a trace that has just grown is that of the last event or an earlier one. -/
theorem snoc_cases {trace early late : Trace κ} {event shown : Event κ}
    (split : trace ++ [event] = early ++ shown :: late) :
    (early = trace ∧ shown = event ∧ late = []) ∨
      ∃ front, late = front ++ [event] ∧ trace = early ++ shown :: front := by
  rcases place_cases split with same | ⟨between, -, ended⟩ | ⟨between, same, last⟩
  · exact .inl same
  · simp at ended
  · exact .inr ⟨between, last, same⟩

/-- A step of a call is found by the steps of the call in front of it. -/
theorem split_eq_of_steps {early late front back : Trace κ} {event other : Event κ}
    (split : early ++ event :: late = front ++ other :: back)
    (own : event.act.stepOf? = some number) (also : other.act.stepOf? = some number)
    (same : steps number early = steps number front) : front = early ∧ other = event := by
  have single : ∀ shown : Event κ, shown.act.stepOf? = some number →
      ∀ rest, steps number (shown :: rest) ≠ [] := by
    intro shown own rest
    exact List.ne_nil_of_mem (mem_steps.mpr ⟨List.mem_cons_self, own⟩)
  rcases place_cases split with ⟨rfl, rfl, -⟩ | ⟨between, rfl, -⟩ | ⟨between, rfl, -⟩
  · exact ⟨rfl, rfl⟩
  · rw [steps_append, List.self_eq_append_right] at same
    exact absurd same (single event own between)
  · rw [steps_append, List.append_right_eq_self] at same
    exact absurd same (single other also between)

/-- The trace grows, but not by steps of the call with the number. -/
def Waits (number : Nat) (now later : Trace κ) : Prop :=
  ∃ others, later = now ++ others ∧ ∀ event ∈ others, event.act.stepOf? ≠ some number

namespace Waits

theorem refl (number : Nat) (now : Trace κ) : now.Waits number now :=
  ⟨[], by simp, by simp⟩

theorem snoc (waits : now.Waits number later) {event : Event κ}
    (other : event.act.stepOf? ≠ some number) : now.Waits number (later ++ [event]) := by
  obtain ⟨others, rfl, quiet⟩ := waits
  refine ⟨others ++ [event], by simp, ?_⟩
  intro shown member
  rcases List.mem_append.mp member with early | last
  · exact quiet shown early
  · rw [List.mem_singleton.mp last]
    exact other

/-- A call that waits has the steps that it had. -/
theorem steps_eq (waits : now.Waits number later) : later.steps number = now.steps number := by
  obtain ⟨others, rfl, quiet⟩ := waits
  have none : others.steps number = [] := by
    rw [steps, List.filter_eq_nil_iff]
    intro event member same
    exact quiet event member (beq_iff_eq.mp same)
  rw [steps_append, none, List.append_nil]

theorem isPrefix (waits : now.Waits number later) : now <+: later := by
  obtain ⟨others, rfl, -⟩ := waits
  exact List.prefix_append now others

/-- The steps of a call that waits lie where they lay. -/
theorem split (waits : now.Waits number later) {early late : Trace κ} {event : Event κ}
    (found : later = early ++ event :: late) (own : event.act.stepOf? = some number) :
    ∃ more, now = early ++ event :: more := by
  obtain ⟨others, rfl, quiet⟩ := waits
  rcases List.append_eq_append_iff.mp found with ⟨between, rfl, rest⟩ | ⟨between, rfl, rest⟩
  · exact absurd own (quiet event (by simp [rest]))
  · cases between with
    | nil =>
        rw [List.nil_append] at rest
        exact absurd own (quiet event (by rw [← rest]; exact List.mem_cons_self))
    | cons head more =>
        obtain ⟨rfl, -⟩ := List.cons.inj rest
        exact ⟨more, rfl⟩

theorem prefix_snoc (waits : now.Waits number later) (event : Event κ) :
    now <+: later ++ [event] :=
  waits.isPrefix.trans (List.prefix_append later _)

end Waits

end Trace

/-! ## What one call has to keep to -/

/-- Whatever others do while it waits, as long as they keep to it too, each step of
a routine leads from what holds to what holds, and in the end the trace and the
result are related. Only traces that are allowed are looked at. -/
def Routine.Follows {α : Type} (number : Nat) (call : κ) (allowed : Trace κ → Prop)
    (holds : Trace κ → Site → Prop) (post : Trace κ → α → Prop) : Routine Site α → Trace κ → Prop
  | .done value, now => post now value
  | .step wait act next, now =>
      ∀ later site, now.Waits number later → holds later site → wait.ready site = true →
        allowed (later ++ [⟨.takes number call, site, act site⟩]) →
          holds (later ++ [⟨.takes number call, site, act site⟩]) (act site) ∧
            (next site).Follows number call allowed holds post
              (later ++ [⟨.takes number call, site, act site⟩])

namespace Routine

variable {α β : Type} {number : Nat} {call : κ} {allowed : Trace κ → Prop}
  {holds : Trace κ → Site → Prop} {post : Trace κ → α → Prop} {now : Trace κ}

theorem follows_bind {routine : Routine Site α} {next : α → Routine Site β}
    {final : Trace κ → β → Prop}
    (first : routine.Follows number call allowed holds post now)
    (rest : ∀ value later, post later value →
      (next value).Follows number call allowed holds final later) :
    (routine.bind next).Follows number call allowed holds final now := by
  induction routine generalizing now with
  | done value => exact rest value now first
  | step wait act further ih =>
      intro later site waits held ready permitted
      have stepped := first later site waits held ready permitted
      exact ⟨stepped.1, ih site stepped.2⟩

theorem follows_mono {routine : Routine Site α} {weaker : Trace κ → α → Prop}
    (follows : routine.Follows number call allowed holds post now)
    (implies : ∀ later value, post later value → weaker later value) :
    routine.Follows number call allowed holds weaker now := by
  induction routine generalizing now with
  | done value => exact implies now value follows
  | step wait act further ih =>
      intro later site waits held ready permitted
      have stepped := follows later site waits held ready permitted
      exact ⟨stepped.1, ih site stepped.2⟩

/-- What a routine comes to, it comes to later. -/
theorem follows_later {routine : Routine Site α} {since : Trace κ}
    (follows : routine.Follows number call allowed holds post now) (begun : since <+: now) :
    routine.Follows number call allowed holds
      (fun later value => since <+: later ∧ post later value) now := by
  induction routine generalizing now with
  | done value => exact ⟨begun, follows⟩
  | step wait act further ih =>
      intro later site waits held ready permitted
      have stepped := follows later site waits held ready permitted
      exact ⟨stepped.1, ih site stepped.2 (begun.trans (waits.prefix_snoc _))⟩

/-- A single step. -/
theorem follows_after {wait : Wait Site} {act : Site → α × Site}
    (step : ∀ later site, now.Waits number later → holds later site → wait.ready site = true →
      allowed (later ++ [⟨.takes number call, site, (act site).2⟩]) →
        holds (later ++ [⟨.takes number call, site, (act site).2⟩]) (act site).2 ∧
          post (later ++ [⟨.takes number call, site, (act site).2⟩]) (act site).1) :
    (after wait act).Follows number call allowed holds post now :=
  step

theorem follows_atomically {act : Site → α × Site}
    (step : ∀ later site, now.Waits number later → holds later site →
      allowed (later ++ [⟨.takes number call, site, (act site).2⟩]) →
        holds (later ++ [⟨.takes number call, site, (act site).2⟩]) (act site).2 ∧
          post (later ++ [⟨.takes number call, site, (act site).2⟩]) (act site).1) :
    (atomically act).Follows number call allowed holds post now :=
  fun later site waits held _ permitted => step later site waits held permitted

theorem follows_observe {view : Site → α}
    (step : ∀ later site, now.Waits number later → holds later site →
      allowed (later ++ [⟨.takes number call, site, site⟩]) →
        holds (later ++ [⟨.takes number call, site, site⟩]) site ∧
          post (later ++ [⟨.takes number call, site, site⟩]) (view site)) :
    (observe view).Follows number call allowed holds post now :=
  fun later site waits held _ permitted => step later site waits held permitted

theorem follows_change {act : Site → Site} {post : Trace κ → Unit → Prop}
    (step : ∀ later site, now.Waits number later → holds later site →
      allowed (later ++ [⟨.takes number call, site, act site⟩]) →
        holds (later ++ [⟨.takes number call, site, act site⟩]) (act site) ∧
          post (later ++ [⟨.takes number call, site, act site⟩]) ()) :
    (change act).Follows number call allowed holds post now :=
  fun later site waits held _ permitted => step later site waits held permitted

end Routine

/-- A task in front of another one: what follows a fault is the fault itself. -/
theorem Task.follows_bind {φ α β : Type} {number : Nat} {call : κ} {allowed : Trace κ → Prop}
    {holds : Trace κ → Site → Prop} {now : Trace κ} {post : Trace κ → Except φ α → Prop}
    {final : Trace κ → Except φ β → Prop} {task : Task φ α} {next : α → Task φ β}
    (first : task.toRoutine.Follows number call allowed holds post now)
    (rest : ∀ value later, post later (.ok value) →
      (next value).toRoutine.Follows number call allowed holds final later)
    (failed : ∀ fault later, post later (.error fault) → final later (.error fault)) :
    (task >>= next).toRoutine.Follows number call allowed holds final now := by
  apply Routine.follows_bind first
  intro outcome later known
  cases outcome with
  | ok value => exact rest value later known
  | error fault => exact failed fault later known

/-- A routine in front of a task: it does not fail. -/
theorem Task.follows_lift_bind {φ α β : Type} {number : Nat} {call : κ}
    {allowed : Trace κ → Prop} {holds : Trace κ → Site → Prop} {now : Trace κ}
    {post : Trace κ → α → Prop} {final : Trace κ → Except φ β → Prop} {routine : Routine Site α}
    {next : α → Task φ β} (first : routine.Follows number call allowed holds post now)
    (rest : ∀ value later, post later value →
      (next value).toRoutine.Follows number call allowed holds final later) :
    ((liftM routine : Task φ α) >>= next).toRoutine.Follows number call allowed holds final
      now := by
  have lifted : (liftM routine : Task φ α).toRoutine.Follows number call allowed holds
      (fun later outcome => ∃ value, outcome = .ok value ∧ post later value) now :=
    Routine.follows_bind first fun value later known => ⟨value, rfl, known⟩
  apply Task.follows_bind lifted
  · rintro value later ⟨same, succeeded, known⟩
    rw [Except.ok.inj succeeded]
    exact rest same later known
  · rintro fault later ⟨value, failed, -⟩
    injection failed

/-- The faults of a task seen as other faults. -/
theorem Task.follows_mapFault {φ ψ α : Type} {number : Nat} {call : κ} {allowed : Trace κ → Prop}
    {holds : Trace κ → Site → Prop} {now : Trace κ} {post : Trace κ → Except φ α → Prop}
    {final : Trace κ → Except ψ α → Prop} {task : Task φ α} {convert : φ → ψ}
    (follows : task.toRoutine.Follows number call allowed holds post now)
    (implies : ∀ outcome later, post later outcome → final later (outcome.mapError convert)) :
    (task.mapFault convert).toRoutine.Follows number call allowed holds final now :=
  Routine.follows_bind follows fun outcome later known => implies outcome later known

theorem Task.follows_mapFault_bind {φ ψ α β : Type} {number : Nat} {call : κ}
    {allowed : Trace κ → Prop} {holds : Trace κ → Site → Prop} {now : Trace κ}
    {post : Trace κ → Except φ α → Prop} {final : Trace κ → Except ψ β → Prop} {task : Task φ α}
    {convert : φ → ψ} {next : α → Task ψ β}
    (first : task.toRoutine.Follows number call allowed holds post now)
    (rest : ∀ value later, post later (.ok value) →
      (next value).toRoutine.Follows number call allowed holds final later)
    (failed : ∀ fault later, post later (.error fault) → final later (.error (convert fault))) :
    (task.mapFault convert >>= next).toRoutine.Follows number call allowed holds final now := by
  have mapped : (task.mapFault convert).toRoutine.Follows number call allowed holds
      (fun later outcome => ∃ before, outcome = before.mapError convert ∧ post later before) now :=
    Task.follows_mapFault first fun before later known => ⟨before, rfl, known⟩
  apply Task.follows_bind mapped
  · rintro value later ⟨before, same, known⟩
    cases before with
    | ok value =>
        obtain rfl := Except.ok.inj same
        exact rest _ later known
    | error fault => injection same
  · rintro fault later ⟨before, same, known⟩
    cases before with
    | ok value => injection same
    | error fault =>
        obtain rfl := Except.error.inj same
        exact failed _ later known

/-! ## Calls of a store -/

/-- A store is asked for something. -/
def Event.Asks (event : Event κ) (backend : Backend) : Prop :=
  event.after.calls backend = event.before.calls backend + 1

@[simp] theorem Event.asks_countCall {act : Act κ} {site : Site} {backend other : Backend} :
    Asks ⟨act, site, site.countCall backend⟩ other ↔ other = backend := by
  simp [Asks, Site.countCall]

theorem Event.not_asks_of_same {act : Act κ} {before after : Site} {backend : Backend}
    (same : after.calls = before.calls) : ¬ Asks ⟨act, before, after⟩ backend := by
  simp [Asks, same]

/-- The stores and the clock are as they were. -/
structure SameStores (site other : Site) : Prop where
  clock : other.clock = site.clock
  conditions : other.conditions = site.conditions
  rules : other.rules = site.rules
  cache : other.cache = site.cache

/-- The answer of a store that was called at an instant, in a condition. -/
def storeAnswer {α : Type} (operation : String) (limit : Span) (called : Nat)
    (condition : Condition) (act : Site → Except StoreFault α × Site) (site : Site) :
    Except StoreFault α × Site :=
  if site.clock < called + condition.delay.nanos then
    (.error (.timeout operation limit.millis), site)
  else
    match condition.failure with
    | some fault => (.error fault, site)
    | none => act site

/-- A store that answers in time does what it is asked for. -/
theorem storeAnswer_of_answers {α : Type} {operation : String} {limit : Span} {called : Nat}
    {condition : Condition} {act : Site → Except StoreFault α × Site} {site : Site}
    (answers : condition.Answers limit)
    (woken : called + min condition.delay.nanos limit.nanos ≤ site.clock) :
    storeAnswer operation limit called condition act site = act site := by
  have inTime := answers.1
  rw [storeAnswer, if_neg (by omega), answers.2]

/-- A store that does not do what it is asked for leaves the state alone. -/
theorem storeAnswer_cases {α : Type} (operation : String) (limit : Span) (called : Nat)
    (condition : Condition) (act : Site → Except StoreFault α × Site) (site : Site) :
    (∃ fault, storeAnswer operation limit called condition act site = (.error fault, site)) ∨
      storeAnswer operation limit called condition act site = act site := by
  rw [storeAnswer]
  split
  · exact .inl ⟨_, rfl⟩
  · split
    · exact .inl ⟨_, rfl⟩
    · exact .inr rfl

/-- A call of a store is two steps: it is counted, and later it is answered. -/
theorem Routine.follows_callStore {α : Type} {number : Nat} {call : κ} {allowed : Trace κ → Prop}
    {holds : Trace κ → Site → Prop} {post : Trace κ → Except StoreFault α → Prop} {now : Trace κ}
    {operation : String} {limit : Span} {backend : Backend}
    {act : Site → Except StoreFault α × Site}
    (counted : ∀ later site, now.Waits number later → holds later site →
      allowed (later ++ [⟨.takes number call, site, site.countCall backend⟩]) →
        holds (later ++ [⟨.takes number call, site, site.countCall backend⟩])
          (site.countCall backend))
    (answered : ∀ asking called later site, now.Waits number asking → holds asking called →
      Trace.Waits number (asking ++ [⟨.takes number call, called, called.countCall backend⟩])
          later → holds later site →
        called.clock + min (called.conditions backend).delay.nanos limit.nanos ≤ site.clock →
        ∀ answer, answer = storeAnswer operation limit called.clock (called.conditions backend)
            act site →
          allowed (later ++ [⟨.takes number call, site, answer.2⟩]) →
            holds (later ++ [⟨.takes number call, site, answer.2⟩]) answer.2 ∧
              post (later ++ [⟨.takes number call, site, answer.2⟩]) answer.1) :
    (callStore operation limit backend act).toRoutine.Follows number call allowed holds post
      now := by
  intro asking called waits held _ permitted
  refine ⟨counted asking called waits held permitted, ?_⟩
  apply Routine.follows_after
  intro later site further kept ready permitted
  exact answered asking called later site waits held further kept (of_decide_eq_true ready) _ rfl
    permitted

/-- A call of a store that, as long as it holds what holds, answers in time. -/
theorem Routine.follows_callStore_of_answers {α : Type} {number : Nat} {call : κ}
    {allowed : Trace κ → Prop} {holds : Trace κ → Site → Prop}
    {post : Trace κ → Except StoreFault α → Prop} {now : Trace κ} {operation : String}
    {limit : Span} {backend : Backend} {act : Site → Except StoreFault α × Site}
    (answers : ∀ later site, holds later site → (site.conditions backend).Answers limit)
    (counted : ∀ later site, now.Waits number later → holds later site →
      allowed (later ++ [⟨.takes number call, site, site.countCall backend⟩]) →
        holds (later ++ [⟨.takes number call, site, site.countCall backend⟩])
          (site.countCall backend))
    (answered : ∀ asking called later site, now.Waits number asking →
      Trace.Waits number (asking ++ [⟨.takes number call, called, called.countCall backend⟩])
          later → holds later site →
        allowed (later ++ [⟨.takes number call, site, (act site).2⟩]) →
          holds (later ++ [⟨.takes number call, site, (act site).2⟩]) (act site).2 ∧
            post (later ++ [⟨.takes number call, site, (act site).2⟩]) (act site).1) :
    (callStore operation limit backend act).toRoutine.Follows number call allowed holds post
      now := by
  apply Routine.follows_callStore counted
  intro asking called later site waits asked further held woken answer came permitted
  rw [storeAnswer_of_answers (answers asking called asked) woken] at came
  subst came
  exact answered asking called later site waits further held permitted

/-! ## What holds of every run -/

namespace Workload

variable {workload : Workload κ} {start site : Site} {trace : Trace κ}
  {threads : List workload.Thread} {allowed : Trace κ → Prop} {holds : Trace κ → Site → Prop}
  {post : Nat → (call : κ) → Trace κ → workload.Answer call → Prop}

/-- Steps are taken by calls that have begun. -/
theorem Run.steps_eq_nil (run : workload.Run start trace site threads) {number : Nat}
    (unused : threads.length ≤ number) : trace.steps number = [] := by
  induction run with
  | start => rfl
  | begins run call admitted ih =>
      rw [List.length_append] at unused
      rw [Trace.steps_append, Trace.steps_begins, ih (by omega), List.append_nil]
  | @takes trace site threads other call wait act next run found ready ih =>
      rw [List.length_set] at unused
      have begun := (List.getElem?_eq_some_iff.mp found).1
      rw [Trace.steps_append, Trace.steps_takes_of_ne (by omega), ih unused, List.append_nil]
  | drifts run acts ih =>
      rw [Trace.steps_append, Trace.steps_drifts, ih unused, List.append_nil]

/-- The steps of a call are its own. -/
theorem Run.act_of_mem_steps (run : workload.Run start trace site threads) {number : Nat}
    {thread : workload.Thread} (begun : threads[number]? = some thread) {event : Event κ}
    (own : event ∈ trace.steps number) : event.act = .takes number thread.call := by
  induction run generalizing thread with
  | start => contradiction
  | @begins trace site other threads run call admitted ih =>
      rw [Trace.steps_append, Trace.steps_begins, List.append_nil] at own
      rcases getElem?_snoc_cases begun with ⟨-, early⟩ | ⟨rfl, -⟩
      · exact ih early own
      · rw [run.steps_eq_nil (Nat.le_refl _)] at own
        contradiction
  | @takes trace site threads mover call wait act next run found ready ih =>
      rw [Trace.steps_append] at own
      rcases getElem?_set_cases begun with ⟨rfl, rfl⟩ | ⟨apart, early⟩
      · rw [Trace.steps_takes] at own
        rcases List.mem_append.mp own with before | last
        · have same := ih found before
          exact same
        · rw [List.mem_singleton.mp last]
      · rw [Trace.steps_takes_of_ne (Ne.symm apart), List.append_nil] at own
        exact ih early own
  | drifts run acts ih =>
      rw [Trace.steps_append, Trace.steps_drifts, List.append_nil] at own
      exact ih begun own

/-- What lies in front of an event is a run, which has come to the state that the event
finds. -/
theorem Run.in_front (run : workload.Run start trace site threads) {early late : Trace κ}
    {event : Event κ} (split : trace = early ++ event :: late) :
    ∃ threads, workload.Run start early event.before threads := by
  induction run generalizing late with
  | start => simp at split
  | begins run call admitted ih =>
      rcases Trace.snoc_cases split with ⟨rfl, rfl, -⟩ | ⟨front, -, earlier⟩
      · exact ⟨_, run⟩
      · exact ih earlier
  | takes run found ready ih =>
      rcases Trace.snoc_cases split with ⟨rfl, rfl, -⟩ | ⟨front, -, earlier⟩
      · exact ⟨_, run⟩
      · exact ih earlier
  | drifts run acts ih =>
      rcases Trace.snoc_cases split with ⟨rfl, rfl, -⟩ | ⟨front, -, earlier⟩
      · exact ⟨_, run⟩
      · exact ih earlier

/-- What holds at the start and is kept by the world outside and by every call. -/
structure Sustains (workload : Workload κ) (start : Site) (allowed : Trace κ → Prop)
    (holds : Trace κ → Site → Prop)
    (post : Nat → (call : κ) → Trace κ → workload.Answer call → Prop) : Prop where
  start : holds [] start
  outside : ∀ trace site other, holds trace site → workload.outside site other →
    allowed (trace ++ [⟨.drifts, site, other⟩]) → holds (trace ++ [⟨.drifts, site, other⟩]) other
  begins : ∀ trace site number call other, trace.steps number = [] → holds trace site →
    workload.admits call site other → allowed (trace ++ [⟨.begins number call, site, other⟩]) →
      holds (trace ++ [⟨.begins number call, site, other⟩]) other ∧
        (workload.program call).Follows number call allowed holds (post number call)
          (trace ++ [⟨.begins number call, site, other⟩])

/-- In every run whose trace is allowed, it holds what is sustained, and every call
has kept to it so far. -/
theorem Run.sustained (run : workload.Run start trace site threads)
    (sustains : workload.Sustains start allowed holds post)
    (closed : ∀ early late, allowed (early ++ late) → allowed early) (permitted : allowed trace) :
    holds trace site ∧ ∀ number thread, threads[number]? = some thread →
      ∃ now, Trace.Waits number now trace ∧
        thread.left.Follows number thread.call allowed holds (post number thread.call) now := by
  induction run with
  | start => exact ⟨sustains.start, by simp⟩
  | @begins trace site other threads run call admitted ih =>
      have before := ih (closed _ _ permitted)
      have begun := sustains.begins trace site threads.length call other
        (run.steps_eq_nil (Nat.le_refl _)) before.1 admitted permitted
      refine ⟨begun.1, ?_⟩
      intro number thread found
      rcases getElem?_snoc_cases found with ⟨-, found⟩ | ⟨rfl, rfl⟩
      · obtain ⟨now, waits, follows⟩ := before.2 number thread found
        exact ⟨now, waits.snoc (by simp [Act.stepOf?]), follows⟩
      · exact ⟨_, .refl _ _, begun.2⟩
  | @takes trace site threads number call wait act next run found ready ih =>
      have before := ih (closed _ _ permitted)
      obtain ⟨now, waits, follows⟩ := before.2 number _ found
      have stepped := follows trace site waits before.1 ready permitted
      refine ⟨stepped.1, ?_⟩
      intro other thread shown
      rcases getElem?_set_cases shown with ⟨rfl, rfl⟩ | ⟨apart, shown⟩
      · exact ⟨_, .refl _ _, stepped.2⟩
      · obtain ⟨now, waits, follows⟩ := before.2 other thread shown
        exact ⟨now, waits.snoc (by simpa [Act.stepOf?] using Ne.symm apart), follows⟩
  | drifts run acts ih =>
      have before := ih (closed _ _ permitted)
      refine ⟨sustains.outside _ _ _ before.1 acts permitted, ?_⟩
      intro number thread found
      obtain ⟨now, waits, follows⟩ := before.2 number thread found
      exact ⟨now, waits.snoc (by simp [Act.stepOf?]), follows⟩

/-- What a call was answered with is related to the trace up to its last step. -/
theorem Run.answered (run : workload.Run start trace site threads)
    (sustains : workload.Sustains start allowed holds post)
    (closed : ∀ early late, allowed (early ++ late) → allowed early) (permitted : allowed trace)
    {number : Nat} {call : κ} {answer : workload.Answer call}
    (answered : workload.Answered threads number call answer) :
    ∃ now, Trace.Waits number now trace ∧ post number call now answer :=
  (run.sustained sustains closed permitted).2 number _ answered

end Workload

/-! ## Making runs -/

/-- The events of a call that goes on until it has to wait. -/
def Routine.events {α : Type} (number : Nat) (call : κ) : Routine Site α → Site → Trace κ
  | .done _, _ => []
  | .step wait act next, site =>
      if wait.ready site then
        ⟨.takes number call, site, act site⟩ :: (next site).events number call (act site)
      else []

theorem Routine.act_of_mem_events {α : Type} {number : Nat} {call : κ} {routine : Routine Site α}
    {site : Site} {event : Event κ} (member : event ∈ routine.events number call site) :
    event.act = .takes number call := by
  induction routine generalizing site with
  | done value => contradiction
  | step wait act next ih =>
      rw [events] at member
      split at member
      · rcases List.mem_cons.mp member with rfl | further
        · rfl
        · exact ih site further
      · contradiction

namespace Workload

variable {workload : Workload κ} {start site : Site} {trace : Trace κ}
  {threads : List workload.Thread}

/-- A call that goes on until it has to wait is a part of a run. -/
theorem Run.settle {call : κ} {left : Routine Site (workload.Answer call)}
    (run : workload.Run start trace site threads) (number : Nat)
    (found : threads[number]? = some ⟨call, left⟩) :
    workload.Run start (trace ++ left.events number call site) (left.settle site).2
      (threads.set number ⟨call, (left.settle site).1⟩) := by
  induction left generalizing trace site threads with
  | done value =>
      obtain ⟨bound, same⟩ := List.getElem?_eq_some_iff.mp found
      rw [Routine.settle, Routine.events, ← same, List.set_getElem_self, List.append_nil]
      exact run
  | step wait act next ih =>
      obtain ⟨bound, same⟩ := List.getElem?_eq_some_iff.mp found
      rw [Routine.settle, Routine.events]
      split
      · next ready =>
          have further := ih site (run.takes found ready) (by rw [List.getElem?_set_self bound])
          rw [List.set_set, List.append_assoc] at further
          exact further
      · rw [← same, List.set_getElem_self, List.append_nil]
        exact run

/-- A call that goes on to its end is answered. -/
theorem Run.settle_answered {call : κ} {left : Routine Site (workload.Answer call)}
    {answer : workload.Answer call} {after : Site} (run : workload.Run start trace site threads)
    (number : Nat) (found : threads[number]? = some ⟨call, left⟩)
    (settled : left.settle site = (.done answer, after)) :
    workload.Run start (trace ++ left.events number call site) after
      (threads.set number ⟨call, .done answer⟩) := by
  have further := run.settle number found
  rw [settled] at further
  exact further

end Workload

/-- A routine that goes on to its end leaves the rest to what follows. -/
theorem Routine.settle_bind {σ α β : Type} {routine : Routine σ α} {state after : σ} {value : α}
    (settled : routine.settle state = (.done value, after)) (next : α → Routine σ β) :
    (routine.bind next).settle state = (next value).settle after := by
  induction routine generalizing state with
  | done same =>
      cases settled
      rfl
  | step wait act rest ih =>
      rw [Routine.settle] at settled
      split at settled
      · next ready =>
          rw [Routine.bind, Routine.settle, if_pos ready]
          exact ih state settled
      · cases settled

/-- The events of a routine that goes on to its end stand in front of those of what follows. -/
theorem Routine.events_bind {α β : Type} {number : Nat} {call : κ} {routine : Routine Site α}
    {state after : Site} {value : α} (settled : routine.settle state = (.done value, after))
    (next : α → Routine Site β) :
    (routine.bind next).events number call state =
      routine.events number call state ++ (next value).events number call after := by
  induction routine generalizing state with
  | done same =>
      cases settled
      rfl
  | step wait act rest ih =>
      rw [Routine.settle] at settled
      split at settled
      · next ready =>
          rw [Routine.bind, events, events, if_pos ready, if_pos ready, ih state settled]
          rfl
      · cases settled

theorem Routine.settle_after {σ α : Type} {wait : Wait σ} {act : σ → α × σ} {state : σ}
    (ready : wait.ready state = true) :
    (after wait act).settle state = (.done (act state).1, (act state).2) := by
  rw [after, settle, if_pos ready]
  rfl

/-- A store that answers at once is not waited for. -/
theorem settle_callStore {α : Type} {operation : String} {limit : Span} {backend : Backend}
    {act : Site → Except StoreFault α × Site} {site : Site}
    (sound : site.conditions backend = .sound) :
    (callStore operation limit backend act).toRoutine.settle site =
      (.done (act (site.countCall backend)).1, (act (site.countCall backend)).2) := by
  have woken : site.clock + min (site.conditions backend).delay.nanos limit.nanos ≤
      (site.countCall backend).clock := by
    rw [sound]
    exact Nat.le_of_eq (by simp [Condition.sound, Site.countCall])
  have answers : (site.conditions backend).Answers limit := by
    rw [sound]
    exact ⟨Nat.zero_le _, rfl⟩
  have answer := @storeAnswer_of_answers α operation limit _ _ act _ answers woken
  rw [← answer]
  exact Routine.settle_after (decide_eq_true woken)

end Gatehouse
