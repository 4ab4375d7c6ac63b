import Gatehouse.Proofs.Policy.Turns
import Mathlib.Data.List.Nodup

/-!
# Concurrent operations on the policy

Any number of operations run side by side with any number of looks at the grants.
What comes of it is what comes of the operations one after the other, in the order
in which they began to change the policy: the outcomes, the grants and the stored
tuples. A look shows the grants after some of them, never a change in part.
-/

namespace Gatehouse

open PolicyEngine

/-! ## Calls of the policy -/

/-- What the policy is called for. -/
inductive PolicyCall where
  | write (operation : Operation)
  | read

namespace PolicyCall

/-- What a call of the policy is answered with. -/
@[reducible] def Answer : PolicyCall → Type
  | .write operation => Except StoreFault operation.Answer
  | .read => Snapshot

def program (engine : PolicyEngine) : (call : PolicyCall) → Routine Site call.Answer
  | .write operation => (operation.perform engine).toRoutine
  | .read => snapshot

end PolicyCall

/-- Calls of the policy, while nothing else touches it. -/
@[reducible] def PolicyEngine.workload (engine : PolicyEngine) : Workload PolicyCall where
  Answer := PolicyCall.Answer
  program := PolicyCall.program engine
  admits _ site other := other = site
  outside site other := KeepsPolicy site other ∧ other.writing = site.writing

/-- The operation that begins to change the policy with an event, and the number of
its call. -/
def Event.begun? (event : Event PolicyCall) : Option (Nat × Operation) :=
  match event.act with
  | .takes number (.write operation) =>
      if event.before.writing = false ∧ event.after.writing = true then some (number, operation)
      else none
  | _ => none

namespace Trace

variable {trace : Trace PolicyCall} {number : Nat} {call : PolicyCall} {before after : Site}

/-- The operations in the order in which they began to change the policy. -/
def order (trace : Trace PolicyCall) : List (Nat × Operation) := trace.filterMap Event.begun?

@[simp] theorem order_append (early late : Trace PolicyCall) :
    order (early ++ late) = order early ++ order late := List.filterMap_append

@[simp] theorem order_begins : order [⟨.begins number call, before, after⟩] = [] := rfl

@[simp] theorem order_drifts : order [⟨.drifts, before, after⟩] = [] := rfl

theorem order_takes_of_writing (kept : before.writing = true ∨ after.writing = before.writing) :
    order [⟨.takes number call, before, after⟩] = [] := by
  cases call with
  | read => rfl
  | write operation =>
      have none : ¬(before.writing = false ∧ after.writing = true) := by
        rintro ⟨free, taken⟩
        rw [free, taken] at kept
        simp at kept
      simp only [order, List.filterMap_cons, List.filterMap_nil, Event.begun?, if_neg none]

theorem order_takes_of_free {operation : Operation} (free : before.writing = false)
    (taken : after.writing = true) :
    order [⟨.takes number (.write operation), before, after⟩] = [(number, operation)] := by
  simp only [order, List.filterMap_cons, List.filterMap_nil, Event.begun?, free, taken, and_self,
    if_true]

/-- The states in which a call took its steps. -/
def seen (number : Nat) (trace : Trace PolicyCall) : List Site :=
  (trace.steps number).map Event.before

theorem seen_append (number : Nat) (early late : Trace PolicyCall) :
    seen number (early ++ late) = seen number early ++ seen number late := by
  rw [seen, steps_append, List.map_append]
  rfl

theorem mem_seen_append {shown : Site} (member : shown ∈ seen number trace)
    (late : Trace PolicyCall) : shown ∈ seen number (trace ++ late) := by
  rw [seen_append]
  exact List.mem_append_left _ member

theorem mem_seen_takes : before ∈ seen number (trace ++ [⟨.takes number call, before, after⟩]) := by
  simp [seen]

end Trace

namespace PolicyEngine

variable {engine : PolicyEngine} {start site : Site} {trace : Trace PolicyCall}
  {threads : List engine.workload.Thread} {history : List (Nat × Turn)}

/-! ## Operations one after the other -/

/-- The state behind numbered operations that were carried out one after the other. -/
def reached (engine : PolicyEngine) (start : Site) (history : List (Nat × Turn)) : Site :=
  engine.after (history.map Prod.snd) start

theorem reached_snoc (number : Nat) (turn : Turn) :
    engine.reached start (history ++ [(number, turn)]) =
      (turn.operation.perform engine).behind (turn.found (engine.reached start history)) := by
  simp [reached, after]

/-- An outcome is the one of an operation in its place in a history. -/
def CameOf (engine : PolicyEngine) (start : Site) (history : List (Nat × Turn)) (number : Nat)
    (operation : Operation) (outcome : Except StoreFault operation.Answer) : Prop :=
  ∃ early conditions late, history = early ++ (number, ⟨conditions, operation⟩) :: late ∧
    outcome = (operation.perform engine).outcome
      (Turn.found ⟨conditions, operation⟩ (engine.reached start early))

/-- A snapshot shows the grants after the first operations of a history. -/
def ShownIn (engine : PolicyEngine) (start : Site) (history : List (Nat × Turn))
    (shown : Snapshot) : Prop :=
  ∃ early late, history = early ++ late ∧ shown.edition = (engine.reached start early).edition ∧
    shown.grants = (engine.reached start early).grants

theorem CameOf.mono {longer : List (Nat × Turn)} {number : Nat} {operation : Operation}
    {outcome : Except StoreFault operation.Answer}
    (came : engine.CameOf start history number operation outcome) (grows : history <+: longer) :
    engine.CameOf start longer number operation outcome := by
  obtain ⟨early, conditions, late, rfl, same⟩ := came
  obtain ⟨more, rfl⟩ := grows
  exact ⟨early, conditions, late ++ more, by simp, same⟩

theorem ShownIn.mono {longer : List (Nat × Turn)} {shown : Snapshot}
    (inside : engine.ShownIn start history shown) (grows : history <+: longer) :
    engine.ShownIn start longer shown := by
  obtain ⟨early, late, rfl, same⟩ := inside
  obtain ⟨more, rfl⟩ := grows
  exact ⟨early, late ++ more, by simp, same⟩

/-- How a run of concurrent calls comes out: as the operations of a history, one after
the other. At most one operation has begun without being in the history yet, and none
once every call has been answered. -/
structure Serial (engine : PolicyEngine) (start : Site) (trace : Trace PolicyCall) (site : Site)
    (threads : List engine.workload.Thread) (history : List (Nat × Turn))
    (pending : List (Nat × Operation)) : Prop where
  order : trace.order = history.map (fun entry => (entry.1, entry.2.operation)) ++ pending
  once : (trace.order.map Prod.fst).Nodup
  alone : pending.length ≤ 1
  free : site.writing = false → pending = []
  idle : engine.workload.Finished threads → site.writing = false
  met : ∀ entry ∈ history, MetIn (trace.seen entry.1) entry.2.conditions
  outcome : ∀ number operation outcome,
    engine.workload.Answered threads number (.write operation) outcome →
      engine.CameOf start history number operation outcome
  ended : site.writing = false → ∀ entry ∈ history,
    ∃ outcome, engine.workload.Answered threads entry.1 (.write entry.2.operation) outcome
  shown : ∀ number shown, engine.workload.Answered threads number .read shown →
    engine.ShownIn start history shown
  published : site.grants = (engine.reached start history).grants ∧
    site.edition = (engine.reached start history).edition
  stored : pending = [] → site.tuples = (engine.reached start history).tuples

/-! ## How far the calls have come -/

/-- Who is changing the policy, and whether the change is still to be published. -/
inductive Hold where
  | free
  | working (number : Nat) (operation : Operation)
  | leaving (number : Nat)

namespace Hold

def number? : Hold → Option Nat
  | .free => none
  | .working number _ => some number
  | .leaving number => some number

def pending : Hold → List (Nat × Operation)
  | .working number operation => [(number, operation)]
  | .free => []
  | .leaving _ => []

theorem pending_length (hold : Hold) : hold.pending.length ≤ 1 := by
  cases hold <;> simp [pending]

theorem eq_free {hold : Hold} (nobody : hold.number?.isSome = false) : hold = .free := by
  cases hold with
  | free => rfl
  | working number operation => contradiction
  | leaving number => contradiction

end Hold

/-- End a change with its outcome. -/
def leave {α : Type} (outcome : α) : Routine Site α := release.bind fun _ => .done outcome

/-- How far an operation has come. -/
inductive Writing (engine : PolicyEngine) (start : Site) (trace : Trace PolicyCall)
    (history : List (Nat × Turn)) (hold : Hold) (number : Nat) (operation : Operation) :
    Routine Site (Except StoreFault operation.Answer) → Prop where
  | waits (fresh : number ∉ trace.order.map Prod.fst) :
      Writing engine start trace history hold number operation
        (exclusively (operation.body engine)).toRoutine
  | works {left : Routine Site (Except StoreFault operation.Answer)}
      (holds : hold = .working number operation) :
      Writing engine start trace history hold number operation left
  | leaves {outcome : Except StoreFault operation.Answer} (holds : hold = .leaving number)
      (came : engine.CameOf start history number operation outcome) :
      Writing engine start trace history hold number operation (leave outcome)
  | done {outcome : Except StoreFault operation.Answer}
      (came : engine.CameOf start history number operation outcome) :
      Writing engine start trace history hold number operation (.done outcome)

/-- How far a look at the grants has come. -/
inductive Reading (engine : PolicyEngine) (start : Site) (history : List (Nat × Turn)) :
    Routine Site Snapshot → Prop where
  | looks : Reading engine start history snapshot
  | done {shown : Snapshot} (inside : engine.ShownIn start history shown) :
      Reading engine start history (.done shown)

/-- How far a call has come. -/
def Stage (engine : PolicyEngine) (start : Site) (trace : Trace PolicyCall)
    (history : List (Nat × Turn)) (hold : Hold) (number : Nat) :
    (call : PolicyCall) → Routine Site call.Answer → Prop
  | .write operation, left => Writing engine start trace history hold number operation left
  | .read, left => Reading engine start history left

/-- A call stays where it is while others change the policy. -/
theorem Stage.aside {later : Trace PolicyCall} {longer : List (Nat × Turn)} {hold next : Hold}
    {number : Nat} {call : PolicyCall} {left : Routine Site call.Answer}
    (stage : Stage engine start trace history hold number call left)
    (apart : hold.number? ≠ some number) (grows : history <+: longer)
    (fresh : number ∉ trace.order.map Prod.fst → number ∉ later.order.map Prod.fst) :
    Stage engine start later longer next number call left := by
  cases call with
  | read =>
      cases stage with
      | looks => exact .looks
      | done inside => exact .done (inside.mono grows)
  | write operation =>
      cases stage with
      | waits unbegun => exact .waits (fresh unbegun)
      | works holds =>
          rw [holds] at apart
          contradiction
      | leaves holds came =>
          rw [holds] at apart
          contradiction
      | done came => exact .done (came.mono grows)

/-- A call stays where it is while nobody begins or ends a change. -/
theorem Stage.beside {later : Trace PolicyCall} {hold : Hold} {number : Nat} {call : PolicyCall}
    {left : Routine Site call.Answer}
    (stage : Stage engine start trace history hold number call left)
    (same : later.order = trace.order) :
    Stage engine start later history hold number call left := by
  cases call with
  | read => exact stage
  | write operation =>
      cases stage with
      | waits unbegun => exact .waits (same ▸ unbegun)
      | works holds => exact .works holds
      | leaves holds came => exact .leaves holds came
      | done came => exact .done came

/-- What the order in which the operations began has to do with the calls. -/
structure Ordered (engine : PolicyEngine) (start : Site) (trace : Trace PolicyCall) (site : Site)
    (threads : List engine.workload.Thread) (history : List (Nat × Turn)) (hold : Hold) :
    Prop where
  order : trace.order = history.map (fun entry => (entry.1, entry.2.operation)) ++ hold.pending
  once : (trace.order.map Prod.fst).Nodup
  begun : ∀ entry ∈ trace.order, entry.1 < threads.length
  writing : site.writing = hold.number?.isSome
  met : ∀ entry ∈ history, MetIn (trace.seen entry.1) entry.2.conditions
  ended : ∀ entry ∈ history, hold.number? = some entry.1 ∨
    ∃ outcome, engine.workload.Answered threads entry.1 (.write entry.2.operation) outcome
  stages : ∀ number thread, threads[number]? = some thread →
    Stage engine start trace history hold number thread.call thread.left

/-- An operation that works on the policy is some way from being done. -/
structure Working (engine : PolicyEngine) (start : Site) (trace : Trace PolicyCall) (site : Site)
    (threads : List engine.workload.Thread) (history : List (Nat × Turn)) (number : Nat)
    (operation : Operation) (rest : Routine Site (Except StoreFault operation.Answer)) :
    Prop where
  found : threads[number]? = some ⟨.write operation, rest.bind leave⟩
  works : ∃ seen now, rest.Works (engine.reached start history)
    (engine.Settled (engine.reached start history) operation) seen now ∧ KeepsPolicy now site ∧
      ∀ shown ∈ seen, shown ∈ trace.seen number

/-- Besides, the policy is the one behind the history, except that what is published
still is while what is stored may have been changed. -/
structure Progress (engine : PolicyEngine) (start : Site) (trace : Trace PolicyCall) (site : Site)
    (threads : List engine.workload.Thread) (history : List (Nat × Turn)) (hold : Hold) : Prop
    extends Ordered engine start trace site threads history hold where
  published : site.grants = (engine.reached start history).grants ∧
    site.edition = (engine.reached start history).edition
  stored : hold.pending = [] → site.tuples = (engine.reached start history).tuples
  working : ∀ number operation, hold = .working number operation → ∃ wait act next,
    Working engine start trace site threads history number operation (.step wait act next)
  leaving : ∀ number, hold = .leaving number → ∃ operation outcome,
    threads[number]? = some ⟨.write operation, leave outcome⟩

/-- Where nobody is half way, the policy is the one behind the history. -/
theorem Progress.same {hold : Hold}
    (progress : Progress engine start trace site threads history hold)
    (settled : hold.pending = []) :
    KeepsPolicy (engine.reached start history) site :=
  ⟨progress.stored settled, progress.published.1, progress.published.2⟩

/-- An operation that has done all that it does has its place in the history. -/
theorem Ordered.settle {number : Nat} {operation : Operation}
    {rest : Routine Site (Except StoreFault operation.Answer)}
    (ordered : Ordered engine start trace site threads history (.working number operation))
    (working : Working engine start trace site threads history number operation rest) :
    ∃ longer hold, Progress engine start trace site threads longer hold := by
  obtain ⟨seen, now, works, same, own⟩ := working.works
  cases rest with
  | step wait act next =>
      refine ⟨history, .working number operation, ordered, ?_, ?_, ?_, ?_⟩
      · exact ⟨same.grants.trans works.1.1, same.edition.trans works.1.2⟩
      · intro settled
        contradiction
      · rintro _ _ ⟨rfl, rfl⟩
        exact ⟨wait, act, next, working⟩
      · intro other holds
        contradiction
  | done outcome =>
      obtain ⟨conditions, met, came, left⟩ := works
      have place : history <+: history ++ [(number, ⟨conditions, operation⟩)] :=
        List.prefix_append ..
      have behind := left.trans same
      refine ⟨history ++ [(number, ⟨conditions, operation⟩)], .leaving number, ?_, ?_, ?_, ?_, ?_⟩
      · constructor
        · rw [ordered.order]
          simp [Hold.pending]
        · exact ordered.once
        · exact ordered.begun
        · exact ordered.writing
        · intro entry member
          rcases List.mem_append.mp member with early | last
          · exact ordered.met entry early
          · rw [List.mem_singleton.mp last]
            exact met.mono own
        · intro entry member
          rcases List.mem_append.mp member with early | last
          · exact ordered.ended entry early
          · rw [List.mem_singleton.mp last]
            exact .inl rfl
        · intro other thread found
          by_cases own : other = number
          · subst own
            rw [working.found] at found
            obtain rfl := Option.some.inj found
            exact .leaves rfl ⟨history, conditions, [], rfl, came⟩
          · exact (ordered.stages other thread found).aside
              (by simpa [Hold.number?] using Ne.symm own) place id
      · rw [reached_snoc]
        exact ⟨behind.grants, behind.edition⟩
      · intro _
        rw [reached_snoc]
        exact behind.tuples
      · intro other operation holds
        contradiction
      · rintro _ ⟨rfl⟩
        exact ⟨operation, outcome, working.found⟩

/-! ## What every event of a run keeps -/

theorem Working.later {later : Trace PolicyCall} {other : Site} {more : List engine.workload.Thread}
    {number : Nat} {operation : Operation}
    {rest : Routine Site (Except StoreFault operation.Answer)}
    (working : Working engine start trace site threads history number operation rest)
    (found : more[number]? = some ⟨.write operation, rest.bind leave⟩)
    (same : KeepsPolicy site other)
    (seen : ∀ shown ∈ trace.seen number, shown ∈ later.seen number) :
    Working engine start later other more history number operation rest := by
  obtain ⟨shown, now, works, kept, own⟩ := working.works
  exact ⟨found, shown, now, works, kept.trans same, fun site member => seen site (own site member)⟩

theorem Progress.begins {hold : Hold}
    (progress : Progress engine start trace site threads history hold) (call : PolicyCall) :
    Progress engine start (trace ++ [⟨.begins threads.length call, site, site⟩]) site
      (threads ++ [⟨call, call.program engine⟩]) history hold := by
  constructor
  · constructor
    · simpa using progress.order
    · simpa using progress.once
    · intro entry member
      have early := progress.begun entry (by simpa using member)
      rw [List.length_append]
      omega
    · exact progress.writing
    · intro entry member
      exact (progress.met entry member).mono fun _ member => Trace.mem_seen_append member _
    · intro entry member
      rcases progress.ended entry member with holds | ⟨outcome, answered⟩
      · exact .inl holds
      · exact .inr ⟨outcome, Workload.getElem?_snoc answered _⟩
    · intro number thread found
      rcases Workload.getElem?_snoc_cases found with ⟨-, found⟩ | ⟨rfl, rfl⟩
      · exact (progress.stages number thread found).beside (by simp)
      · cases call with
        | read => exact .looks
        | write operation =>
            change Writing _ _ _ _ _ _ _ (operation.perform engine).toRoutine
            rw [Operation.perform_eq]
            refine .waits ?_
            intro member
            obtain ⟨entry, member, same⟩ := List.mem_map.mp member
            have early := progress.begun entry (by simpa using member)
            omega
  · exact progress.published
  · exact progress.stored
  · intro number operation holds
    obtain ⟨wait, act, next, working⟩ := progress.working number operation holds
    exact ⟨wait, act, next, working.later (Workload.getElem?_snoc working.found _) (.refl site)
      fun _ member => Trace.mem_seen_append member _⟩
  · intro number holds
    obtain ⟨operation, outcome, found⟩ := progress.leaving number holds
    exact ⟨operation, outcome, Workload.getElem?_snoc found _⟩

theorem Progress.drifts {other : Site} {hold : Hold}
    (progress : Progress engine start trace site threads history hold)
    (same : KeepsPolicy site other) (kept : other.writing = site.writing) :
    Progress engine start (trace ++ [⟨.drifts, site, other⟩]) other threads history hold := by
  constructor
  · constructor
    · simpa using progress.order
    · simpa using progress.once
    · simpa using progress.begun
    · exact kept.trans progress.writing
    · intro entry member
      exact (progress.met entry member).mono fun _ member => Trace.mem_seen_append member _
    · exact progress.ended
    · intro number thread found
      exact (progress.stages number thread found).beside (by simp)
  · exact ⟨same.grants.trans progress.published.1, same.edition.trans progress.published.2⟩
  · intro settled
    exact same.tuples.trans (progress.stored settled)
  · intro number operation holds
    obtain ⟨wait, act, next, working⟩ := progress.working number operation holds
    exact ⟨wait, act, next, working.later working.found same fun _ member =>
      Trace.mem_seen_append member _⟩
  · exact progress.leaving

section Takes

variable {number : Nat} {hold : Hold}

/-- A look at the grants shows those behind the history. -/
theorem Progress.looks (progress : Progress engine start trace site threads history hold)
    (found : threads[number]? = some ⟨.read, snapshot⟩) :
    Progress engine start (trace ++ [⟨.takes number .read, site, site⟩]) site
      (threads.set number ⟨.read, .done ⟨site.edition, site.grants⟩⟩) history hold := by
  have order : Trace.order (trace ++ [⟨.takes number .read, site, site⟩]) = trace.order := by
    rw [Trace.order_append, Trace.order_takes_of_writing (.inr rfl), List.append_nil]
  constructor
  · constructor
    · rw [order, progress.order]
    · rw [order]
      exact progress.once
    · rw [order, List.length_set]
      exact progress.begun
    · exact progress.writing
    · intro entry member
      exact (progress.met entry member).mono fun _ member => Trace.mem_seen_append member _
    · intro entry member
      rcases progress.ended entry member with holds | ⟨outcome, answered⟩
      · exact .inl holds
      · exact .inr ⟨outcome, answered.set found _⟩
    · intro other thread shown
      rcases Workload.getElem?_set_cases shown with ⟨rfl, rfl⟩ | ⟨-, shown⟩
      · exact .done ⟨history, [], by simp, progress.published.2, progress.published.1⟩
      · exact (progress.stages other thread shown).beside order
  · exact progress.published
  · exact progress.stored
  · intro other operation holds
    obtain ⟨wait, act, next, working⟩ := progress.working other operation holds
    have apart : number ≠ other := by
      rintro rfl
      rw [working.found] at found
      cases found
    refine ⟨wait, act, next, working.later ?_ (.refl site) fun _ member =>
      Trace.mem_seen_append member _⟩
    rw [List.getElem?_set_ne apart, working.found]
  · intro other holds
    obtain ⟨operation, outcome, leaves⟩ := progress.leaving other holds
    have apart : number ≠ other := by
      rintro rfl
      rw [leaves] at found
      cases found
    exact ⟨operation, outcome, by rw [List.getElem?_set_ne apart, leaves]⟩

/-- An operation may begin when nobody is changing the policy. -/
theorem Progress.acquires {operation : Operation}
    (progress : Progress engine start trace site threads history hold)
    (found : threads[number]? =
      some ⟨.write operation, (exclusively (operation.body engine)).toRoutine⟩)
    (fresh : number ∉ trace.order.map Prod.fst) (free : site.writing = false) :
    ∃ longer next, Progress engine start
      (trace ++ [⟨.takes number (.write operation), site, { site with writing := true }⟩])
      { site with writing := true }
      (threads.set number ⟨.write operation, (operation.body engine).toRoutine.bind leave⟩)
      longer next := by
  have order : Trace.order (trace ++ [⟨.takes number (.write operation), site,
      { site with writing := true }⟩]) = trace.order ++ [(number, operation)] := by
    rw [Trace.order_append, Trace.order_takes_of_free free rfl]
  obtain rfl := Hold.eq_free (progress.writing.symm.trans free)
  have bound := (List.getElem?_eq_some_iff.mp found).1
  apply Ordered.settle
  · constructor
    · rw [order, progress.order]
      change _ ++ [] ++ [(number, operation)] = _
      rw [List.append_nil]
      rfl
    · rw [order, List.map_append, List.nodup_append]
      refine ⟨progress.once, by simp, ?_⟩
      rintro begun member _ (_ | _) rfl
      · exact fresh member
      · contradiction
    · rw [order, List.length_set]
      intro entry member
      rcases List.mem_append.mp member with early | last
      · exact progress.begun entry early
      · rw [List.mem_singleton.mp last]
        exact bound
    · rfl
    · intro entry member
      exact (progress.met entry member).mono fun _ member => Trace.mem_seen_append member _
    · intro entry member
      rcases progress.ended entry member with holds | ⟨outcome, answered⟩
      · contradiction
      · exact .inr ⟨outcome, answered.set found _⟩
    · intro other thread shown
      rcases Workload.getElem?_set_cases shown with ⟨rfl, rfl⟩ | ⟨apart, shown⟩
      · exact .works rfl
      · refine (progress.stages other thread shown).aside (by simp [Hold.number?])
          (List.prefix_refl history) ?_
        intro unbegun
        rw [order, List.map_append, List.mem_append]
        rintro (early | last)
        · exact unbegun early
        · exact apart (List.mem_singleton.mp last)
  · have same := progress.same rfl
    refine ⟨List.getElem?_set_self bound, [site], { site with writing := true }, ?_, .refl _, ?_⟩
    · exact Operation.works_body operation ⟨same.tuples, same.grants, same.edition⟩ (by simp)
    · rintro shown member
      rw [List.mem_singleton.mp member]
      exact Trace.mem_seen_takes

/-- An operation goes on changing the policy. -/
theorem Progress.works {operation : Operation} {wait : Wait Site} {act : Site → Site}
    {next : Site → Routine Site (Except StoreFault operation.Answer)}
    (progress : Progress engine start trace site threads history (.working number operation))
    (working : Working engine start trace site threads history number operation
      (.step wait act next)) (ready : wait.ready site = true) :
    ∃ longer hold, Progress engine start
      (trace ++ [⟨.takes number (.write operation), site, act site⟩]) (act site)
      (threads.set number ⟨.write operation, (next site).bind leave⟩) longer hold := by
  have taken : site.writing = true := progress.writing
  have order : Trace.order (trace ++ [⟨.takes number (.write operation), site, act site⟩]) =
      trace.order := by
    rw [Trace.order_append, Trace.order_takes_of_writing (.inl taken), List.append_nil]
  have found := working.found
  obtain ⟨seen, now, works, same, own⟩ := working.works
  have stepped := works.2 site same taken ready
  apply Ordered.settle
  · constructor
    · rw [order, progress.order]
    · rw [order]
      exact progress.once
    · rw [order, List.length_set]
      exact progress.begun
    · exact stepped.1
    · intro entry member
      exact (progress.met entry member).mono fun _ member => Trace.mem_seen_append member _
    · intro entry member
      rcases progress.ended entry member with holds | ⟨outcome, answered⟩
      · exact .inl holds
      · exact .inr ⟨outcome, answered.set found _⟩
    · intro other thread shown
      rcases Workload.getElem?_set_cases shown with ⟨rfl, rfl⟩ | ⟨-, shown⟩
      · exact .works rfl
      · exact (progress.stages other thread shown).beside order
  · refine ⟨List.getElem?_set_self (List.getElem?_eq_some_iff.mp found).1, seen ++ [site],
      act site, stepped.2, .refl _, ?_⟩
    intro shown member
    rcases List.mem_append.mp member with early | last
    · exact Trace.mem_seen_append (own shown early) _
    · rw [List.mem_singleton.mp last]
      exact Trace.mem_seen_takes

/-- An operation has one place in the history. -/
theorem Ordered.nodup_history
    (ordered : Ordered engine start trace site threads history hold) :
    (history.map Prod.fst).Nodup := by
  have once := ordered.once
  rw [ordered.order, List.map_append, List.map_map] at once
  exact (List.nodup_append.mp once).1

/-- An operation that is done lets the next one begin. -/
theorem Progress.leaves {operation : Operation} {outcome : Except StoreFault operation.Answer}
    (progress : Progress engine start trace site threads history (.leaving number))
    (found : threads[number]? = some ⟨.write operation, leave outcome⟩)
    (came : engine.CameOf start history number operation outcome) :
    Progress engine start
      (trace ++ [⟨.takes number (.write operation), site, { site with writing := false }⟩])
      { site with writing := false } (threads.set number ⟨.write operation, .done outcome⟩)
      history .free := by
  have taken : site.writing = true := progress.writing
  have order : Trace.order (trace ++ [⟨.takes number (.write operation), site,
      { site with writing := false }⟩]) = trace.order := by
    rw [Trace.order_append, Trace.order_takes_of_writing (.inl taken), List.append_nil]
  constructor
  · constructor
    · rw [order, progress.order]
      rfl
    · rw [order]
      exact progress.once
    · rw [order, List.length_set]
      exact progress.begun
    · rfl
    · intro entry member
      exact (progress.met entry member).mono fun _ member => Trace.mem_seen_append member _
    · intro entry member
      right
      rcases progress.ended entry member with holds | ⟨outcome, answered⟩
      · obtain ⟨early, conditions, late, split, -⟩ := came
        have place : entry = (number, ⟨conditions, operation⟩) :=
          List.inj_on_of_nodup_map progress.nodup_history member (by simp [split])
            (Option.some.inj holds).symm
        subst place
        exact ⟨outcome, List.getElem?_set_self (List.getElem?_eq_some_iff.mp found).1⟩
      · exact ⟨outcome, answered.set found _⟩
    · intro other thread shown
      rcases Workload.getElem?_set_cases shown with ⟨rfl, rfl⟩ | ⟨apart, shown⟩
      · exact .done came
      · refine (progress.stages other thread shown).aside ?_ (List.prefix_refl history)
          (by rw [order]; exact id)
        rintro same
        exact apart (Option.some.inj same).symm
  · exact progress.published
  · intro _
    exact progress.stored rfl
  · intro other operation holds
    contradiction
  · intro other holds
    contradiction

end Takes

/-- What a step of a call comes to, by how far the call has come. -/
theorem Progress.takes {number : Nat} {hold : Hold} {call : PolicyCall} {wait : Wait Site}
    {act : Site → Site} {next : Site → Routine Site call.Answer}
    (progress : Progress engine start trace site threads history hold)
    (found : threads[number]? = some ⟨call, .step wait act next⟩)
    (ready : wait.ready site = true) :
    ∃ longer hold, Progress engine start (trace ++ [⟨.takes number call, site, act site⟩])
      (act site) (threads.set number ⟨call, next site⟩) longer hold := by
  have stage := progress.stages number _ found
  cases call with
  | read =>
      generalize shape : Routine.step wait act next = left at stage found
      cases stage with
      | looks =>
          obtain ⟨rfl, rfl, rfl⟩ := Routine.step.inj shape
          exact ⟨history, hold, progress.looks found⟩
      | done inside => contradiction
  | write operation =>
      generalize shape : Routine.step wait act next = left at stage found
      cases stage with
      | waits fresh =>
          obtain ⟨rfl, rfl, rfl⟩ := Routine.step.inj shape
          have free : (!site.writing) = true := ready
          exact progress.acquires found fresh (by simpa using free)
      | works holds =>
          subst holds
          subst shape
          obtain ⟨_, _, _, working⟩ := progress.working number operation rfl
          have same := Option.some.inj (working.found.symm.trans found)
          injection same with _ same
          obtain ⟨rfl, rfl, rfl⟩ := Routine.step.inj same
          exact progress.works working ready
      | leaves holds came =>
          subst holds
          obtain ⟨rfl, rfl, rfl⟩ := Routine.step.inj shape
          exact ⟨history, .free, progress.leaves found came⟩
      | done came => contradiction

/-- Every event keeps the policy and the calls in step with a history. -/
theorem progress_of_run (free : start.writing = false)
    (run : engine.workload.Run start trace site threads) :
    ∃ history hold, Progress engine start trace site threads history hold := by
  induction run with
  | start =>
      refine ⟨[], .free, ?_, ⟨rfl, rfl⟩, fun _ => rfl, nofun, nofun⟩
      exact ⟨rfl, List.nodup_nil, nofun, free, nofun, nofun, nofun⟩
  | begins run call admitted ih =>
      obtain ⟨history, hold, progress⟩ := ih
      subst admitted
      exact ⟨history, hold, progress.begins call⟩
  | takes run found ready ih =>
      obtain ⟨history, hold, progress⟩ := ih
      exact progress.takes found ready
  | drifts run acts ih =>
      obtain ⟨history, hold, progress⟩ := ih
      exact ⟨history, hold, progress.drifts acts.1 acts.2⟩

/-- Whoever is changing the policy has not been answered yet. -/
theorem Progress.idle {hold : Hold}
    (progress : Progress engine start trace site threads history hold)
    (finished : engine.workload.Finished threads) : hold = .free := by
  cases hold with
  | free => rfl
  | working number operation =>
      obtain ⟨wait, act, next, working⟩ := progress.working number operation rfl
      obtain ⟨answer, answered⟩ := finished number _ working.found
      have same := working.found.symm.trans answered
      cases same
  | leaving number =>
      obtain ⟨operation, outcome, found⟩ := progress.leaving number rfl
      obtain ⟨answer, answered⟩ := finished number _ found
      have same := found.symm.trans answered
      cases same

/-- An operation that has been answered is in the history with its outcome. -/
theorem Progress.cameOf {hold : Hold} {number : Nat} {operation : Operation}
    {outcome : Except StoreFault operation.Answer}
    (progress : Progress engine start trace site threads history hold)
    (answered : engine.workload.Answered threads number (.write operation) outcome) :
    engine.CameOf start history number operation outcome := by
  have stage : Writing _ _ _ _ _ _ operation _ := progress.stages number _ answered
  generalize shape : Routine.done outcome = left at stage
  cases stage with
  | waits fresh => cases shape
  | works holds =>
      obtain ⟨wait, act, next, working⟩ := progress.working number operation holds
      have same := working.found.symm.trans answered
      cases same
  | leaves holds came => cases shape
  | done came =>
      cases shape
      exact came

/-- A look at the grants that has been answered showed those of a part of the
history. -/
theorem Progress.shownIn {hold : Hold} {number : Nat} {shown : Snapshot}
    (progress : Progress engine start trace site threads history hold)
    (answered : engine.workload.Answered threads number .read shown) :
    engine.ShownIn start history shown := by
  have stage : Reading _ _ _ _ := progress.stages number _ answered
  generalize shape : Routine.done shown = left at stage
  cases stage with
  | looks => cases shape
  | done inside =>
      cases shape
      exact inside

theorem Progress.serial {hold : Hold}
    (progress : Progress engine start trace site threads history hold) :
    Serial engine start trace site threads history hold.pending := by
  constructor
  · exact progress.order
  · exact progress.once
  · exact hold.pending_length
  · intro free
    rw [Hold.eq_free (progress.writing.symm.trans free)]
    rfl
  · intro finished
    rw [progress.writing, progress.idle finished]
    rfl
  · exact progress.met
  · intro number operation outcome answered
    exact progress.cameOf answered
  · intro free entry member
    rcases progress.ended entry member with holds | ended
    · rw [Hold.eq_free (progress.writing.symm.trans free)] at holds
      contradiction
    · exact ended
  · intro number shown answered
    exact progress.shownIn answered
  · exact progress.published
  · exact progress.stored

end PolicyEngine

end Gatehouse
