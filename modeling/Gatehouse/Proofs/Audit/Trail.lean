import Gatehouse.Proofs.Audit.Recording
import Gatehouse.Proofs.Execution.Interleaving

/-!
# What becomes of the records

Any number of calls end while the writer takes records out of the trail, one at a time and
whenever it likes. Every record that was offered is then in one of three places: it was
taken by the writer, it waits in the trail, or it was dropped and counted, because the trail
was full. What the writer takes is what was accepted, in the order in which it was offered.
-/

namespace Gatehouse

/-! ## The queue -/

namespace AuditQueue

/-- The oldest record of a queue, which the writer takes next, and the queue without it. -/
def next? (queue : AuditQueue) : Option (AuditRecord × AuditQueue) :=
  match queue.queued with
  | [] => none
  | record :: rest => some (record, { queue with queued := rest })

theorem next?_eq_some {queue rest : AuditQueue} {record : AuditRecord}
    (taken : queue.next? = some (record, rest)) :
    queue = { rest with queued := record :: rest.queued } := by
  rw [next?] at taken
  split at taken
  · contradiction
  · next record others front =>
      cases taken
      rw [← front]

/-- A record is put behind the others if there is room for it, and is counted else. -/
theorem offer_cases (queue : AuditQueue) (record : AuditRecord) :
    (queue.queued.length < queue.capacity ∧
      queue.offer record = { queue with queued := queue.queued ++ [record] }) ∨
      (queue.capacity ≤ queue.queued.length ∧
        queue.offer record = { queue with dropped := queue.dropped + 1 }) := by
  rw [offer]
  split
  · next room => exact .inl ⟨room, rfl⟩
  · next full => exact .inr ⟨Nat.le_of_not_lt full, rfl⟩

end AuditQueue

/-! ## Calls and the writer -/

/-- Calls in front of a guard. Between two steps the writer may take the oldest record out
of the trail; everything else is open to the world outside. -/
def Guard.auditWorkload (guard : Guard) : Workload GuardedCall where
  Answer _ := CallResult
  program call := guard.intercept call.context call.payload call.handler
  admits _ site other := other = site
  outside site other :=
    other.trail = site.trail ∨ ∃ record, site.trail.next? = some (record, other.trail)

namespace Event

variable (event : Event GuardedCall)

/-- The records that a step of a call has put into the trail. -/
def accepted : List AuditRecord :=
  match event.act with
  | .takes _ _ => event.after.trail.queued.drop event.before.trail.queued.length
  | _ => []

/-- The records that the writer has taken out of the trail. -/
def written : List AuditRecord :=
  match event.act with
  | .drifts => event.before.trail.queued.take
      (event.before.trail.queued.length - event.after.trail.queued.length)
  | _ => []

/-- Whether a record was dropped. -/
def drops : Bool := event.after.trail.dropped != event.before.trail.dropped

/-- A step offers a record to the trail, which accepts it or drops it. -/
structure Offers (record : AuditRecord) : Prop where
  trail : event.after.trail = event.before.trail.offer record
  accepted : event.accepted = if event.drops then [] else [record]

variable {event}

/-- A record that is offered is either accepted or dropped. -/
theorem Offers.length_add {record : AuditRecord} (offers : event.Offers record) :
    event.accepted.length + event.drops.toNat = 1 := by
  rw [offers.accepted]
  cases event.drops <;> rfl

theorem tells_of_same (same : event.after.trail = event.before.trail) :
    event.accepted = [] ∧ event.written = [] ∧ event.drops = false := by
  refine ⟨?_, ?_, ?_⟩
  · rw [accepted, same]
    split <;> simp
  · rw [written, same]
    split <;> simp
  · simp [drops, same]

end Event

namespace Trace

variable (trace : Trace GuardedCall)

/-- The records that the trail has accepted, in the order in which they were offered. -/
def accepted : List AuditRecord := trace.flatMap Event.accepted

/-- The records that the writer has taken, in this order. -/
def written : List AuditRecord := trace.flatMap Event.written

/-- How many records were dropped. -/
def drops : Nat := trace.countP Event.drops

/-- Of the steps of a call the last one, and no other, has offered a record, which is that
of the call with its result. -/
def RecordedOnce (number : Nat) (call : GuardedCall) (result : CallResult) : Prop :=
  ∃ front last record, trace.steps number = front ++ [last] ∧
    (∀ step ∈ front, step.after.trail = step.before.trail) ∧
      record.Reports call result ∧ last.Offers record

/-- A call has offered nothing. -/
def Silent (number : Nat) : Prop :=
  ∀ step ∈ trace.steps number, step.after.trail = step.before.trail

theorem accepted_snoc (event : Event GuardedCall) :
    accepted (trace ++ [event]) = trace.accepted ++ event.accepted := by
  rw [accepted, List.flatMap_append, List.flatMap_singleton, accepted]

theorem written_snoc (event : Event GuardedCall) :
    written (trace ++ [event]) = trace.written ++ event.written := by
  rw [written, List.flatMap_append, List.flatMap_singleton, written]

theorem drops_snoc (event : Event GuardedCall) :
    drops (trace ++ [event]) = trace.drops + event.drops.toNat := by
  rw [drops, List.countP_append, List.countP_singleton, drops]
  cases event.drops <;> rfl

end Trace

/-! ## The trail and the history -/

/-- The trail has room for as many records as it was given, for one at least; what it has
accepted is what the writer has taken and what waits; and the dropped records, which found
it full, are counted in a word. -/
structure Balanced (capacity : Nat) (trace : Trace GuardedCall) (site : Site) : Prop where
  size : site.trail.capacity = max capacity 1
  bounded : site.trail.queued.length ≤ max capacity 1
  order : trace.accepted = trace.written ++ site.trail.queued
  counter : site.trail.dropped = .ofNat trace.drops
  full : ∀ event ∈ trace, event.drops = true → event.before.trail.queued.length = max capacity 1

namespace Balanced

variable {capacity : Nat} {trace : Trace GuardedCall} {site other : Site} {act : Act GuardedCall}

/-- An event keeps the balance if it adds up: what the trail held and what was accepted is
what was written and what the trail holds. -/
theorem snoc (balanced : Balanced capacity trace site)
    (size : other.trail.capacity = site.trail.capacity)
    (bounded : other.trail.queued.length ≤ max capacity 1)
    (order : site.trail.queued ++ Event.accepted ⟨act, site, other⟩ =
      Event.written ⟨act, site, other⟩ ++ other.trail.queued)
    (counter : other.trail.dropped =
      site.trail.dropped + .ofNat (Event.drops ⟨act, site, other⟩).toNat)
    (full : Event.drops ⟨act, site, other⟩ = true →
      site.trail.queued.length = max capacity 1) :
    Balanced capacity (trace ++ [⟨act, site, other⟩]) other where
  size := size.trans balanced.size
  bounded := bounded
  order := by
    rw [Trace.accepted_snoc, Trace.written_snoc, balanced.order, List.append_assoc, order,
      List.append_assoc]
  counter := by rw [counter, balanced.counter, Trace.drops_snoc, UInt64.ofNat_add]
  full := by
    intro event member
    rcases List.mem_append.mp member with early | last
    · exact balanced.full event early
    · rw [List.mem_singleton.mp last]
      exact full

/-- What leaves the trail alone keeps the balance. -/
theorem same (balanced : Balanced capacity trace site) (trail : other.trail = site.trail) :
    Balanced capacity (trace ++ [⟨act, site, other⟩]) other := by
  obtain ⟨accepted, written, drops⟩ := @Event.tells_of_same ⟨act, site, other⟩ trail
  apply balanced.snoc
  · rw [trail]
  · rw [trail]
    exact balanced.bounded
  · rw [accepted, written, trail, List.append_nil, List.nil_append]
  · rw [trail, drops]
    simp
  · rw [drops]
    nofun

/-- The trail accepts a record for which it has room, and drops one for which it has none. -/
theorem offered (balanced : Balanced capacity trace site) {number : Nat} {call : GuardedCall}
    {record : AuditRecord} (trail : other.trail = site.trail.offer record) :
    Balanced capacity (trace ++ [⟨.takes number call, site, other⟩]) other ∧
      Event.Offers ⟨.takes number call, site, other⟩ record := by
  have size := balanced.size
  have bounded := balanced.bounded
  rcases site.trail.offer_cases record with ⟨room, accepts⟩ | ⟨full, counts⟩
  · rw [accepts] at trail
    have accepted : Event.accepted ⟨.takes number call, site, other⟩ = [record] := by
      simp [Event.accepted, trail]
    have drops : Event.drops ⟨.takes number call, site, other⟩ = false := by
      simp [Event.drops, trail]
    refine ⟨?_, trail.trans accepts.symm, by rw [accepted, drops]; rfl⟩
    apply balanced.snoc
    · rw [trail]
    · rw [trail, List.length_append, List.length_singleton]
      omega
    · rw [accepted, trail]
      rfl
    · rw [trail, drops]
      simp
    · rw [drops]
      nofun
  · rw [counts] at trail
    have accepted : Event.accepted ⟨.takes number call, site, other⟩ = [] := by
      simp [Event.accepted, trail]
    have drops : Event.drops ⟨.takes number call, site, other⟩ = true := by
      simp [Event.drops, trail]
    refine ⟨?_, trail.trans counts.symm, by rw [accepted, drops]; rfl⟩
    apply balanced.snoc
    · rw [trail]
    · rw [trail]
      exact bounded
    · rw [accepted, trail, List.append_nil]
      rfl
    · rw [trail, drops]
      rfl
    · intro _
      omega

/-- The writer takes the oldest record. -/
theorem next (balanced : Balanced capacity trace site) {record : AuditRecord}
    (taken : site.trail.next? = some (record, other.trail)) :
    Balanced capacity (trace ++ [⟨.drifts, site, other⟩]) other := by
  have front := AuditQueue.next?_eq_some taken
  have bounded := balanced.bounded
  have written : Event.written ⟨.drifts, site, other⟩ = [record] := by
    simp [Event.written, front]
  have drops : Event.drops ⟨.drifts, site, other⟩ = false := by simp [Event.drops, front]
  rw [front, List.length_cons] at bounded
  apply balanced.snoc
  · rw [front]
  · omega
  · rw [written, front]
    exact List.append_nil _
  · rw [front, drops]
    simp
  · rw [drops]
    nofun

end Balanced

/-! ## Runs -/

namespace Guard

variable {guard : Guard} {capacity : Nat} {start site : Site} {trace : Trace GuardedCall}
  {threads : List guard.auditWorkload.Thread}

/-- Whether a call has been answered. -/
def hasEnded (guard : Guard) (thread : guard.auditWorkload.Thread) : Bool :=
  thread.left.result?.isSome

/-- How far a call has come: it is under way and has offered nothing, or it is answered and
has offered its record. -/
inductive Reached (trace : Trace GuardedCall) (number : Nat) :
    guard.auditWorkload.Thread → Prop where
  | underWay {call : GuardedCall} {left : Routine Site CallResult}
      (silent : trace.Silent number) (closes : left.Closes call) : Reached trace number ⟨call, left⟩
  | ended {call : GuardedCall} {result : CallResult}
      (recorded : trace.RecordedOnce number call result) :
      Reached trace number ⟨call, .done result⟩

/-- A call has come as far as its steps have. -/
theorem Reached.of_steps {later : Trace GuardedCall} {number : Nat}
    {thread : guard.auditWorkload.Thread} (reached : Reached trace number thread)
    (same : later.steps number = trace.steps number) : Reached later number thread := by
  cases reached with
  | underWay silent closes =>
      refine .underWay ?_ closes
      rw [Trace.Silent, same]
      exact silent
  | ended recorded =>
      refine .ended ?_
      rw [Trace.RecordedOnce, same]
      exact recorded

theorem hasEnded_of_closes {call : GuardedCall} {left : Routine Site CallResult}
    (closes : left.Closes call) : guard.hasEnded ⟨call, left⟩ = false := by
  cases left with
  | done result => contradiction
  | step wait act next => rfl

/-- The trail is balanced, as many calls are answered as records were offered, and each
call has come as far as its steps have. -/
structure Accounts (guard : Guard) (capacity : Nat) (trace : Trace GuardedCall) (site : Site)
    (threads : List guard.auditWorkload.Thread) : Prop where
  balanced : Balanced capacity trace site
  accounted : threads.countP guard.hasEnded = trace.accepted.length + trace.drops
  reached : ∀ number thread, threads[number]? = some thread → Reached trace number thread

namespace Accounts

/-- What leaves the trail alone is no offer. -/
theorem still (accounts : guard.Accounts capacity trace site threads) {act : Act GuardedCall}
    {other : Site} (trail : other.trail = site.trail) :
    threads.countP guard.hasEnded = (Trace.accepted (trace ++ [⟨act, site, other⟩])).length +
      Trace.drops (trace ++ [⟨act, site, other⟩]) := by
  obtain ⟨accepted, -, drops⟩ := @Event.tells_of_same ⟨act, site, other⟩ trail
  rw [Trace.accepted_snoc, Trace.drops_snoc, accepted, drops, List.append_nil]
  exact accounts.accounted

theorem begins (accounts : guard.Accounts capacity trace site threads)
    (unused : trace.steps threads.length = []) (audits : guard.audits = true)
    (call : GuardedCall) :
    guard.Accounts capacity (trace ++ [⟨.begins threads.length call, site, site⟩]) site
      (threads ++ [⟨call, guard.auditWorkload.program call⟩]) where
  balanced := accounts.balanced.same rfl
  accounted := by
    have under : guard.hasEnded ⟨call, guard.auditWorkload.program call⟩ = false :=
      hasEnded_of_closes (closes_intercept audits call)
    rw [List.countP_append, List.countP_singleton, under]
    exact accounts.still rfl
  reached := by
    intro number thread found
    have same : Trace.steps number (trace ++ [⟨.begins threads.length call, site, site⟩]) =
        trace.steps number := by
      rw [Trace.steps_append, Trace.steps_begins, List.append_nil]
    rcases Workload.getElem?_snoc_cases found with ⟨-, early⟩ | ⟨rfl, rfl⟩
    · exact (accounts.reached number thread early).of_steps same
    · refine .underWay ?_ (closes_intercept audits call)
      intro step member
      rw [same, unused] at member
      contradiction

/-- A step of a call leaves the others as far as they have come. -/
theorem reached_set (accounts : guard.Accounts capacity trace site threads) {number : Nat}
    {call : GuardedCall} {left : Routine Site CallResult} {other : Site}
    (own : Reached (trace ++ [⟨.takes number call, site, other⟩]) number
      (⟨call, left⟩ : guard.auditWorkload.Thread)) :
    ∀ place thread, (threads.set number ⟨call, left⟩)[place]? = some thread →
      Reached (trace ++ [⟨.takes number call, site, other⟩]) place thread := by
  intro place thread shown
  rcases Workload.getElem?_set_cases shown with ⟨rfl, rfl⟩ | ⟨apart, shown⟩
  · exact own
  · apply (accounts.reached place thread shown).of_steps
    rw [Trace.steps_append, Trace.steps_takes_of_ne (Ne.symm apart), List.append_nil]

theorem takes (accounts : guard.Accounts capacity trace site threads) {number : Nat}
    {call : GuardedCall} {wait : Wait Site} {act : Site → Site}
    {next : Site → Routine Site CallResult}
    (found : threads[number]? = some ⟨call, .step wait act next⟩)
    (ready : wait.ready site = true) :
    guard.Accounts capacity (trace ++ [⟨.takes number call, site, act site⟩]) (act site)
      (threads.set number ⟨call, next site⟩) := by
  obtain ⟨bound, same⟩ := List.getElem?_eq_some_iff.mp found
  have before : guard.hasEnded threads[number] = false := by
    rw [same]
    rfl
  have own : Trace.steps number (trace ++ [⟨.takes number call, site, act site⟩]) =
      trace.steps number ++ [⟨.takes number call, site, act site⟩] := by
    rw [Trace.steps_append, Trace.steps_takes]
  cases accounts.reached number _ found with
  | underWay silent closes =>
      rcases closes site ready with ⟨kept, further⟩ | ⟨result, done, offers⟩
      · refine ⟨accounts.balanced.same kept, ?_, accounts.reached_set (.underWay ?_ further)⟩
        · rw [List.countP_set bound, before, hasEnded_of_closes further]
          exact accounts.still kept
        · intro step member
          rw [own] at member
          rcases List.mem_append.mp member with early | last
          · exact silent step early
          · rw [List.mem_singleton.mp last]
            exact kept
      · obtain ⟨balanced, offered⟩ :=
          @Balanced.offered _ _ _ _ accounts.balanced number call _ offers
        have single := offered.length_add
        refine ⟨balanced, ?_, accounts.reached_set ?_⟩
        · have ended : guard.hasEnded ⟨call, next site⟩ = true := by
            rw [done]
            rfl
          have accounted := accounts.accounted
          rw [List.countP_set bound, before, ended, Trace.accepted_snoc, Trace.drops_snoc,
            List.length_append]
          simp only [Bool.false_eq_true, if_false, if_true]
          omega
        · rw [done]
          exact .ended ⟨_, _, _, own, silent, AuditRecord.reports_ofCall call site.wall result,
            offered⟩

theorem drifts (accounts : guard.Accounts capacity trace site threads) {other : Site}
    (acts : guard.auditWorkload.outside site other) :
    guard.Accounts capacity (trace ++ [⟨.drifts, site, other⟩]) other threads := by
  have reached : ∀ number thread, threads[number]? = some thread →
      Reached (trace ++ [⟨.drifts, site, other⟩]) number thread := by
    intro number thread shown
    apply (accounts.reached number thread shown).of_steps
    rw [Trace.steps_append, Trace.steps_drifts, List.append_nil]
  rcases acts with same | ⟨record, taken⟩
  · exact ⟨accounts.balanced.same same, accounts.still same, reached⟩
  · refine ⟨accounts.balanced.next taken, ?_, reached⟩
    have front := AuditQueue.next?_eq_some taken
    have drops : Event.drops ⟨.drifts, site, other⟩ = false := by simp [Event.drops, front]
    rw [Trace.accepted_snoc, Trace.drops_snoc, drops]
    simpa [Event.accepted] using accounts.accounted

end Accounts

/-- In every run the records are accounted for. -/
theorem accounts_of_run (audits : guard.audits = true) (opened : start.trail = .ofCapacity capacity)
    (run : guard.auditWorkload.Run start trace site threads) :
    guard.Accounts capacity trace site threads := by
  induction run with
  | start =>
      refine ⟨⟨?_, ?_, ?_, ?_, by simp⟩, rfl, by simp⟩
      · rw [opened]
        rfl
      · rw [opened]
        exact Nat.zero_le _
      · rw [opened]
        rfl
      · rw [opened]
        rfl
  | begins run call admitted ih =>
      obtain rfl := admitted
      exact ih.begins (run.steps_eq_nil (Nat.le_refl _)) audits call
  | takes run found ready ih => exact ih.takes found ready
  | drifts run acts ih => exact ih.drifts acts

/-- What the audit trail keeps to. -/
structure Audits (guard : Guard) (capacity : Nat) (trace : Trace GuardedCall) (site : Site)
    (threads : List guard.auditWorkload.Thread) : Prop where
  /-- An answered call has offered one record, which is its own and shows its result. -/
  recorded : ∀ number call result, guard.auditWorkload.Answered threads number call result →
    trace.RecordedOnce number call result
  /-- A call that is under way has offered nothing. -/
  silent : ∀ number thread, threads[number]? = some thread → guard.hasEnded thread = false →
    trace.Silent number
  /-- The records of the answered calls were written, wait or were dropped. -/
  accounted : threads.countP guard.hasEnded =
    trace.written.length + site.trail.queued.length + trace.drops
  /-- The dropped records are counted until the word is used up. -/
  counted : trace.drops < UInt64.size → site.trail.dropped.toNat = trace.drops
  bounded : site.trail.queued.length ≤ max capacity 1
  /-- Records are dropped only where the trail is full. -/
  full : ∀ event ∈ trace, event.drops = true →
    event.before.trail.queued.length = max capacity 1
  /-- The writer takes the accepted records each once, in the order of their offers. -/
  order : trace.accepted = trace.written ++ site.trail.queued

/-- However calls and the writer are interleaved, each answered call has offered its record
once, and no record is lost, repeated or moved but those that are dropped and counted. -/
theorem audits_every_call (audits : guard.audits = true)
    (opened : start.trail = .ofCapacity capacity)
    (run : guard.auditWorkload.Run start trace site threads) :
    guard.Audits capacity trace site threads := by
  have accounts := accounts_of_run audits opened run
  refine ⟨?_, ?_, ?_, ?_, accounts.balanced.bounded, accounts.balanced.full,
    accounts.balanced.order⟩
  · intro number call result answered
    cases accounts.reached number _ answered with
    | underWay silent closes => contradiction
    | ended recorded => exact recorded
  · intro number thread found under
    cases accounts.reached number thread found with
    | underWay silent closes => exact silent
    | ended recorded => contradiction
  · rw [accounts.accounted, accounts.balanced.order, List.length_append]
  · intro fits
    rw [accounts.balanced.counter, UInt64.toNat_ofNat', Nat.mod_eq_of_lt fits]

/-- The writer can take one record after the other until none is left. -/
theorem run_drained (run : guard.auditWorkload.Run start trace site threads) :
    ∃ later, guard.auditWorkload.Run start (trace ++ later)
      { site with trail := site.trail.drained } threads ∧ later.written = site.trail.queued := by
  generalize waiting : site.trail.queued = queued
  induction queued generalizing trace site with
  | nil =>
      refine ⟨[], ?_, rfl⟩
      rw [List.append_nil, AuditQueue.drained, ← waiting]
      exact run
  | cons record rest ih =>
      have next : site.trail.next? = some (record, { site.trail with queued := rest }) := by
        rw [AuditQueue.next?, waiting]
      have taken : guard.auditWorkload.outside site
          { site with trail := { site.trail with queued := rest } } := .inr ⟨record, next⟩
      obtain ⟨later, further, written⟩ := ih (run.drifts taken) rfl
      refine ⟨⟨.drifts, site, { site with trail := { site.trail with queued := rest } }⟩ :: later,
        ?_, ?_⟩
      · rw [List.append_assoc] at further
        exact further
      · rw [Trace.written, List.flatMap_cons, ← Trace.written, written]
        simp [Event.written, waiting]

/-- To write down all of a trail at once is one of the ways in which the writer may go on. -/
theorem run_writeTrail {simulation : Simulation}
    (run : guard.auditWorkload.Run start trace simulation.site threads) :
    ∃ later, guard.auditWorkload.Run start (trace ++ later) simulation.writeTrail.2.site threads ∧
      later.written = simulation.writeTrail.1 :=
  run_drained run

/-! ## A full trail -/

/-- A guard that keeps a trail. -/
def recording : Guard where
  permissions := ⟨.ofSeconds 60, .ofSeconds 2, false⟩
  tokens := .ofSigner (TokenCodec.signer ⟨[], 0⟩)
  transform := passthrough
  audits := true
  order := .authorizeThenExecute
  onLookupFailure := .failOpen

/-- A call of a procedure without a rule, which is answered with its request. -/
def echoed : GuardedCall where
  context := ⟨"pkg.Svc/Echo", .empty, ⟨0, 0⟩⟩
  payload := .null
  handler := fun _ payload => pure payload
  quiet := fun _ _ => trivial

/-- A state without rules to look up, whose trail was asked to have no room. -/
def cramped : Site :=
  { (Site.initial 0 ⟨0, 0⟩ [] [] []).setCondition .rules ⟨⟨0⟩, some (.store "down")⟩ with
    trail := .ofCapacity 0 }

/-- The state behind a call. -/
def behindEcho (site : Site) : Site := ((recording.auditWorkload.program echoed).settle site).2

theorem settle_echoed : (recording.auditWorkload.program echoed).settle cramped =
    (.done (.ok .null), behindEcho cramped) := rfl

theorem settle_echoed_again : (recording.auditWorkload.program echoed).settle (behindEcho cramped) =
    (.done (.ok .null), behindEcho (behindEcho cramped)) := rfl

/-- Two calls end before the writer takes what there is. -/
theorem run_cramped : ∃ trace site threads, recording.auditWorkload.Run cramped trace site threads ∧
    recording.auditWorkload.Answered threads 0 echoed (.ok .null) ∧
      recording.auditWorkload.Answered threads 1 echoed (.ok .null) ∧
        trace.written.length = 1 ∧ site.trail.dropped = 1 := by
  have begun : recording.auditWorkload.Run cramped _ cramped _ :=
    (Workload.Run.begins .start echoed rfl).begins echoed rfl
  have ended := (begun.settle_answered 0 rfl settle_echoed).settle_answered 1 rfl
    settle_echoed_again
  obtain ⟨later, drained, written⟩ := run_drained ended
  have dropped : (behindEcho (behindEcho cramped)).trail.dropped = 1 := rfl
  refine ⟨_, _, _, drained, rfl, rfl, ?_, dropped⟩
  rw [Trace.written, List.flatMap_append, ← Trace.written, ← Trace.written, written]
  rfl

/-- Of two calls for which there is room for one record, one is recorded and one is counted. -/
theorem audits_every_call_of_cramped : recording.audits = true ∧
    cramped.trail = .ofCapacity 0 ∧ ∃ trace site threads,
      recording.auditWorkload.Run cramped trace site threads ∧
        recording.auditWorkload.Answered threads 0 echoed (.ok .null) ∧
          recording.auditWorkload.Answered threads 1 echoed (.ok .null) ∧
            trace.written.length = 1 ∧ site.trail.dropped = 1 ∧
              recording.Audits 0 trace site threads := by
  have opened : cramped.trail = .ofCapacity 0 := rfl
  obtain ⟨trace, site, threads, run, first, second, written, dropped⟩ := run_cramped
  exact ⟨rfl, opened, trace, site, threads, run, first, second, written, dropped,
    audits_every_call rfl opened run⟩

end Guard

end Gatehouse
