import Gatehouse.Proofs.Permissions.Journeys

/-!
# Shared loads in flight

Lookups, invalidations and write backs run side by side, and lookups share their loads.
This module says once what an event of such a run may do to the loads, and derives from it,
each by one induction on the run, which load is in the slot, when an outcome is known and
who has boarded what.
-/

namespace Gatehouse

namespace Trace

variable {trace : Trace PermissionCall} {event : Event PermissionCall} {caller number : Nat}

/-- A call that has boarded a load has run since the load came to its outcome. -/
def Alighted (trace : Trace PermissionCall) (caller number : Nat) : Prop :=
  ∃ early event late, trace = early ++ event :: late ∧ event.act.stepOf? = some caller ∧
    Trace.aboard? early caller = some number ∧
      (event.before.flight.outcomes.lookup number).isSome

/-- A call that has run since its load came to its outcome has just done so or had done so
before. -/
theorem Alighted.snoc (alighted : Alighted (trace ++ [event]) caller number) :
    (event.act.stepOf? = some caller ∧ trace.aboard? caller = some number ∧
      (event.before.flight.outcomes.lookup number).isSome) ∨ trace.Alighted caller number := by
  obtain ⟨early, shown, late, split, own, boarded, known⟩ := alighted
  rcases snoc_cases split with ⟨rfl, rfl, -⟩ | ⟨front, -, rfl⟩
  · exact .inl ⟨own, boarded, known⟩
  · exact .inr ⟨early, shown, front, rfl, own, boarded, known⟩

/-- A call stays aboard when the trace grows. -/
theorem aboard?_mono {later : Trace PermissionCall} (boarded : trace.aboard? caller = some number)
    (grows : trace <+: later) : later.aboard? caller = some number := by
  obtain ⟨more, rfl⟩ := grows
  rw [aboard?, steps_append]
  exact aboard?_append boarded _

theorem Alighted.mono {later : Trace PermissionCall} (alighted : trace.Alighted caller number)
    (grows : trace <+: later) : later.Alighted caller number := by
  obtain ⟨early, event, late, rfl, own, boarded, known⟩ := alighted
  obtain ⟨more, rfl⟩ := grows
  exact ⟨early, event, late ++ more, by simp, own, boarded, known⟩

/-- A call boards a load in one place of the trace. -/
theorem boarding_of_aboard (boarded : trace.aboard? caller = some number) :
    ∃ early boarding late, trace = early ++ boarding :: late ∧
      Trace.aboard? early caller = none ∧
        Trace.aboard? (early ++ [boarding]) caller = some number := by
  cases steps : Trace.steps caller trace with
  | nil =>
      rw [aboard?, steps] at boarded
      nomatch boarded
  | cons asking rest =>
      match rest with
      | [] =>
          rw [aboard?, steps] at boarded
          nomatch boarded
      | [_] =>
          rw [aboard?, steps] at boarded
          nomatch boarded
      | look :: boarding :: rest =>
          rw [aboard?, steps] at boarded
          have place : Trace.steps caller trace = [asking, look] ++ boarding :: rest := steps
          obtain ⟨early, late, split, before, -⟩ := split_of_steps place
          have own : boarding ∈ Trace.steps caller trace := by
            rw [steps]
            simp
          refine ⟨early, boarding, late, split, ?_, ?_⟩
          · rw [aboard?, before]
            rfl
          · rw [aboard?, steps_snoc (mem_steps.mp own).2, before]
            exact boarded

theorem Alighted.aboard? (alighted : trace.Alighted caller number) :
    trace.aboard? caller = some number := by
  obtain ⟨early, event, late, rfl, -, boarded, -⟩ := alighted
  exact aboard?_mono boarded (List.prefix_append early _)

end Trace

namespace Permissions

/-- Lookups, invalidations and write backs over one state. The world outside may do whatever
it likes but for the loads that lookups share and the maps that wait to be written, which
are the lookup's own. -/
def orderlyWorkload (permissions : Permissions) : Workload PermissionCall :=
  { permissions.workload with
    outside := fun site other => other.flight = site.flight ∧ other.writeBacks = site.writeBacks }

/-- What an event may do to shared loads. -/
inductive Moves (permissions : Permissions) (trace : Trace PermissionCall)
    (event : Event PermissionCall) : Prop where
  | rests (same : event.after.flight = event.before.flight)
      (ashore : ∀ caller, event.act.stepOf? = some caller →
        aboard? (trace.steps caller ++ [event]) = none) : Moves permissions trace event
  | joins {caller flight : Nat} {asking look : Event PermissionCall}
      (own : event.act.stepOf? = some caller) (steps : trace.steps caller = [asking, look])
      (taken : event.before.flight.slot = some flight)
      (same : event.after.flight = event.before.flight) : Moves permissions trace event
  | launches {caller : Nat} {asking look : Event PermissionCall}
      (own : event.act.stepOf? = some caller) (steps : trace.steps caller = [asking, look])
      (free : event.before.flight.slot = none)
      (begun : event.after.flight = { event.before.flight with
        slot := some event.before.flight.started
        started := event.before.flight.started + 1 }) : Moves permissions trace event
  | carries {caller flight : Nat} (own : event.act.stepOf? = some caller)
      (pilots : permissions.Pilots (trace.steps caller) flight)
      (same : event.after.flight = event.before.flight) : Moves permissions trace event
  | lands {caller flight : Nat} {outcome : Except StoreFault RuleMap}
      (own : event.act.stepOf? = some caller)
      (arrives : permissions.Arrives (trace.steps caller) flight outcome)
      (landed : event.after.flight = { event.before.flight with
        outcomes := (flight, outcome) :: event.before.flight.outcomes }) :
      Moves permissions trace event
  | leaves {caller flight : Nat} {outcome : Except StoreFault RuleMap}
      (own : event.act.stepOf? = some caller)
      (awaits : permissions.Awaits (trace.steps caller) flight)
      (known : event.before.flight.outcomes.lookup flight = some outcome)
      (left : event.after.flight = if event.before.flight.slot = some flight
        then { event.before.flight with slot := none } else event.before.flight) :
      Moves permissions trace event

variable {permissions : Permissions} {start site : Site} {trace early late : Trace PermissionCall}
  {threads : List permissions.orderlyWorkload.Thread} {event : Event PermissionCall}
  {caller number : Nat} {outcome : Except StoreFault RuleMap}

/-! ## What an event may do -/

/-- A step of a lookup moves the loads by its place among the steps of the lookup. -/
theorem Leg.moves (leg : permissions.Leg (trace.steps caller) event)
    (own : event.act.stepOf? = some caller) : permissions.Moves trace event := by
  generalize steps : trace.steps caller = taken at leg
  have ashore : taken.length < 2 → ∀ other, event.act.stepOf? = some other →
      aboard? (trace.steps other ++ [event]) = none := by
    intro short other also
    rw [own] at also
    obtain rfl := Option.some.inj also
    rw [steps]
    exact aboard?_of_short (by rw [List.length_append]; exact Nat.succ_lt_succ short)
  cases leg with
  | asks same => exact .rests (by rw [same]; rfl) (ashore (by simp))
  | looks same => exact .rests (by rw [same]) (ashore (by simp))
  | joins taken same => exact .joins own steps taken (by rw [same])
  | launches free same => exact .launches own steps free (by rw [same])
  | queries launches same =>
      exact .carries own (by rw [steps]; exact .launched launches) (by rw [same]; rfl)
  | reads launches asks same =>
      exact .carries own (by rw [steps]; exact .asked launches asks) (by rw [same])
  | defers launches asks success same =>
      exact .carries own (by rw [steps]; exact .answered launches asks) (by rw [same])
  | lands arrives same => exact .lands own (by rw [steps]; exact arrives) (by rw [same])
  | leaves awaits known same =>
      refine .leaves own (by rw [steps]; exact awaits) known ?_
      rw [same]
      split <;> rfl

/-- A call of the cache by itself does not move the loads. -/
theorem Passing.moves (passing : Passing (trace.steps caller) event)
    (own : event.act.stepOf? = some caller) : permissions.Moves trace event := by
  refine .rests passing.flight ?_
  intro other also
  rw [own] at also
  obtain rfl := Option.some.inj also
  exact aboard?_of_short (by rw [List.length_append]; exact Nat.succ_lt_succ passing.short)

/-- What no call does leaves the loads alone. -/
theorem Moves.nobody (nobody : event.act.stepOf? = none)
    (same : event.after.flight = event.before.flight) : permissions.Moves trace event := by
  refine .rests same ?_
  intro caller own
  rw [nobody] at own
  injection own

/-- The loads are moved by each event of a run as is laid down for it. -/
theorem moves_of_run (shared : permissions.singleFlight = true)
    (run : permissions.orderlyWorkload.Run start trace site threads)
    (split : trace = early ++ event :: late) : permissions.Moves early event := by
  induction run generalizing late with
  | start => simp at split
  | @begins trace site other threads run call admitted ih =>
      rcases Trace.snoc_cases split with ⟨rfl, rfl, -⟩ | ⟨front, -, earlier⟩
      · refine .nobody rfl ?_
        cases call with
        | look lookup => exact congrArg Site.flight admitted
        | invalidate => exact congrArg Site.flight admitted
        | writeBack map =>
            obtain ⟨front, back, -, rfl⟩ := admitted
            rfl
      · exact ih earlier
  | takes run found ready ih =>
      rcases Trace.snoc_cases split with ⟨rfl, rfl, rfl⟩ | ⟨front, -, earlier⟩
      · obtain ⟨call, -, leg⟩ := (run.takes found ready).leg (permissions.travels shared) split rfl
        cases call with
        | look lookup => exact Leg.moves leg rfl
        | invalidate => exact Passing.moves leg rfl
        | writeBack map => exact Passing.moves leg rfl
      · exact ih earlier
  | drifts run acts ih =>
      rcases Trace.snoc_cases split with ⟨rfl, rfl, -⟩ | ⟨front, -, earlier⟩
      · exact .nobody rfl acts.1
      · exact ih earlier

/-- An event leaves the loads alone, launches the next one, makes known what one has come
to, or frees the slot of a load whose outcome is known. -/
inductive Turns (permissions : Permissions) (trace : Trace PermissionCall)
    (event : Event PermissionCall) : Prop where
  | rests (same : event.after.flight = event.before.flight) : Turns permissions trace event
  | launches (free : event.before.flight.slot = none)
      (begun : event.after.flight = { event.before.flight with
        slot := some event.before.flight.started
        started := event.before.flight.started + 1 }) : Turns permissions trace event
  | lands {caller flight : Nat} {outcome : Except StoreFault RuleMap}
      (own : event.act.stepOf? = some caller)
      (arrives : permissions.Arrives (trace.steps caller) flight outcome)
      (landed : event.after.flight = { event.before.flight with
        outcomes := (flight, outcome) :: event.before.flight.outcomes }) :
      Turns permissions trace event
  | frees {flight : Nat} {outcome : Except StoreFault RuleMap}
      (taken : event.before.flight.slot = some flight)
      (known : event.before.flight.outcomes.lookup flight = some outcome)
      (freed : event.after.flight = { event.before.flight with slot := none }) :
      Turns permissions trace event

theorem Moves.turns (moves : permissions.Moves trace event) : permissions.Turns trace event := by
  cases moves with
  | rests same ashore => exact .rests same
  | joins own steps taken same => exact .rests same
  | launches own steps free begun => exact .launches free begun
  | carries own pilots same => exact .rests same
  | lands own arrives landed => exact .lands own arrives landed
  | leaves own awaits known left =>
      split at left
      · next taken => exact .frees taken known left
      · exact .rests left

/-- With its last step a call was aboard already, has joined the load in the slot, or has
launched one. -/
theorem Moves.boards (moves : permissions.Moves trace event)
    (boarded : Trace.aboard? (trace ++ [event]) caller = some number) :
    trace.aboard? caller = some number ∨ event.before.flight.slot = some number ∨
      event.Launches number := by
  by_cases own : event.act.stepOf? = some caller
  · rw [Trace.aboard?, Trace.steps_snoc own] at boarded
    cases before : trace.aboard? caller with
    | some other =>
        rw [aboard?_append before] at boarded
        exact .inl boarded
    | none =>
        right
        have already : ∀ {other flight : Nat}, event.act.stepOf? = some other →
            aboard? (trace.steps other) = some flight → False := by
          intro other flight also elsewhere
          rw [own] at also
          obtain rfl := Option.some.inj also
          rw [Trace.aboard?, elsewhere] at before
          injection before
        cases moves with
        | rests same ashore =>
            rw [ashore caller own] at boarded
            injection boarded
        | joins also steps taken same =>
            rw [own] at also
            obtain rfl := Option.some.inj also
            rw [steps, List.cons_append, List.cons_append, List.nil_append, aboard?,
              taken] at boarded
            exact .inl (taken.trans boarded)
        | launches also steps free begun =>
            rw [own] at also
            obtain rfl := Option.some.inj also
            rw [steps, List.cons_append, List.cons_append, List.nil_append, aboard?,
              free] at boarded
            refine .inr ⟨free, Option.some.inj boarded, ?_⟩
            rw [begun]
            exact boarded
        | carries also pilots same => exact (already also pilots.aboard?).elim
        | lands also arrives landed => exact (already also arrives.pilots.aboard?).elim
        | leaves also awaits known left => exact (already also awaits.aboard?).elim
  · rw [Trace.aboard?, Trace.steps_snoc_of_ne own] at boarded
    exact .inl boarded

/-! ## Every run -/

section Runs

variable (shared : permissions.singleFlight = true)
  (run : permissions.orderlyWorkload.Run start trace site threads)

include shared run

/-- What holds of the loads at the start and is kept by whatever moves them holds of every
run. -/
theorem flies (holds : Trace PermissionCall → Flight → Prop) (initial : holds [] start.flight)
    (step : ∀ trace event threads,
      permissions.orderlyWorkload.Run start trace event.before threads →
        holds trace event.before.flight → permissions.Moves trace event →
          holds (trace ++ [event]) event.after.flight) : holds trace site.flight := by
  induction run with
  | start => exact initial
  | begins run call admitted ih =>
      exact step _ _ _ run ih (moves_of_run shared (run.begins call admitted) rfl)
  | takes run found ready ih =>
      exact step _ _ _ run ih (moves_of_run shared (run.takes found ready) rfl)
  | drifts run acts ih => exact step _ _ _ run ih (moves_of_run shared (run.drifts acts) rfl)

/-- A load that has no outcome is in the slot. -/
theorem taken_of_launches {launch : Event PermissionCall} (member : launch ∈ trace)
    (launches : launch.Launches number)
    (unknown : site.flight.outcomes.lookup number = none) :
    site.flight.slot = some number := by
  refine flies shared run (fun trace flight => ∀ launch ∈ trace, ∀ number,
    launch.Launches number → flight.outcomes.lookup number = none → flight.slot = some number)
    (by simp) ?_ launch member number launches unknown
  intro trace event threads _ single moves launch member number launches unknown
  rcases List.mem_append.mp member with early | last
  · cases moves.turns with
    | rests same =>
        rw [same] at unknown ⊢
        exact single launch early number launches unknown
    | launches free begun =>
        rw [begun] at unknown
        have taken := single launch early number launches unknown
        rw [free] at taken
        injection taken
    | lands own arrives landed =>
        rw [landed] at unknown ⊢
        rw [List.lookup_cons] at unknown
        split at unknown
        · injection unknown
        · exact single launch early number launches unknown
    | frees held known freed =>
        rw [freed] at unknown
        have taken := single launch early number launches unknown
        obtain rfl := Option.some.inj (held.symm.trans taken)
        rw [known] at unknown
        injection unknown
  · obtain rfl := List.mem_singleton.mp last
    exact launches.taken

/-- Every load since the start has been launched in the run. -/
theorem launched_of_lt (since : start.flight.started ≤ number)
    (begun : number < site.flight.started) : ∃ launch ∈ trace, launch.Launches number := by
  refine flies shared run (fun trace flight => number < flight.started →
    ∃ launch ∈ trace, launch.Launches number) (fun begun => by omega) ?_ begun
  intro trace event threads _ launched moves begun
  have earlier : number < event.before.flight.started →
      ∃ launch ∈ trace ++ [event], launch.Launches number := by
    intro before
    obtain ⟨launch, member, launches⟩ := launched before
    exact ⟨launch, List.mem_append_left _ member, launches⟩
  cases moves.turns with
  | rests same =>
      rw [same] at begun
      exact earlier begun
  | launches free taken =>
      rw [taken] at begun
      rcases Nat.lt_succ_iff_lt_or_eq.mp begun with before | rfl
      · exact earlier before
      · exact ⟨event, by simp, free, rfl, by rw [taken]⟩
  | lands own arrives landed =>
      rw [landed] at begun
      exact earlier begun
  | frees held known freed =>
      rw [freed] at begun
      exact earlier begun

variable (idle : start.flight.IsIdle)

include idle

theorem boards_of_run : Boards permissions start trace site.flight := by
  refine flies shared run (Boards permissions start) idle.boards ?_
  intro trace event threads _ boards moves
  cases moves.turns with
  | rests same =>
      rw [same]
      exact boards.same same
  | launches free begun => exact boards.launch rfl begun
  | lands own arrives landed =>
      rw [landed]
      refine Boards.land (boards.snoc fun _ => Event.not_launches (.inl (by rw [landed]))) ?_
      exact arrives.landed.mono (List.prefix_append trace _)
  | frees taken known freed =>
      rw [freed]
      exact (boards.snoc fun _ => Event.not_launches (.inr (by rw [freed]))).free

/-- The load in the slot is the newest. -/
theorem newest (taken : site.flight.slot = some number) : number + 1 = site.flight.started := by
  refine flies shared run (fun _ flight => ∀ number, flight.slot = some number →
    number + 1 = flight.started) (by simp [idle.unloaded]) ?_ number taken
  intro trace event threads _ newest moves number taken
  cases moves.turns with
  | rests same =>
      rw [same] at taken ⊢
      exact newest number taken
  | launches free begun =>
      rw [begun] at taken ⊢
      rw [Option.some.inj taken]
  | lands own arrives landed =>
      rw [landed] at taken ⊢
      exact newest number taken
  | frees held known freed =>
      rw [freed] at taken
      injection taken

/-- The load in the slot has been launched. -/
theorem launched_of_taken (taken : site.flight.slot = some number) :
    ∃ launch ∈ trace, launch.Launches number := by
  have last := newest shared run idle taken
  exact launched_of_lt shared run ((boards_of_run shared run idle).boarded number taken) (by omega)

/-- A load that is launched in the run is begun behind the start. -/
theorem started_le_of_launches {launch : Event PermissionCall} (member : launch ∈ trace)
    (launches : launch.Launches number) : start.flight.started ≤ number := by
  obtain ⟨early, late, split⟩ := List.append_of_mem member
  obtain ⟨_, before⟩ := run.in_front split
  rw [← launches.number]
  exact (boards_of_run shared before idle).started

/-- A load that has an outcome has been begun. -/
theorem lookup_of_started_le (ahead : site.flight.started ≤ number) :
    site.flight.outcomes.lookup number = none := by
  have ended : ∀ entry ∈ site.flight.outcomes, entry.1 < site.flight.started := by
    refine flies shared run (fun _ flight => ∀ entry ∈ flight.outcomes,
      entry.1 < flight.started) idle.landed ?_
    intro trace event threads run ended moves entry member
    cases moves.turns with
    | rests same =>
        rw [same] at member ⊢
        exact ended entry member
    | launches free begun =>
        rw [begun] at member ⊢
        exact Nat.lt_succ_of_lt (ended entry member)
    | lands own arrives landed =>
        rw [landed] at member ⊢
        rcases List.mem_cons.mp member with rfl | earlier
        · obtain ⟨launch, among, launches⟩ := arrives.pilots.launches
          exact (boards_of_run shared run idle).launched launch (Trace.mem_steps.mp among).1 _
            launches
        · exact ended entry earlier
    | frees held known freed =>
        rw [freed] at member ⊢
        exact ended entry member
  rw [List.lookup_eq_none_iff]
  intro entry member
  have earlier := ended entry member
  exact bne_iff_ne.mpr (by omega)

/-- A load has one pilot. -/
theorem pilot_unique {other : Nat} (pilots : permissions.Pilots (trace.steps caller) number)
    (also : permissions.Pilots (trace.steps other) number) : other = caller := by
  obtain ⟨launch, member, launches⟩ := pilots.launches
  obtain ⟨relaunch, among, relaunches⟩ := also.launches
  rw [Trace.mem_steps] at member among
  have same := (boards_of_run shared run idle).once launch member.1 relaunch among.1 number
    launches relaunches
  rw [member.2, among.2] at same
  exact (Option.some.inj same).symm

/-- As long as the pilot of a load has not made its outcome known, there is none. -/
theorem lookup_of_pilots (pilots : permissions.Pilots (trace.steps caller) number) :
    site.flight.outcomes.lookup number = none := by
  refine flies shared run (fun trace flight => ∀ caller number,
    permissions.Pilots (trace.steps caller) number → flight.outcomes.lookup number = none) ?_ ?_
    caller number pilots
  · intro caller number pilots
    obtain ⟨launch, member, -⟩ := pilots.launches
    simp at member
  · intro trace event threads run piloted moves caller number pilots
    -- Either the load has just been launched, or the caller was its pilot before.
    have unknown : event.before.flight.outcomes.lookup number = none := by
      by_cases own : event.act.stepOf? = some caller
      · rw [Trace.steps_snoc own] at pilots
        rcases pilots.snoc with launches | before
        · exact lookup_of_started_le shared run idle (Nat.le_of_eq launches.number)
        · exact piloted caller number before
      · rw [Trace.steps_snoc_of_ne own] at pilots
        exact piloted caller number pilots
    cases moves.turns with
    | rests same => rw [same, unknown]
    | launches free begun => rw [begun, unknown]
    | @lands lander flight outcome own arrives landed =>
        rw [landed, List.lookup_cons]
        split
        · next same =>
            obtain rfl := beq_iff_eq.mp same
            by_cases mine : lander = caller
            · subst mine
              rw [Trace.steps_snoc own] at pilots
              exact absurd pilots arrives.not_pilots
            · have apart : event.act.stepOf? ≠ some caller := by
                rw [own]
                exact fun same => mine (Option.some.inj same)
              rw [Trace.steps_snoc_of_ne apart] at pilots
              exact absurd (pilot_unique shared run idle pilots arrives.pilots) mine
        · exact unknown
    | frees taken known freed => rw [freed, unknown]

/-- An outcome that has become known stays. -/
theorem lookup_of_known {known : Event PermissionCall} (member : known ∈ trace)
    (came : known.after.flight.outcomes.lookup number = some outcome) :
    site.flight.outcomes.lookup number = some outcome := by
  refine flies shared run (fun trace flight => ∀ known ∈ trace,
    known.after.flight.outcomes.lookup number = some outcome →
      flight.outcomes.lookup number = some outcome) (by simp) ?_ known member came
  intro trace event threads run kept moves known member came
  rcases List.mem_append.mp member with early | last
  · have before := kept known early came
    cases moves.turns with
    | rests same => rw [same, before]
    | launches free begun => rw [begun, before]
    | lands own arrives landed =>
        rw [landed, List.lookup_cons]
        split
        · next same =>
            obtain rfl := beq_iff_eq.mp same
            rw [lookup_of_pilots shared run idle arrives.pilots] at before
            injection before
        · exact before
    | frees taken known freed => rw [freed, before]
  · obtain rfl := List.mem_singleton.mp last
    exact came

/-- Whoever has launched a load that has an outcome has read it off the store and has made
it known. -/
theorem arrived_of_known (since : start.flight.started ≤ number)
    (known : site.flight.outcomes.lookup number = some outcome) :
    ∃ pilot front rest, trace.steps pilot = front ++ rest ∧
      permissions.Arrives front number outcome := by
  refine flies shared run (fun trace flight =>
    flight.outcomes.lookup number = some outcome → ∃ pilot front rest,
      trace.steps pilot = front ++ rest ∧ permissions.Arrives front number outcome) ?_ ?_ known
  · intro before
    rw [lookup_of_started_le shared .start idle since] at before
    injection before
  · intro trace event threads _ arrived moves known
    have earlier : event.before.flight.outcomes.lookup number = some outcome →
        ∃ pilot front rest, Trace.steps pilot (trace ++ [event]) = front ++ rest ∧
          permissions.Arrives front number outcome := by
      intro before
      obtain ⟨pilot, front, rest, steps, arrives⟩ := arrived before
      exact ⟨pilot, front, rest ++ Trace.steps pilot [event], by simp [steps], arrives⟩
    cases moves.turns with
    | rests same => exact earlier (by rw [← same, known])
    | launches free begun =>
        rw [begun] at known
        exact earlier known
    | @lands pilot flight _ own arrives landed =>
        rw [landed, List.lookup_cons] at known
        split at known
        · next same =>
            obtain rfl := beq_iff_eq.mp same
            obtain rfl := Option.some.inj known
            exact ⟨pilot, _, _, Trace.steps_append _ _, arrives⟩
        · exact earlier known
    | frees held found freed =>
        rw [freed] at known
        exact earlier known

/-- A load that a call has boarded has been launched. -/
theorem launched_of_aboard (boarded : trace.aboard? caller = some number) :
    ∃ launch ∈ trace, launch.Launches number := by
  refine flies shared run (fun trace _ => ∀ caller number,
    trace.aboard? caller = some number → ∃ launch ∈ trace, launch.Launches number) nofun ?_ caller
    number boarded
  intro trace event threads run manifest moves caller number boarded
  have earlier : (∃ launch ∈ trace, launch.Launches number) →
      ∃ launch ∈ trace ++ [event], launch.Launches number := by
    rintro ⟨launch, member, launches⟩
    exact ⟨launch, List.mem_append_left _ member, launches⟩
  rcases moves.boards boarded with before | taken | launches
  · exact earlier (manifest caller number before)
  · exact earlier (launched_of_taken shared run idle taken)
  · exact ⟨event, by simp, launches⟩

/-- A caller that runs when the outcome of its load is known leaves the slot without it. -/
theorem not_taken_of_runs (here : event.before = site)
    (moves : permissions.Moves trace event) (own : event.act.stepOf? = some caller)
    (boarded : trace.aboard? caller = some number)
    (known : (event.before.flight.outcomes.lookup number).isSome) :
    event.after.flight.slot ≠ some number := by
  subst here
  have mine : ∀ {other : Nat}, event.act.stepOf? = some other → other = caller := by
    intro other also
    rw [own] at also
    exact (Option.some.inj also).symm
  have ashore : (trace.steps caller).length < 3 → False := by
    intro short
    rw [Trace.aboard?, aboard?_of_short short] at boarded
    injection boarded
  have untaken : permissions.Pilots (trace.steps caller) number → False := by
    intro pilots
    rw [lookup_of_pilots shared run idle pilots] at known
    injection known
  cases moves with
  | rests same unboarded =>
      have stays := aboard?_append boarded [event]
      rw [unboarded caller own] at stays
      injection stays
  | joins also steps taken same =>
      obtain rfl := mine also
      exact (ashore (by rw [steps]; simp)).elim
  | launches also steps free begun =>
      obtain rfl := mine also
      exact (ashore (by rw [steps]; simp)).elim
  | carries also pilots same =>
      obtain rfl := mine also
      obtain rfl := Option.some.inj (pilots.aboard?.symm.trans boarded)
      exact (untaken pilots).elim
  | lands also arrives landed =>
      obtain rfl := mine also
      obtain rfl := Option.some.inj (arrives.pilots.aboard?.symm.trans boarded)
      exact (untaken arrives.pilots).elim
  | leaves also awaits known left =>
      obtain rfl := mine also
      obtain rfl := Option.some.inj (awaits.aboard?.symm.trans boarded)
      rw [left]
      split
      · nofun
      · assumption

/-- When a call that has boarded a load has run since the load came to its outcome, the load
is not in the slot any more. -/
theorem not_taken_of_alighted (alighted : trace.Alighted caller number) :
    site.flight.slot ≠ some number := by
  refine flies shared run (fun trace flight => ∀ caller number,
    trace.Alighted caller number → flight.slot ≠ some number) ?_ ?_ caller number alighted
  · rintro caller number ⟨early, shown, late, split, -⟩
    simp at split
  · intro trace event threads run cleared moves caller number alighted
    rcases alighted.snoc with ⟨own, boarded, known⟩ | earlier
    · exact not_taken_of_runs shared run idle rfl moves own boarded known
    · have before := cleared caller number earlier
      cases moves.turns with
      | rests same => rwa [same]
      | launches free begun =>
          obtain ⟨launch, member, launches⟩ := launched_of_aboard shared run idle earlier.aboard?
          have older := (boards_of_run shared run idle).launched launch member number launches
          rw [begun]
          intro same
          have same := Option.some.inj same
          omega
      | lands own arrives landed => rwa [landed]
      | frees taken known freed =>
          rw [freed]
          nofun

end Runs

end Permissions

end Gatehouse
