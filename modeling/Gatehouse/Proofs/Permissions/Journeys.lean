import Gatehouse.Proofs.Execution.Stages
import Gatehouse.Proofs.Permissions.Failures

/-!
# The way of a lookup that shares loads

A lookup that finds no map in the cache boards a load: it joins the one that is under way
or launches one, and then it is the one that carries it out. Each step of such a lookup is
said here by its place among the steps of the lookup, with all that it does to the state.
-/

namespace Gatehouse

variable {permissions : Permissions} {own : List (Event PermissionCall)}
  {event : Event PermissionCall} {number flight : Nat} {outcome : Except StoreFault RuleMap}

/-- The load that a call has boarded, by its own steps: with the third one, behind its look
into the cache, a lookup joins the load that is under way or else launches the next one. -/
def aboard? : List (Event PermissionCall) → Option Nat
  | _ :: _ :: boarding :: _ =>
      some (boarding.before.flight.slot.getD boarding.before.flight.started)
  | _ => none

/-- A call boards no load before its third step. -/
theorem aboard?_of_short (short : own.length < 3) : aboard? own = none := by
  match own with
  | [] => rfl
  | [_] => rfl
  | [_, _] => rfl
  | _ :: _ :: _ :: _ =>
      simp at short
      omega

/-- A call stays aboard. -/
theorem aboard?_append (boarded : aboard? own = some number) (rest : List (Event PermissionCall)) :
    aboard? (own ++ rest) = some number := by
  match own with
  | [] => nomatch boarded
  | [_] => nomatch boarded
  | [_, _] => nomatch boarded
  | _ :: _ :: _ :: _ => exact boarded

/-- The load that a call has boarded. -/
def Trace.aboard? (trace : Trace PermissionCall) (number : Nat) : Option Nat :=
  Gatehouse.aboard? (trace.steps number)

namespace Permissions

/-- By its steps, a lookup has launched a load and has not made its outcome known. -/
inductive Pilots (permissions : Permissions) : List (Event PermissionCall) → Nat → Prop where
  | launched {asking look launch : Event PermissionCall} {flight : Nat}
      (launches : launch.Launches flight) : Pilots permissions [asking, look, launch] flight
  | asked {asking look launch query : Event PermissionCall} {flight : Nat}
      (launches : launch.Launches flight) (asks : query.Asks .rules) :
      Pilots permissions [asking, look, launch, query] flight
  | answered {asking look launch query read : Event PermissionCall} {flight : Nat}
      (launches : launch.Launches flight) (asks : query.Asks .rules) :
      Pilots permissions [asking, look, launch, query, read] flight
  | deferred {asking look launch query read deferral : Event PermissionCall} {flight : Nat}
      {map : RuleMap} (launches : launch.Launches flight) (asks : query.Asks .rules)
      (success : permissions.answerOf query.before read.before = .ok map) :
      Pilots permissions [asking, look, launch, query, read, deferral] flight

/-- By its steps, a lookup has launched a load and has only its outcome to make known. -/
inductive Arrives (permissions : Permissions) :
    List (Event PermissionCall) → Nat → Except StoreFault RuleMap → Prop where
  | failed {asking look launch query read : Event PermissionCall} {flight : Nat}
      {fault : StoreFault} (launches : launch.Launches flight) (asks : query.Asks .rules)
      (failure : permissions.answerOf query.before read.before = .error fault) :
      Arrives permissions [asking, look, launch, query, read] flight (.error fault)
  | loaded {asking look launch query read deferral : Event PermissionCall} {flight : Nat}
      {map : RuleMap} (launches : launch.Launches flight) (asks : query.Asks .rules)
      (success : permissions.answerOf query.before read.before = .ok map)
      (defers : deferral.after.writeBacks = deferral.before.writeBacks ++ [map]) :
      Arrives permissions [asking, look, launch, query, read, deferral] flight (.ok map)

/-- By its steps, a lookup has boarded a load and has only to wait for its outcome. -/
inductive Awaits (permissions : Permissions) : List (Event PermissionCall) → Nat → Prop where
  | joined {asking look join : Event PermissionCall} {flight : Nat}
      (taken : join.before.flight.slot = some flight) :
      Awaits permissions [asking, look, join] flight
  | landed {front : List (Event PermissionCall)} {land : Event PermissionCall} {flight : Nat}
      {outcome : Except StoreFault RuleMap} (arrives : Arrives permissions front flight outcome)
      (lands : land.after.flight.outcomes.lookup flight = some outcome) :
      Awaits permissions (front ++ [land]) flight

/-- What the steps of a lookup are, each by its place. -/
inductive Leg (permissions : Permissions) : List (Event PermissionCall) →
    Event PermissionCall → Prop where
  | asks {event : Event PermissionCall} (same : event.after = event.before.countCall .cacheGet) :
      Leg permissions [] event
  | looks {asking event : Event PermissionCall} (same : event.after = event.before) :
      Leg permissions [asking] event
  | joins {asking look event : Event PermissionCall} {flight : Nat}
      (taken : event.before.flight.slot = some flight) (same : event.after = event.before) :
      Leg permissions [asking, look] event
  | launches {asking look event : Event PermissionCall}
      (free : event.before.flight.slot = none)
      (same : event.after = { event.before with
        flight := { event.before.flight with
          slot := some event.before.flight.started,
          started := event.before.flight.started + 1 } }) :
      Leg permissions [asking, look] event
  | queries {asking look launch event : Event PermissionCall} {flight : Nat}
      (launches : launch.Launches flight) (same : event.after = event.before.countCall .rules) :
      Leg permissions [asking, look, launch] event
  | reads {asking look launch query event : Event PermissionCall} {flight : Nat}
      (launches : launch.Launches flight) (asks : query.Asks .rules)
      (same : event.after = event.before) : Leg permissions [asking, look, launch, query] event
  | defers {asking look launch query read event : Event PermissionCall} {flight : Nat}
      {map : RuleMap} (launches : launch.Launches flight) (asks : query.Asks .rules)
      (success : permissions.answerOf query.before read.before = .ok map)
      (same : event.after = { event.before with
        writeBacks := event.before.writeBacks ++ [map] }) :
      Leg permissions [asking, look, launch, query, read] event
  | lands {own : List (Event PermissionCall)} {event : Event PermissionCall} {flight : Nat}
      {outcome : Except StoreFault RuleMap} (arrives : Arrives permissions own flight outcome)
      (same : event.after = { event.before with
        flight := { event.before.flight with
          outcomes := (flight, outcome) :: event.before.flight.outcomes } }) :
      Leg permissions own event
  | leaves {own : List (Event PermissionCall)} {event : Event PermissionCall} {flight : Nat}
      {outcome : Except StoreFault RuleMap} (awaits : Awaits permissions own flight)
      (known : event.before.flight.outcomes.lookup flight = some outcome)
      (same : event.after = if event.before.flight.slot = some flight then
        { event.before with flight := { event.before.flight with slot := none } }
        else event.before) :
      Leg permissions own event

/-- A wait that is over in time, whatever the other calls do. -/
def Passes (wait : Wait Site) : Prop := wait = .none ∨ ∃ instant, wait = .for_ instant

/-- What a lookup waits for: as long as it only awaits a load, for the outcome of the load,
and before that for nothing but the time. -/
inductive Halt (permissions : Permissions) : List (Event PermissionCall) → Wait Site → Prop where
  | looking {own : List (Event PermissionCall)} {wait : Wait Site} (short : own.length < 3)
      (passes : Passes wait) : Halt permissions own wait
  | piloting {own : List (Event PermissionCall)} {wait : Wait Site} {flight : Nat}
      (pilots : Pilots permissions own flight) (passes : Passes wait) : Halt permissions own wait
  | awaiting {own : List (Event PermissionCall)} {flight : Nat}
      (awaits : Awaits permissions own flight) :
      Halt permissions own (.until_ fun site => (site.flight.outcomes.lookup flight).isSome)

/-- How a lookup ends: with the map that the cache yields, or with the outcome of the load
that it has boarded. -/
inductive Ends (permissions : Permissions) : List (Event PermissionCall) →
    Except StoreFault RuleMap → Prop where
  | cached {asking look : Event PermissionCall} {map : RuleMap}
      (yields : some map = yielded? (permissions.cacheAnswer asking.before look.before)) :
      Ends permissions [asking, look] (.ok map)
  | served {front : List (Event PermissionCall)} {leave : Event PermissionCall} {flight : Nat}
      {outcome : Except StoreFault RuleMap} (awaits : Awaits permissions front flight)
      (known : leave.before.flight.outcomes.lookup flight = some outcome)
      (stays : leave.after.flight.outcomes = leave.before.flight.outcomes) :
      Ends permissions (front ++ [leave]) outcome

/-- An invalidation and a write back are a call of the cache each, and touch neither the
loads nor what is left to be written. -/
structure Passing (own : List (Event PermissionCall)) (event : Event PermissionCall) : Prop where
  short : own.length < 2
  flight : event.after.flight = event.before.flight
  writeBacks : event.after.writeBacks = event.before.writeBacks
  queries : event.after.calls .rules = event.before.calls .rules

/-- What is laid down for the calls. -/
def itinerary (permissions : Permissions) : PermissionCall → Itinerary PermissionCall
  | .look _ => ⟨permissions.Leg, permissions.Halt⟩
  | .invalidate => ⟨Passing, fun _ _ => True⟩
  | .writeBack _ => ⟨Passing, fun _ _ => True⟩

/-- How the calls end. -/
def arrival (permissions : Permissions) : (call : PermissionCall) →
    List (Event PermissionCall) → permissions.workload.Answer call → Prop
  | .look lookup, own, answer =>
      ∃ outcome, permissions.Ends own outcome ∧ answer = lookup.shown outcome
  | .invalidate, _, _ => True
  | .writeBack _, _, _ => True

/-! ## Places on the way -/

theorem Arrives.pilots (arrives : permissions.Arrives own flight outcome) :
    permissions.Pilots own flight := by
  cases arrives with
  | failed launches asks failure => exact .answered launches asks
  | loaded launches asks success defers => exact .deferred launches asks success

/-- Who launches a load has boarded it. -/
theorem aboard?_of_launches {asking look launch : Event PermissionCall}
    {rest : List (Event PermissionCall)} (launches : launch.Launches flight) :
    aboard? (asking :: look :: launch :: rest) = some flight := by
  rw [aboard?, launches.free, launches.number]
  rfl

theorem Pilots.aboard? (pilots : permissions.Pilots own flight) : aboard? own = some flight := by
  cases pilots with
  | launched launches => exact aboard?_of_launches launches
  | asked launches asks => exact aboard?_of_launches launches
  | answered launches asks => exact aboard?_of_launches launches
  | deferred launches asks success => exact aboard?_of_launches launches

theorem Awaits.aboard? (awaits : permissions.Awaits own flight) : aboard? own = some flight := by
  cases awaits with
  | joined taken =>
      rw [Gatehouse.aboard?, taken]
      rfl
  | landed arrives lands =>
      cases arrives with
      | failed launches asks failure => exact aboard?_of_launches launches
      | loaded launches asks success defers => exact aboard?_of_launches launches

/-- Who pilots a load has just launched it or was piloting it before. -/
theorem Pilots.snoc (pilots : permissions.Pilots (own ++ [event]) flight) :
    event.Launches flight ∨ permissions.Pilots own flight := by
  have split : ∀ (front : List (Event PermissionCall)) {last : Event PermissionCall},
      own ++ [event] = front ++ [last] → own = front ∧ event = last := by
    intro front last same
    obtain ⟨early, late⟩ := List.append_inj' same rfl
    exact ⟨early, List.singleton_inj.mp late⟩
  generalize steps : own ++ [event] = all at pilots
  cases pilots with
  | @launched asking look launch _ launches =>
      obtain ⟨rfl, rfl⟩ := split [asking, look] steps
      exact .inl launches
  | @asked asking look launch query _ launches asks =>
      obtain ⟨rfl, rfl⟩ := split [asking, look, launch] steps
      exact .inr (.launched launches)
  | @answered asking look launch query read _ launches asks =>
      obtain ⟨rfl, rfl⟩ := split [asking, look, launch, query] steps
      exact .inr (.asked launches asks)
  | @deferred asking look launch query read deferral _ map launches asks success =>
      obtain ⟨rfl, rfl⟩ := split [asking, look, launch, query, read] steps
      exact .inr (.answered launches asks)

/-- Who pilots a load has launched it. -/
theorem Pilots.launches (pilots : permissions.Pilots own flight) :
    ∃ launch ∈ own, launch.Launches flight := by
  cases pilots with
  | launched launches => exact ⟨_, by simp, launches⟩
  | asked launches asks => exact ⟨_, by simp, launches⟩
  | answered launches asks => exact ⟨_, by simp, launches⟩
  | deferred launches asks success => exact ⟨_, by simp, launches⟩

/-- Who has made the outcome of a load known pilots it no longer. -/
theorem Arrives.not_pilots {land : Event PermissionCall} {other : Nat}
    (arrives : permissions.Arrives own flight outcome) :
    ¬ permissions.Pilots (own ++ [land]) other := by
  intro pilots
  cases arrives with
  | failed launches asks failure =>
      cases pilots with
      | deferred _ _ success =>
          rw [failure] at success
          injection success
  | loaded launches asks success defers => nomatch pilots

/-- Who only awaits a load does not pilot one. -/
theorem Awaits.not_pilots {other : Nat} (awaits : permissions.Awaits own flight) :
    ¬ permissions.Pilots own other := by
  intro pilots
  cases awaits with
  | joined taken =>
      cases pilots with
      | launched launches =>
          rw [launches.free] at taken
          injection taken
  | landed arrives lands => exact arrives.not_pilots pilots

/-- Who only awaits a load has boarded one. -/
theorem Awaits.length (awaits : permissions.Awaits own flight) : 3 ≤ own.length := by
  rcases Nat.lt_or_ge own.length 3 with short | long
  · have boarded := awaits.aboard?
    rw [aboard?_of_short short] at boarded
    injection boarded
  · exact long

/-- Who only awaits a load goes on when its outcome is known, and frees the slot if the load
still holds it. -/
theorem Awaits.leaves (awaits : permissions.Awaits own flight)
    (leg : permissions.Leg own event) :
    (event.before.flight.outcomes.lookup flight).isSome ∧
      event.after = if event.before.flight.slot = some flight then
        { event.before with flight := { event.before.flight with slot := none } }
        else event.before := by
  have long := awaits.length
  cases leg with
  | asks same => simp at long
  | looks same => simp at long
  | joins taken same => simp at long
  | launches free same => simp at long
  | queries launches same => exact (awaits.not_pilots (.launched launches)).elim
  | reads launches asks same => exact (awaits.not_pilots (.asked launches asks)).elim
  | defers launches asks success same => exact (awaits.not_pilots (.answered launches asks)).elim
  | lands arrives same => exact (awaits.not_pilots arrives.pilots).elim
  | leaves also known same =>
      obtain rfl := Option.some.inj (awaits.aboard?.symm.trans also.aboard?)
      exact ⟨by rw [known]; rfl, same⟩

/-- Behind its wait for a load a lookup has nothing to wait for. -/
theorem Awaits.not_halt {wait : Wait Site} (awaits : permissions.Awaits own flight)
    (leg : permissions.Leg own event) : ¬ permissions.Halt (own ++ [event]) wait := by
  have idle : ∀ other, ¬ event.Launches other := by
    intro other
    apply Event.not_launches
    rw [(awaits.leaves leg).2]
    split
    · exact .inr rfl
    · exact .inl rfl
  have long := awaits.length
  intro halts
  cases halts with
  | looking short passes =>
      rw [List.length_append] at short
      omega
  | piloting pilots passes =>
      rcases pilots.snoc with launches | before
      · exact idle _ launches
      · exact awaits.not_pilots before
  | awaiting again =>
      generalize steps : own ++ [event] = all at again
      cases again with
      | joined taken =>
          have shorter := congrArg List.length steps
          simp at shorter
          omega
      | landed arrives lands =>
          obtain ⟨rfl, -⟩ := List.append_inj' steps rfl
          exact awaits.not_pilots arrives.pilots

/-- Who has launched a load and only awaits it has made its outcome known. -/
theorem Awaits.lands {asking look launch : Event PermissionCall}
    {rest : List (Event PermissionCall)}
    (awaits : permissions.Awaits (asking :: look :: launch :: rest) flight)
    (launches : launch.Launches number) : ∃ land ∈ asking :: look :: launch :: rest,
      ∃ outcome, land.after.flight.outcomes.lookup flight = some outcome := by
  generalize steps : asking :: look :: launch :: rest = own at awaits
  cases awaits with
  | joined taken =>
      obtain ⟨-, -, rfl, -⟩ : asking = _ ∧ look = _ ∧ launch = _ ∧ rest = [] := by
        simpa using steps
      rw [launches.free] at taken
      injection taken
  | landed arrives lands => exact ⟨_, by simp, _, lands⟩

/-- Who has only awaited a load ends with its outcome. -/
theorem Awaits.ends (awaits : permissions.Awaits own flight)
    (ends : permissions.Ends (own ++ [event]) outcome) :
    event.before.flight.outcomes.lookup flight = some outcome := by
  have long := awaits.length
  generalize steps : own ++ [event] = all at ends
  cases ends with
  | cached yields =>
      have shorter := congrArg List.length steps
      simp at shorter
      omega
  | served also known stays =>
      obtain ⟨rfl, last⟩ := List.append_inj' steps rfl
      obtain rfl := List.singleton_inj.mp last
      obtain rfl := Option.some.inj (awaits.aboard?.symm.trans also.aboard?)
      exact known

/-- What a load has come to has been read off the store. -/
theorem Arrives.landed {trace : Trace PermissionCall}
    (arrives : permissions.Arrives (trace.steps number) flight outcome) :
    trace.Landed permissions flight outcome := by
  generalize steps : trace.steps number = own at arrives
  cases arrives with
  | failed launches asks failure =>
      exact ⟨number, [_, _], _, _, launches, _, [], steps, asks, failure.symm⟩
  | loaded launches asks success defers =>
      exact ⟨number, [_, _], _, _, launches, _, [_], steps, asks, success.symm⟩

/-! ## The routines -/

section Travels

variable {lookup : Lookup}

/-- With its first two steps, a lookup looks into the cache. -/
theorem travels_readCached : permissions.readCached.Travels (permissions.itinerary (.look lookup))
    number (.look lookup) (fun own found => ∃ asking look, own = [asking, look] ∧
      found = yielded? (permissions.cacheAnswer asking.before look.before)) [] := by
  have asked : (callStore "cache.get" permissions.timeout .cacheGet fun site =>
      (.ok (site.cache.get? site.clock cacheKey), site)).toRoutine.Travels
        (permissions.itinerary (.look lookup)) number (.look lookup)
        (fun own answer => ∃ asking look, own = [asking, look] ∧
          answer = permissions.cacheAnswer asking.before look.before) [] := by
    apply Routine.travels_callStore
    · exact .looking (by decide) (.inl rfl)
    · intro called
      exact ⟨.asks rfl, fun instant => .looking (by simp) (.inr ⟨instant, rfl⟩)⟩
    · rintro called site answer came
      refine ⟨.looks ?_, _, _, rfl, by rw [came, cacheAnswer]⟩
      rcases storeAnswer_cases "cache.get" permissions.timeout called.clock
        (called.conditions .cacheGet)
        (fun site => (.ok (site.cache.get? site.clock cacheKey), site)) site with
        ⟨fault, failed⟩ | answered
      · rw [came, failed]
      · rw [came, answered]
  apply Routine.travels_bind asked
  rintro answer own ⟨asking, look, steps, came⟩
  have finds : yielded? answer = yielded? (permissions.cacheAnswer asking.before look.before) := by
    rw [came]
  rcases answer with fault | (_ | text) <;> exact ⟨asking, look, steps, finds⟩

/-- Behind its look into the cache, a lookup joins the load that is under way or launches
one. -/
theorem travels_joinFlight {asking look : Event PermissionCall} :
    joinFlight.Travels (permissions.itinerary (.look lookup)) number (.look lookup)
      (fun own joined => if joined.2
        then ∃ launch, own = [asking, look, launch] ∧ launch.Launches joined.1
        else permissions.Awaits own joined.1) [asking, look] := by
  apply Routine.travels_atomically
  · exact .looking (by simp) (.inl rfl)
  · intro site
    cases taken : site.flight.slot with
    | some flight => exact ⟨.joins taken rfl, .joined taken⟩
    | none => exact ⟨.launches taken rfl, _, rfl, taken, rfl, rfl⟩

/-- Who has launched a load reads the rules and leaves their map to be written. -/
theorem travels_load {asking look launch : Event PermissionCall}
    (launches : launch.Launches flight) :
    permissions.load.toRoutine.Travels (permissions.itinerary (.look lookup)) number
      (.look lookup) (fun own outcome => permissions.Arrives own flight outcome)
      [asking, look, launch] := by
  have asked : (callStore "permissions.find_active" permissions.timeout .rules fun site =>
      (.ok site.rules.active, site)).toRoutine.Travels (permissions.itinerary (.look lookup))
        number (.look lookup) (fun own answer => ∃ query read,
          own = [asking, look, launch, query, read] ∧ query.Asks .rules ∧
            permissions.answerOf query.before read.before = answer.map RuleMap.ofRules)
        [asking, look, launch] := by
    apply Routine.travels_callStore
    · exact .piloting (.launched launches) (.inl rfl)
    · intro called
      refine ⟨.queries launches rfl, ?_⟩
      intro instant
      exact .piloting (.asked launches (by simp)) (.inr ⟨instant, rfl⟩)
    · rintro called site answer came
      refine ⟨.reads launches (by simp) ?_, _, _, rfl, by simp, ?_⟩
      · rcases storeAnswer_cases "permissions.find_active" permissions.timeout called.clock
          (called.conditions .rules) (fun site => (.ok site.rules.active, site)) site with
          ⟨fault, failed⟩ | answered
        · rw [came, failed]
        · rw [came, answered]
      · rw [came, answerOf]
  apply Task.travels_bind asked
  · rintro rules _ ⟨query, read, rfl, asks, success⟩
    have deferred : (deferWriteBack (.ofRules rules)).Travels
        (permissions.itinerary (.look lookup)) number (.look lookup)
        (fun own _ => permissions.Arrives own flight (.ok (.ofRules rules)))
        [asking, look, launch, query, read] := by
      apply Routine.travels_change
      · exact .piloting (.answered launches asks) (.inl rfl)
      · intro site
        exact ⟨.defers launches asks success rfl, .loaded launches asks success rfl⟩
    exact Task.travels_lift_bind deferred fun _ own arrives => arrives
  · rintro fault _ ⟨query, read, rfl, asks, failure⟩
    exact .failed launches asks failure

theorem travels_landFlight (arrives : permissions.Arrives own flight outcome) :
    (landFlight flight outcome).Travels (permissions.itinerary (.look lookup)) number
      (.look lookup) (fun own _ => permissions.Awaits own flight) own := by
  apply Routine.travels_change
  · exact .piloting arrives.pilots (.inl rfl)
  · intro site
    refine ⟨.lands arrives rfl, .landed arrives ?_⟩
    simp

theorem travels_leaveFlight (awaits : permissions.Awaits own flight) :
    (leaveFlight flight).Travels (permissions.itinerary (.look lookup)) number (.look lookup)
      permissions.Ends own := by
  apply Routine.travels_after
  · exact .awaiting awaits
  · intro site ready
    obtain ⟨outcome, known⟩ := Option.isSome_iff_exists.mp ready
    rw [known, Option.getD_some]
    split
    · next holds =>
        exact ⟨.leaves awaits known (if_pos holds).symm, .served awaits known rfl⟩
    · next holds =>
        exact ⟨.leaves awaits known (if_neg holds).symm, .served awaits known rfl⟩

theorem travels_loadShared {asking look : Event PermissionCall} :
    permissions.loadShared.toRoutine.Travels (permissions.itinerary (.look lookup)) number
      (.look lookup) permissions.Ends [asking, look] := by
  apply Routine.travels_bind travels_joinFlight
  rintro ⟨flight, isFirst⟩ own joined
  cases isFirst with
  | false => exact travels_leaveFlight joined
  | true =>
      obtain ⟨launch, rfl, launches⟩ := joined
      apply Routine.travels_bind (travels_load launches)
      intro outcome own arrives
      apply Routine.travels_bind (travels_landFlight arrives)
      intro _ own awaits
      exact travels_leaveFlight awaits

/-- A call of the cache by itself. -/
theorem travels_passing {α : Type} {operation : String} {backend : Backend}
    {act : Site → Except StoreFault α × Site} {call : PermissionCall}
    (laid : permissions.itinerary call = ⟨Passing, fun _ _ => True⟩) (other : backend ≠ .rules)
    (acts : ∀ site, (act site).2.flight = site.flight ∧
      (act site).2.writeBacks = site.writeBacks ∧ (act site).2.calls = site.calls) :
    (callStore operation permissions.timeout backend act).toRoutine.Travels
      (permissions.itinerary call) number call (fun _ _ => True) [] := by
  rw [laid]
  apply Routine.travels_callStore trivial
  · intro called
    refine ⟨⟨by simp, rfl, rfl, ?_⟩, fun _ => trivial⟩
    simp [Site.countCall, Ne.symm other]
  · rintro called site answer rfl
    refine ⟨?_, trivial⟩
    rcases storeAnswer_cases operation permissions.timeout called.clock
      (called.conditions backend) act site with ⟨fault, failed⟩ | answered
    · rw [failed]
      exact ⟨by simp, rfl, rfl, rfl⟩
    · rw [answered]
      exact ⟨by simp, (acts site).1, (acts site).2.1, congrFun (acts site).2.2 .rules⟩

/-- With single flight, the calls travel as it is laid down for them. -/
theorem travels (shared : permissions.singleFlight = true) :
    permissions.workload.Travels permissions.itinerary permissions.arrival := by
  intro number call
  cases call with
  | look lookup =>
      change (lookup.program permissions).Travels _ _ _ _ _
      rw [Lookup.program_eq]
      have fetched : permissions.tryGetAll.toRoutine.Travels
          (permissions.itinerary (.look lookup)) number (.look lookup) permissions.Ends [] := by
        rw [tryGetAll_eq, shared]
        apply Routine.travels_bind travels_readCached
        rintro found _ ⟨asking, look, rfl, finds⟩
        cases found with
        | some map => exact .cached finds
        | none => exact travels_loadShared
      apply Routine.travels_bind fetched
      intro outcome own ends
      exact ⟨outcome, ends, rfl⟩
  | invalidate => exact travels_passing rfl (by decide) fun site => ⟨rfl, rfl, rfl⟩
  | writeBack map =>
      refine Routine.travels_bind (travels_passing rfl (by decide) fun site => ?_) fun _ _ _ =>
        trivial
      split <;> exact ⟨rfl, rfl, rfl⟩

end Travels

end Permissions

end Gatehouse
