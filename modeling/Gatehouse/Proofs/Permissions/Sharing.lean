import Gatehouse.Proofs.Permissions.Flights
import Gatehouse.Proofs.Permissions.Served

/-!
# One load for many lookups

With single flight, lookups that find no map at the same time share one load. However their
steps are interleaved, over as many generations of loads as there may be, each caller is
answered with the outcome of the load that it has boarded, a load costs what one lookup
would cost, and no load stays in the slot behind its outcome for longer than its callers
have to run.
-/

namespace Gatehouse

/-! ## What a load costs -/

instance (event : Event PermissionCall) (backend : Backend) : Decidable (event.Asks backend) :=
  inferInstanceAs (Decidable (_ = _))

/-- The queries that the store of the rules is asked in an event. -/
def Event.queried (event : Event PermissionCall) : List (Event PermissionCall) :=
  if event.Asks .rules then [event] else []

/-- The maps that an event leaves to be written back. -/
def Event.left (event : Event PermissionCall) : List RuleMap :=
  event.after.writeBacks.drop event.before.writeBacks.length

namespace Trace

/-- What the steps of the callers of a load cost, all together. -/
def spent {β : Type} (trace : Trace PermissionCall) (cost : Event PermissionCall → List β)
    (flight : Nat) : List β :=
  (trace.filter fun event => (event.act.stepOf?.bind trace.aboard?) == some flight).flatMap cost

/-- The maps that calls have left to be written back. -/
def left (trace : Trace PermissionCall) : List RuleMap :=
  (trace.filter fun event => event.act.stepOf?.isSome).flatMap Event.left

/-- The maps whose writing back has begun. -/
def writtenBack (trace : Trace PermissionCall) : List RuleMap :=
  trace.filterMap fun event => match event.act with
    | .begins _ (.writeBack map) => some map
    | _ => none

end Trace

namespace Permissions

/-- Lookups that share their loads: what is so of every run. -/
structure SharesLoads (permissions : Permissions) (start : Site) (trace : Trace PermissionCall)
    (site : Site) (threads : List permissions.orderlyWorkload.Thread) : Prop where
  /-- A lookup that has been answered and has boarded no load shows a map of the cache. -/
  cached : ∀ caller lookup (answer : lookup.Answer),
    permissions.orderlyWorkload.Answered threads caller (.look lookup) answer →
      trace.aboard? caller = none → ∃ map, trace.Finds permissions caller (some map) ∧
        answer = lookup.shown (.ok map)
  /-- A load that has been launched and has not come to its outcome is the one in the slot. -/
  single : ∀ launch ∈ trace, ∀ flight, launch.Launches flight →
    site.flight.outcomes.lookup flight = none → site.flight.slot = some flight
  /-- The outcome of a load is what its pilot has read off the store. -/
  landed : ∀ caller flight outcome, trace.aboard? caller = some flight →
    site.flight.outcomes.lookup flight = some outcome → trace.Landed permissions flight outcome
  /-- A caller that has been answered shows the outcome of the load that it has boarded. -/
  answered : ∀ caller lookup (answer : lookup.Answer) flight,
    permissions.orderlyWorkload.Answered threads caller (.look lookup) answer →
      trace.aboard? caller = some flight → ∃ outcome,
        site.flight.outcomes.lookup flight = some outcome ∧ answer = lookup.shown outcome
  /-- A caller whose load has an outcome has been answered or will be with its next step,
  which it can take at once. -/
  answers : ∀ caller lookup left flight outcome,
    threads[caller]? = some ⟨.look lookup, left⟩ → trace.aboard? caller = some flight →
      site.flight.outcomes.lookup flight = some outcome →
        left = .done (lookup.shown outcome) ∨ ∃ wait act next, left = .step wait act next ∧
          wait.ready site = true ∧ next site = .done (lookup.shown outcome)
  /-- As long as a load has no outcome, one of its callers goes on whatever the others do. -/
  piloted : ∀ caller flight, trace.aboard? caller = some flight →
    site.flight.outcomes.lookup flight = none → ∃ pilot lookup wait act next,
      threads[pilot]? = some ⟨.look lookup, .step wait act next⟩ ∧
        trace.aboard? pilot = some flight ∧ Passes wait
  /-- The callers of a load ask the store once and leave its map to be written back once, or
  not at all where the load fails. -/
  costs : ∀ caller flight outcome, trace.aboard? caller = some flight →
    site.flight.outcomes.lookup flight = some outcome →
      (trace.spent Event.queried flight).length = 1 ∧
        trace.spent Event.left flight = outcome.toOption.toList
  /-- As long as the load has no outcome, they do it once at most. -/
  bounded : ∀ caller flight, trace.aboard? caller = some flight →
    (trace.spent Event.queried flight).length ≤ 1 ∧ (trace.spent Event.left flight).length ≤ 1
  /-- Nobody else does either. -/
  aboard : ∀ event ∈ trace, ∀ caller, event.act.stepOf? = some caller →
    event.Asks .rules ∨ event.left ≠ [] → (trace.aboard? caller).isSome
  /-- Each map that is left is written back once. -/
  writtenBack : (trace.writtenBack ++ site.writeBacks).Perm (start.writeBacks ++ trace.left)
  /-- A load is taken out of the slot by a caller of its own, behind its outcome. -/
  evicted : ∀ early event late flight, trace = early ++ event :: late →
    event.before.flight.slot = some flight → event.after.flight.slot ≠ some flight →
      ∃ caller, event.act.stepOf? = some caller ∧ Trace.aboard? early caller = some flight ∧
        (event.before.flight.outcomes.lookup flight).isSome
  /-- A caller that has been answered has run since its load came to its outcome. -/
  alighted : ∀ caller lookup (answer : lookup.Answer) flight,
    permissions.orderlyWorkload.Answered threads caller (.look lookup) answer →
      trace.aboard? caller = some flight → trace.Alighted caller flight
  /-- When one caller of a load has run since the outcome, the slot does not hold the load. -/
  cleared : ∀ caller flight, trace.Alighted caller flight → site.flight.slot ≠ some flight
  /-- Whoever boards a load behind that, boards one that was launched when the outcome of
  the older one was known. -/
  renewed : ∀ early late caller flight other next, trace = early ++ late →
    Trace.Alighted early caller flight → Trace.aboard? early other = none →
      trace.aboard? other = some next → flight < next ∧ ∃ front launch back,
        trace = front ++ launch :: back ∧ launch.Launches next ∧
          (launch.before.flight.outcomes.lookup flight).isSome

variable {permissions : Permissions} {start site : Site} {trace early late : Trace PermissionCall}
  {threads : List permissions.orderlyWorkload.Thread} {own : List (Event PermissionCall)}
  {event : Event PermissionCall} {caller flight : Nat} {outcome : Except StoreFault RuleMap}

/-! ## The price of a step -/

/-- Who carries a load out asks the store in one place on the way and leaves a map in
another; no other step does either. -/
theorem Leg.spends (leg : permissions.Leg own event) :
    (event.after.calls .rules = event.before.calls .rules ∧
        event.after.writeBacks = event.before.writeBacks) ∨
      (own.length = 3 ∧ (∃ flight, permissions.Pilots own flight) ∧
        event.after = event.before.countCall .rules) ∨
      (own.length = 5 ∧ (∃ flight, permissions.Pilots own flight) ∧ ∃ map,
        event.after = { event.before with writeBacks := event.before.writeBacks ++ [map] }) := by
  cases leg with
  | asks same => exact .inl (by rw [same]; exact ⟨rfl, rfl⟩)
  | looks same => exact .inl (by rw [same]; exact ⟨rfl, rfl⟩)
  | joins taken same => exact .inl (by rw [same]; exact ⟨rfl, rfl⟩)
  | launches free same => exact .inl (by rw [same]; exact ⟨rfl, rfl⟩)
  | queries launches same => exact .inr (.inl ⟨rfl, ⟨_, .launched launches⟩, same⟩)
  | reads launches asks same => exact .inl (by rw [same]; exact ⟨rfl, rfl⟩)
  | defers launches asks success same =>
      exact .inr (.inr ⟨rfl, ⟨_, .answered launches asks⟩, _, same⟩)
  | lands arrives same => exact .inl (by rw [same]; exact ⟨rfl, rfl⟩)
  | leaves awaits known same =>
      refine .inl ?_
      rw [same]
      split <;> exact ⟨rfl, rfl⟩

/-- What only pilots of loads pay, each once and in one place on the way. -/
structure Fare {β : Type} (permissions : Permissions) (cost : Event PermissionCall → List β)
    (place : Nat) : Prop where
  passing : ∀ own event, Passing own event → cost event = []
  paid : ∀ own event, permissions.Leg own event → cost event ≠ [] →
    own.length = place ∧ (cost event).length = 1 ∧ ∃ flight, permissions.Pilots own flight

theorem left_of_same (same : event.after.writeBacks = event.before.writeBacks) :
    event.left = [] := by
  rw [Event.left, same, List.drop_length]

theorem queried_of_same (same : event.after.calls .rules = event.before.calls .rules) :
    event.queried = [] := by
  rw [Event.queried, if_neg]
  rw [Event.Asks, same]
  omega

theorem queried_of_asks (asks : event.Asks .rules) : event.queried = [event] := by
  rw [Event.queried, if_pos asks]

theorem left_of_append {map : RuleMap}
    (defers : event.after.writeBacks = event.before.writeBacks ++ [map]) :
    event.left = [map] := by
  rw [Event.left, defers, List.drop_left]

theorem fare_queried : permissions.Fare Event.queried 3 where
  passing := fun _ _ passing => queried_of_same passing.queries
  paid := by
    intro own event leg paid
    rcases leg.spends with ⟨same, -⟩ | ⟨place, pilots, asks⟩ | ⟨-, -, map, defers⟩
    · exact absurd (queried_of_same same) paid
    · refine ⟨place, ?_, pilots⟩
      rw [queried_of_asks (by simp [Event.Asks, asks, Site.countCall])]
      rfl
    · exact absurd (queried_of_same (by rw [defers])) paid

theorem fare_left : permissions.Fare Event.left 5 where
  passing := fun _ _ passing => left_of_same passing.writeBacks
  paid := by
    intro own event leg paid
    rcases leg.spends with ⟨-, same⟩ | ⟨-, -, asks⟩ | ⟨place, pilots, map, defers⟩
    · exact absurd (left_of_same same) paid
    · exact absurd (left_of_same (by rw [asks]; rfl)) paid
    · refine ⟨place, ?_, pilots⟩
      rw [left_of_append (by rw [defers])]
      rfl

/-- Where the load fails, no map is left. -/
theorem left_of_failed {fault : StoreFault}
    (arrives : permissions.Arrives own flight (.error fault)) (leg : permissions.Leg own event) :
    event.left = [] := by
  cases arrives with
  | failed launches asks failure =>
      cases leg with
      | defers _ _ success same =>
          rw [failure] at success
          injection success
      | lands arrives same => exact left_of_same (by rw [same])
      | leaves awaits known same =>
          exact absurd (.answered launches asks) awaits.not_pilots

/-! ## The price of a load -/

/-- Two selections of a list cost the same if they differ only in what costs nothing. -/
theorem flatMap_filter_congr {α β : Type} {cost : α → List β} {these those : α → Bool}
    {list : List α} (same : ∀ value ∈ list, cost value ≠ [] → these value = those value) :
    (list.filter these).flatMap cost = (list.filter those).flatMap cost := by
  induction list with
  | nil => rfl
  | cons head rest ih =>
      have tail := ih fun value member => same value (List.mem_cons_of_mem _ member)
      by_cases free : cost head = []
      · rw [List.filter_cons, List.filter_cons]
        split <;> split <;> simp [free, tail]
      · rw [List.filter_cons, List.filter_cons, same head List.mem_cons_self free]
        split <;> simp [tail]

section Fares

variable {β : Type} {cost : Event PermissionCall → List β} {place : Nat}
  (fare : permissions.Fare cost place) (shared : permissions.singleFlight = true)
  (run : permissions.orderlyWorkload.Run start trace site threads)

include fare shared run

/-- Whoever pays is the pilot of a load and has come to the place where it pays. -/
theorem paid_of_steps {front back : List (Event PermissionCall)}
    (steps : trace.steps caller = front ++ event :: back) (paid : cost event ≠ []) :
    front.length = place ∧ (cost event).length = 1 ∧ ∃ flight, permissions.Pilots front flight := by
  obtain ⟨call, -, leg⟩ := run.leg_of_steps (permissions.travels shared) steps
  cases call with
  | look lookup => exact fare.paid _ _ leg paid
  | invalidate => exact absurd (fare.passing _ _ leg) paid
  | writeBack map => exact absurd (fare.passing _ _ leg) paid

/-- A caller that has come to the place where it pays has paid nothing else. -/
theorem spent_of_place {front back : List (Event PermissionCall)}
    (steps : trace.steps caller = front ++ event :: back) (here : front.length = place) :
    (trace.steps caller).flatMap cost = cost event := by
  have before : front.flatMap cost = [] := by
    rw [List.flatMap_eq_nil_iff]
    intro other member
    apply Classical.byContradiction
    intro paid
    obtain ⟨early, late, rfl⟩ := List.append_of_mem member
    rw [List.append_assoc] at steps
    have elsewhere := (paid_of_steps fare shared run steps paid).1
    rw [List.length_append, List.length_cons] at here
    omega
  have behind : back.flatMap cost = [] := by
    rw [List.flatMap_eq_nil_iff]
    intro other member
    apply Classical.byContradiction
    intro paid
    obtain ⟨early, late, rfl⟩ := List.append_of_mem member
    rw [← List.cons_append, ← List.append_assoc] at steps
    have elsewhere := (paid_of_steps fare shared run steps paid).1
    rw [List.length_append, List.length_cons] at elsewhere
    omega
  rw [steps, List.flatMap_append, List.flatMap_cons, before, behind]
  simp

/-- A caller pays once at most. -/
theorem spent_le_one : ((trace.steps caller).flatMap cost).length ≤ 1 := by
  rcases Classical.em (∃ event ∈ trace.steps caller, cost event ≠ []) with
    ⟨event, member, paid⟩ | free
  · obtain ⟨front, back, steps⟩ := List.append_of_mem member
    obtain ⟨here, once, -⟩ := paid_of_steps fare shared run steps paid
    rw [spent_of_place fare shared run steps here]
    exact Nat.le_of_eq once
  · rw [List.flatMap_eq_nil_iff.mpr]
    · exact Nat.zero_le 1
    · intro event member
      apply Classical.byContradiction
      intro paid
      exact free ⟨event, member, paid⟩

/-- What a load costs its callers is what it costs its pilot. -/
theorem spent_eq (idle : start.flight.IsIdle) {front rest : List (Event PermissionCall)}
    (steps : trace.steps caller = front ++ rest) (pilots : permissions.Pilots front flight) :
    trace.spent cost flight = (trace.steps caller).flatMap cost := by
  refine flatMap_filter_congr ?_
  intro event member paid
  have boarded : trace.aboard? caller = some flight := by
    rw [Trace.aboard?, steps]
    exact aboard?_append pilots.aboard? rest
  cases own : event.act.stepOf? with
  | none => rfl
  | some payer =>
      rw [Option.bind_some]
      rw [Bool.eq_iff_iff, beq_iff_eq, beq_iff_eq]
      constructor
      · intro also
        obtain ⟨before, behind, theirs⟩ :=
          List.append_of_mem (Trace.mem_steps.mpr ⟨member, own⟩)
        obtain ⟨-, -, other, piloted⟩ := paid_of_steps fare shared run theirs paid
        have same : aboard? (trace.steps payer) = some other := by
          rw [theirs]
          exact aboard?_append piloted.aboard? _
        obtain rfl := Option.some.inj (same.symm.trans also)
        obtain ⟨launch, among, launches⟩ := pilots.launches
        obtain ⟨relaunch, within, relaunches⟩ := piloted.launches
        have first : launch ∈ trace.steps caller := by
          rw [steps]
          exact List.mem_append_left _ among
        have second : relaunch ∈ trace.steps payer := by
          rw [theirs]
          exact List.mem_append_left _ within
        rw [Trace.mem_steps] at first second
        have once := (boards_of_run shared run idle).once launch first.1 relaunch second.1 _
          launches relaunches
        rw [← second.2, ← once, first.2]
      · intro same
        rw [Option.some.inj same]
        exact boarded

end Fares

/-! ## The calls of a run -/

section Runs

variable (shared : permissions.singleFlight = true) (idle : start.flight.IsIdle)
  (run : permissions.orderlyWorkload.Run start trace site threads)

include shared run

/-- Whoever has launched a load is a lookup, and has done so with its third step. -/
theorem pilot_of_launches {launch : Event PermissionCall} (member : launch ∈ trace)
    (launches : launch.Launches flight) :
    ∃ pilot lookup asking look rest, launch.act = .takes pilot (.look lookup) ∧
      trace.steps pilot = asking :: look :: launch :: rest := by
  obtain ⟨early, late, split⟩ := List.append_of_mem member
  have idle : launch.after.flight.slot = launch.before.flight.slot ∨
      launch.after.flight.slot = none → False := fun same => Event.not_launches same launches
  cases moves_of_run shared run split with
  | rests same unboarded => exact (idle (.inl (by rw [same]))).elim
  | joins own steps taken same => exact (idle (.inl (by rw [same]))).elim
  | carries own pilots same => exact (idle (.inl (by rw [same]))).elim
  | lands own arrives landed => exact (idle (.inl (by rw [landed]))).elim
  | leaves own awaits known left =>
      refine (idle ?_).elim
      rw [left]
      split
      · exact .inr rfl
      · exact .inl rfl
  | @launches pilot asking look own steps free begun =>
      obtain ⟨call, act, leg⟩ := run.leg (permissions.travels shared) split own
      have whole : trace.steps pilot = asking :: look :: launch :: Trace.steps pilot late := by
        rw [split, Trace.steps_split own, steps]
        rfl
      rw [steps] at leg
      cases call with
      | look lookup => exact ⟨pilot, lookup, asking, look, _, act, whole⟩
      | invalidate =>
          have short := Passing.short leg
          simp at short
      | writeBack map =>
          have short := Passing.short leg
          simp at short

/-- A load is taken out of the slot by a caller of its own, behind its outcome. -/
theorem evicted_by_caller (split : trace = early ++ event :: late)
    (taken : event.before.flight.slot = some flight)
    (freed : event.after.flight.slot ≠ some flight) :
    ∃ caller, event.act.stepOf? = some caller ∧ early.aboard? caller = some flight ∧
      (event.before.flight.outcomes.lookup flight).isSome := by
  cases moves_of_run shared run split with
  | rests same unboarded => exact absurd (by rw [same, taken]) freed
  | joins own steps held same => exact absurd (by rw [same, taken]) freed
  | launches own steps free begun =>
      rw [free] at taken
      injection taken
  | carries own pilots same => exact absurd (by rw [same, taken]) freed
  | lands own arrives landed => exact absurd (by rw [landed, taken]) freed
  | @leaves caller other outcome own awaits known left =>
      by_cases same : other = flight
      · subst same
        exact ⟨caller, own, awaits.aboard?, by rw [known]; rfl⟩
      · rw [if_neg (by rw [taken]; exact fun also => same (Option.some.inj also).symm)] at left
        exact absurd (by rw [left, taken]) freed

/-- When a load is launched, the outcomes of the older ones are known. -/
theorem known_of_launches {launch : Event PermissionCall} {next : Nat}
    (split : trace = early ++ launch :: late) (launches : launch.Launches next)
    (since : start.flight.started ≤ flight) (older : flight < next) :
    (launch.before.flight.outcomes.lookup flight).isSome := by
  obtain ⟨_, before⟩ := run.in_front split
  rw [← launches.number] at older
  obtain ⟨first, member, launched⟩ := launched_of_lt shared before since older
  cases unknown : launch.before.flight.outcomes.lookup flight with
  | some outcome => rfl
  | none =>
      have taken := taken_of_launches shared before member launched unknown
      rw [launches.free] at taken
      injection taken

/-- The pilot of a load leaves the map that the load has come to. -/
theorem left_of_arrives {front rest : List (Event PermissionCall)}
    (steps : trace.steps caller = front ++ rest)
    (arrives : permissions.Arrives front flight outcome) :
    (trace.steps caller).flatMap Event.left = outcome.toOption.toList := by
  cases outcome with
  | ok map =>
      cases arrives with
      | @loaded asking look launch query read deferral _ _ launches asks success defers =>
          have place : trace.steps caller =
              [asking, look, launch, query, read] ++ deferral :: rest := steps
          rw [spent_of_place fare_left shared run place rfl, left_of_append defers]
          rfl
  | error fault =>
      have five : front.length = 5 := by
        cases arrives
        rfl
      refine List.flatMap_eq_nil_iff.mpr ?_
      intro event within
      apply Classical.byContradiction
      intro paid
      obtain ⟨before, behind, place⟩ := List.append_of_mem within
      have here := (paid_of_steps fare_left shared run place paid).1
      obtain ⟨rfl, -⟩ := List.append_inj (place.symm.trans steps) (here.trans five.symm)
      obtain ⟨call, -, leg⟩ := run.leg_of_steps (permissions.travels shared) place
      cases call with
      | look lookup => exact paid (left_of_failed arrives leg)
      | invalidate => exact paid (left_of_same (Passing.writeBacks leg))
      | writeBack map => exact paid (left_of_same (Passing.writeBacks leg))

/-- The pilot of a load asks the store once. -/
theorem queried_of_arrives {front rest : List (Event PermissionCall)}
    (steps : trace.steps caller = front ++ rest)
    (arrives : permissions.Arrives front flight outcome) :
    ((trace.steps caller).flatMap Event.queried).length = 1 := by
  obtain ⟨asking, look, launch, query, more, same, asks⟩ : ∃ asking look launch query more,
      front ++ rest = [asking, look, launch] ++ query :: more ∧ query.Asks .rules := by
    cases arrives with
    | failed launches asks failure => exact ⟨_, _, _, _, _, rfl, asks⟩
    | loaded launches asks success defers => exact ⟨_, _, _, _, _, rfl, asks⟩
  rw [spent_of_place fare_queried shared run (steps.trans same) rfl, queried_of_asks asks]
  rfl

include idle

/-- A lookup that has ended and has boarded a load has the outcome of the load. -/
theorem served_of_ends (ends : permissions.Ends (trace.steps caller) outcome)
    (boarded : trace.aboard? caller = some flight) :
    site.flight.outcomes.lookup flight = some outcome ∧ trace.Alighted caller flight := by
  generalize steps : trace.steps caller = own at ends
  cases ends with
  | cached yields =>
      rw [Trace.aboard?, steps] at boarded
      injection boarded
  | @served front leave other _ awaits known stays =>
      obtain ⟨early, late, split, before, -⟩ := Trace.split_of_steps steps
      have aboard : early.aboard? caller = some other := by
        rw [Trace.aboard?, before]
        exact awaits.aboard?
      obtain rfl := Option.some.inj
        ((Trace.aboard?_mono aboard ⟨_, split.symm⟩).symm.trans boarded)
      have own : leave ∈ trace.steps caller := by
        rw [steps]
        simp
      rw [Trace.mem_steps] at own
      refine ⟨lookup_of_known shared run idle own.1 (by rw [stays, known]), ?_⟩
      exact ⟨early, leave, late, split, own.2, aboard, by rw [known]; rfl⟩

/-- A caller whose load has an outcome ends with it at once, if it has not done so. -/
theorem answers_of_known {lookup : Lookup}
    {left : Routine Site (permissions.orderlyWorkload.Answer (.look lookup))}
    (begun : threads[caller]? = some ⟨.look lookup, left⟩)
    (boarded : trace.aboard? caller = some flight)
    (known : site.flight.outcomes.lookup flight = some outcome) :
    left = .done (lookup.shown outcome) ∨ ∃ wait act next, left = .step wait act next ∧
      wait.ready site = true ∧ next site = .done (lookup.shown outcome) := by
  have travels := run.travels (permissions.travels shared) begun
  cases left with
  | done answer =>
      obtain ⟨came, ends, shown⟩ := travels
      obtain ⟨also, -⟩ := served_of_ends shared idle run ends boarded
      rw [known] at also
      rw [shown, Option.some.inj also]
      exact .inl rfl
  | step wait act next =>
      obtain ⟨halts, onward⟩ := travels
      cases halts with
      | looking short passes =>
          rw [Trace.aboard?, aboard?_of_short short] at boarded
          injection boarded
      | piloting pilots passes =>
          obtain rfl := Option.some.inj (pilots.aboard?.symm.trans boarded)
          rw [lookup_of_pilots shared run idle pilots] at known
          injection known
      | @awaiting other awaits =>
          obtain rfl : other = flight := Option.some.inj (awaits.aboard?.symm.trans boarded)
          have ready : (site.flight.outcomes.lookup other).isSome = true := by
            rw [known]
            rfl
          obtain ⟨leg, further⟩ := onward site ready
          refine .inr ⟨_, act, next, rfl, ready, ?_⟩
          generalize next site = rest at further
          cases rest with
          | step wait act next => exact absurd further.1 (awaits.not_halt leg)
          | done answer =>
              obtain ⟨came, ends, shown⟩ := further
              rw [shown, Option.some.inj ((awaits.ends ends).symm.trans known)]

/-- As long as a load has no outcome, its pilot has not ended and waits for nothing but the
time. -/
theorem piloted_of_unknown (boarded : trace.aboard? caller = some flight)
    (unknown : site.flight.outcomes.lookup flight = none) : ∃ pilot lookup wait act next,
      threads[pilot]? = some ⟨.look lookup, .step wait act next⟩ ∧
        trace.aboard? pilot = some flight ∧ Passes wait := by
  obtain ⟨launch, member, launches⟩ := launched_of_aboard shared run idle boarded
  obtain ⟨pilot, lookup, asking, look, rest, act, steps⟩ :=
    pilot_of_launches shared run member launches
  have aboard : trace.aboard? pilot = some flight := by
    rw [Trace.aboard?, steps]
    exact aboard?_of_launches launches
  have among : launch ∈ trace.steps pilot := by
    rw [steps]
    simp
  obtain ⟨left, begun⟩ := run.thread_of_mem_steps among act
  have travels := run.travels (permissions.travels shared) begun
  refine ⟨pilot, lookup, ?_⟩
  cases left with
  | done answer =>
      obtain ⟨came, ends, -⟩ := travels
      rw [(served_of_ends shared idle run ends aboard).1] at unknown
      injection unknown
  | step wait act next =>
      refine ⟨wait, act, next, begun, aboard, ?_⟩
      cases travels.1 with
      | looking short passes => exact passes
      | piloting pilots passes => exact passes
      | @awaiting other awaits =>
          obtain rfl : other = flight := Option.some.inj (awaits.aboard?.symm.trans aboard)
          rw [steps] at awaits
          obtain ⟨land, within, outcome, lands⟩ := awaits.lands launches
          rw [← steps, Trace.mem_steps] at within
          rw [lookup_of_known shared run idle within.1 lands] at unknown
          injection unknown

/-- Who boards a load when an older one has been left, boards one that was launched when
the outcome of the older one was known. -/
theorem renewed_of_boards {other next : Nat} (split : trace = early ++ late)
    (alighted : early.Alighted caller flight) (ashore : early.aboard? other = none)
    (boarded : trace.aboard? other = some next) : flight < next ∧ ∃ front launch back,
      trace = front ++ launch :: back ∧ launch.Launches next ∧
        (launch.before.flight.outcomes.lookup flight).isSome := by
  obtain ⟨front, boarding, back, place, before, boards⟩ := Trace.boarding_of_aboard boarded
  have grows : early <+: front := by
    have these : early <+: trace := ⟨late, split.symm⟩
    have those : front ++ [boarding] <+: trace := ⟨back, by rw [place]; simp⟩
    rcases List.prefix_or_prefix_of_prefix these those with within | beyond
    · rcases List.prefix_concat_iff.mp within with same | within
      · rw [same, boards] at ashore
        injection ashore
      · exact within
    · rw [Trace.aboard?_mono boards beyond] at ashore
      injection ashore
  obtain ⟨_, here⟩ := run.in_front place
  have left := alighted.mono grows
  obtain ⟨first, member, launched⟩ := launched_of_aboard shared here idle left.aboard?
  have since := started_le_of_launches shared here idle member launched
  have begun := (boards_of_run shared here idle).launched first member flight launched
  rcases (moves_of_run shared run place).boards boards with already | taken | launches
  · rw [already] at before
    injection before
  · have apart : flight ≠ next := by
      rintro rfl
      exact not_taken_of_alighted shared here idle left taken
    have last := newest shared here idle taken
    obtain ⟨launch, among, launches⟩ := launched_of_taken shared here idle taken
    obtain ⟨early, late, rfl⟩ := List.append_of_mem among
    rw [List.append_assoc] at place
    have older : flight < next := by omega
    exact ⟨older, early, launch, _, place, launches,
      known_of_launches shared run place launches since older⟩
  · have older : flight < next := by
      rw [← launches.number]
      exact begun
    exact ⟨older, front, boarding, back, place, launches,
      known_of_launches shared run place launches since older⟩

/-- What the callers of a load that has an outcome have spent on it. -/
theorem costs_of_known (boarded : trace.aboard? caller = some flight)
    (known : site.flight.outcomes.lookup flight = some outcome) :
    (trace.spent Event.queried flight).length = 1 ∧
      trace.spent Event.left flight = outcome.toOption.toList := by
  obtain ⟨launch, member, launches⟩ := launched_of_aboard shared run idle boarded
  have since := started_le_of_launches shared run idle member launches
  obtain ⟨pilot, front, rest, steps, arrives⟩ := arrived_of_known shared run idle since known
  rw [spent_eq fare_queried shared run idle steps arrives.pilots,
    spent_eq fare_left shared run idle steps arrives.pilots]
  exact ⟨queried_of_arrives shared run steps arrives, left_of_arrives shared run steps arrives⟩

/-- What the callers of any load have spent on it. -/
theorem spent_of_aboard {β : Type} {cost : Event PermissionCall → List β} {place : Nat}
    (fare : permissions.Fare cost place) (boarded : trace.aboard? caller = some flight) :
    (trace.spent cost flight).length ≤ 1 := by
  obtain ⟨launch, member, launches⟩ := launched_of_aboard shared run idle boarded
  obtain ⟨pilot, lookup, asking, look, rest, -, steps⟩ :=
    pilot_of_launches shared run member launches
  have pilots : permissions.Pilots [asking, look, launch] flight := .launched launches
  rw [spent_eq fare shared run idle steps pilots]
  exact spent_le_one fare shared run

end Runs

/-! ## The maps that are written back -/

theorem writeBacks_of_leg {call : PermissionCall}
    (leg : (permissions.itinerary call).leg own event) :
    event.after.writeBacks = event.before.writeBacks ++ event.left := by
  have kept : event.after.writeBacks = event.before.writeBacks →
      event.after.writeBacks = event.before.writeBacks ++ event.left := by
    intro same
    rw [left_of_same same, List.append_nil, same]
  cases call with
  | look lookup =>
      rcases Leg.spends leg with ⟨-, same⟩ | ⟨-, -, asks⟩ | ⟨-, -, map, defers⟩
      · exact kept same
      · exact kept (by rw [asks]; rfl)
      · rw [left_of_append (by rw [defers]), defers]
  | invalidate => exact kept (Passing.writeBacks leg)
  | writeBack map => exact kept (Passing.writeBacks leg)

/-- The maps that are written back or wait for it are those that waited at the start and
those that have been left since. -/
theorem writtenBack_perm (shared : permissions.singleFlight = true)
    (run : permissions.orderlyWorkload.Run start trace site threads) :
    (trace.writtenBack ++ site.writeBacks).Perm (start.writeBacks ++ trace.left) := by
  induction run with
  | start => simp [Trace.writtenBack, Trace.left]
  | @begins trace site other threads run call admitted ih =>
      have left : Trace.left (trace ++ [⟨.begins threads.length call, site, other⟩]) =
          trace.left := by
        simp [Trace.left, Act.stepOf?]
      rw [left]
      cases call with
      | look lookup =>
          obtain rfl : other = site := admitted
          simpa [Trace.writtenBack] using ih
      | invalidate =>
          obtain rfl : other = site := admitted
          simpa [Trace.writtenBack] using ih
      | writeBack map =>
          obtain ⟨front, back, waiting, rfl⟩ := admitted
          have written : Trace.writtenBack
              (trace ++ [⟨.begins threads.length (.writeBack map), site,
                { site with writeBacks := front ++ back }⟩]) = trace.writtenBack ++ [map] := by
            simp [Trace.writtenBack]
          rw [waiting] at ih
          have moved : (map :: (front ++ back)).Perm (front ++ map :: back) :=
            List.perm_middle.symm
          rw [written, List.append_assoc]
          exact (moved.append_left trace.writtenBack).trans ih
  | @takes trace site threads number call wait act next run found ready ih =>
      obtain ⟨_, -, leg⟩ := (run.takes found ready).leg (permissions.travels shared) rfl rfl
      have grown : (act site).writeBacks = _ := writeBacks_of_leg leg
      have left : Trace.left (trace ++ [⟨.takes number call, site, act site⟩]) =
          trace.left ++ Event.left ⟨.takes number call, site, act site⟩ := by
        simp [Trace.left, Act.stepOf?]
      have written : Trace.writtenBack (trace ++ [⟨.takes number call, site, act site⟩]) =
          trace.writtenBack := by
        simp [Trace.writtenBack]
      rw [left, written, grown, ← List.append_assoc, ← List.append_assoc]
      exact ih.append_right _
  | @drifts trace site other threads run acts ih =>
      have same : other.writeBacks = site.writeBacks := acts.2
      rw [same]
      simpa [Trace.writtenBack, Trace.left, Act.stepOf?] using ih

/-- However many lookups find no map at the same time, and however their steps are
interleaved, they share loads: one at a time, each with one outcome for all its callers and
the cost of one, and none is handed on when it has come to its outcome. -/
theorem shares_loads (shared : permissions.singleFlight = true) (idle : start.flight.IsIdle)
    (run : permissions.orderlyWorkload.Run start trace site threads) :
    permissions.SharesLoads start trace site threads where
  cached := by
    intro caller lookup answer answered ashore
    obtain ⟨outcome, ends, shown⟩ := run.travels (permissions.travels shared) answered
    rw [Trace.aboard?] at ashore
    generalize steps : trace.steps caller = own at ends ashore
    cases ends with
    | cached yields => exact ⟨_, ⟨_, _, [], steps, yields⟩, shown⟩
    | served awaits known stays =>
        rw [aboard?_append awaits.aboard?] at ashore
        injection ashore
  single := fun _ member _ launches unknown => taken_of_launches shared run member launches unknown
  landed := by
    intro caller flight outcome boarded known
    obtain ⟨launch, member, launches⟩ := launched_of_aboard shared run idle boarded
    have since := started_le_of_launches shared run idle member launches
    exact (boards_of_run shared run idle).landed _ (mem_of_lookup known) since
  answered := by
    intro caller lookup answer flight answered boarded
    obtain ⟨outcome, ends, shown⟩ := run.travels (permissions.travels shared) answered
    exact ⟨outcome, (served_of_ends shared idle run ends boarded).1, shown⟩
  answers := fun _ _ _ _ _ begun boarded known =>
    answers_of_known shared idle run begun boarded known
  piloted := fun _ _ boarded unknown => piloted_of_unknown shared idle run boarded unknown
  costs := fun _ _ _ boarded known => costs_of_known shared idle run boarded known
  bounded := fun _ _ boarded => ⟨spent_of_aboard shared idle run fare_queried boarded,
    spent_of_aboard shared idle run fare_left boarded⟩
  aboard := by
    intro event member caller own pays
    obtain ⟨front, back, steps⟩ := List.append_of_mem (Trace.mem_steps.mpr ⟨member, own⟩)
    obtain ⟨flight, pilots⟩ : ∃ flight, permissions.Pilots front flight := by
      rcases pays with asks | leaves
      · exact (paid_of_steps fare_queried shared run steps (by simp [queried_of_asks asks])).2.2
      · exact (paid_of_steps fare_left shared run steps leaves).2.2
    rw [Trace.aboard?, steps, aboard?_append pilots.aboard?]
    rfl
  writtenBack := writtenBack_perm shared run
  evicted := fun _ _ _ _ split taken freed => evicted_by_caller shared run split taken freed
  alighted := by
    intro caller lookup answer flight answered boarded
    obtain ⟨outcome, ends, -⟩ := run.travels (permissions.travels shared) answered
    exact (served_of_ends shared idle run ends boarded).2
  cleared := fun _ _ alighted => not_taken_of_alighted shared run idle alighted
  renewed := fun _ _ _ _ _ _ split alighted ashore boarded =>
    renewed_of_boards shared idle run split alighted ashore boarded

/-- Lookups that share their loads. -/
def sharing : Permissions := { brief with singleFlight := true }

/-- Two lookups look into the cache in vain. The second one joins the load that the first
one has launched, and both are answered with its map. -/
theorem run_shared : ∃ trace site threads, sharing.orderlyWorkload.Run ruled trace site threads ∧
    sharing.orderlyWorkload.Answered threads 0 (.look .all) (.ofRules ruled.rules.active) ∧
      sharing.orderlyWorkload.Answered threads 1 (.look .tryAll)
        (.ok (.ofRules ruled.rules.active)) ∧
        Trace.aboard? trace 0 = some 0 ∧ Trace.aboard? trace 1 = some 0 := by
  have admitted : ∀ (lookup : Lookup) site,
      sharing.orderlyWorkload.admits (.look lookup) site site := fun _ _ => rfl
  have first := Workload.Run.begins .start (PermissionCall.look .all) (admitted .all ruled)
  have asked := @Workload.Run.takes _ _ _ _ _ _ 0 _ _ _ _ first rfl rfl
  have looked := @Workload.Run.takes _ _ _ _ _ _ 0 _ _ _ _ asked rfl rfl
  have launched := @Workload.Run.takes _ _ _ _ _ _ 0 _ _ _ _ looked rfl rfl
  have second := launched.begins (.look .tryAll) (admitted .tryAll _)
  have joined := second.settle 1 rfl
  have landed := joined.settle_answered 0 rfl rfl
  have served := landed.settle_answered 1 rfl rfl
  exact ⟨_, _, _, served, rfl, rfl, rfl, rfl⟩

theorem shares_loads_of_joined : ∃ trace site threads, sharing.singleFlight = true ∧
    ruled.flight.IsIdle ∧ sharing.orderlyWorkload.Run ruled trace site threads ∧
      sharing.orderlyWorkload.Answered threads 0 (.look .all) (.ofRules ruled.rules.active) ∧
        sharing.orderlyWorkload.Answered threads 1 (.look .tryAll)
          (.ok (.ofRules ruled.rules.active)) ∧
          Trace.aboard? trace 0 = some 0 ∧ Trace.aboard? trace 1 = some 0 ∧
            sharing.SharesLoads ruled trace site threads := by
  obtain ⟨trace, site, threads, run, first, second, pilot, joined⟩ := run_shared
  have idle : ruled.flight.IsIdle := ⟨rfl, nofun⟩
  exact ⟨trace, site, threads, rfl, idle, run, first, second, pilot, joined,
    shares_loads rfl idle run⟩

end Permissions

end Gatehouse
