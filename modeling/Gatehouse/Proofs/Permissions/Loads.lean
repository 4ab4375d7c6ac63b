import Gatehouse.Proofs.Permissions.Calls

/-!
# Loads of the rules

A lookup that finds no map in the cache loads the rules, by itself or together with the
lookups that find none at the same time. This module follows such a lookup through its
steps, whatever else is kept of trace and state: what it comes to is what some load has
read off the store, its own or the one that it has joined.
-/

namespace Gatehouse

variable {permissions : Permissions} {start site : Site} {trace now : Trace PermissionCall}
  {event : Event PermissionCall} {number : Nat}

/-! ## Shared loads -/

/-- No load is under way, and those that have ended have numbers of their own. -/
structure Flight.IsIdle (flight : Flight) : Prop where
  unloaded : flight.slot = none
  landed : ∀ entry ∈ flight.outcomes, entry.1 < flight.started

/-- The loads that lookups share: each is begun by one call, and those that have ended
since the start came to what that call read. -/
structure Boards (permissions : Permissions) (start : Site) (trace : Trace PermissionCall)
    (flight : Flight) : Prop where
  started : start.flight.started ≤ flight.started
  boarded : ∀ number, flight.slot = some number → start.flight.started ≤ number
  landed : ∀ entry ∈ flight.outcomes, start.flight.started ≤ entry.1 →
    trace.Landed permissions entry.1 entry.2
  launched : ∀ event ∈ trace, ∀ number, event.Launches number → number < flight.started
  once : ∀ event ∈ trace, ∀ other ∈ trace, ∀ number, event.Launches number →
    other.Launches number → event.act.stepOf? = other.act.stepOf?

theorem Flight.IsIdle.boards (idle : start.flight.IsIdle) :
    Boards permissions start [] start.flight where
  started := Nat.le_refl _
  boarded := by simp [idle.unloaded]
  landed := by
    intro entry member since
    have before := idle.landed entry member
    omega
  launched := by simp
  once := by simp

/-- Events that begin no shared load keep what is known of them. -/
theorem Boards.snoc {flight : Flight} (boards : Boards permissions start trace flight)
    {event : Event PermissionCall} (quiet : ∀ number, ¬ event.Launches number) :
    Boards permissions start (trace ++ [event]) flight := by
  have earlier : ∀ shown ∈ trace ++ [event], ∀ number, shown.Launches number → shown ∈ trace := by
    intro shown member number launches
    rcases List.mem_append.mp member with early | last
    · exact early
    · obtain rfl := List.mem_singleton.mp last
      exact absurd launches (quiet number)
  exact
    { started := boards.started
      boarded := boards.boarded
      landed := fun entry member since =>
        (boards.landed entry member since).mono (List.prefix_append trace _)
      launched := fun shown member number launches =>
        boards.launched shown (earlier shown member number launches) number launches
      once := fun shown member also among number launches relaunches =>
        boards.once shown (earlier shown member number launches) also
          (earlier also among number relaunches) number launches relaunches }

theorem Boards.same (boards : Boards permissions start trace site.flight)
    (same : event.after.flight = event.before.flight) :
    Boards permissions start (trace ++ [event]) site.flight :=
  boards.snoc fun _ => Event.not_launches (.inl (by rw [same]))

/-- A load comes to its outcome. -/
theorem Boards.land {flight : Flight} {outcome : Except StoreFault RuleMap}
    (boards : Boards permissions start trace flight)
    (landed : trace.Landed permissions number outcome) :
    Boards permissions start trace
      { flight with outcomes := (number, outcome) :: flight.outcomes } := by
  refine { boards with landed := ?_ }
  intro entry member since
  rcases List.mem_cons.mp member with rfl | earlier
  · exact landed
  · exact boards.landed entry earlier since

/-- The place of the load that is under way is freed. -/
theorem Boards.free {flight : Flight} (boards : Boards permissions start trace flight) :
    Boards permissions start trace { flight with slot := none } :=
  { boards with boarded := nofun }

/-- A lookup that finds no load under way begins one. -/
theorem Boards.launch (boards : Boards permissions start trace site.flight)
    (here : event.before.flight = site.flight)
    (taken : event.after.flight =
      { site.flight with slot := some site.flight.started, started := site.flight.started + 1 }) :
    Boards permissions start (trace ++ [event]) event.after.flight := by
  have only : ∀ number, event.Launches number → number = site.flight.started := by
    intro number relaunches
    rw [← relaunches.number, here]
  have began := boards.started
  rw [taken]
  constructor
  · change start.flight.started ≤ site.flight.started + 1
    omega
  · intro number slot
    obtain rfl := Option.some.inj slot
    exact began
  · intro entry member since
    exact (boards.landed entry member since).mono (List.prefix_append trace _)
  · intro shown member number relaunches
    change number < site.flight.started + 1
    rcases List.mem_append.mp member with early | last
    · have before := boards.launched shown early number relaunches
      omega
    · obtain rfl := List.mem_singleton.mp last
      rw [only number relaunches]
      omega
  · intro shown member also among number first second
    rcases List.mem_append.mp member with early | last <;>
      rcases List.mem_append.mp among with before | latest
    · exact boards.once shown early also before number first second
    · obtain rfl := List.mem_singleton.mp latest
      have earlier := boards.launched shown early number first
      rw [only number second] at earlier
      omega
    · obtain rfl := List.mem_singleton.mp last
      have earlier := boards.launched also before number second
      rw [only number first] at earlier
      omega
    · rw [List.mem_singleton.mp last, List.mem_singleton.mp latest]

/-- Who began a load has read what it came to. -/
theorem Boards.reads_of_launches {flight : Flight} {shared : Nat}
    {outcome : Except StoreFault RuleMap} (boards : Boards permissions start trace flight)
    (landed : trace.Landed permissions shared outcome) (launches : event.Launches shared)
    (own : event ∈ trace.steps number) : ∃ read, trace.Reads permissions number read outcome := by
  obtain ⟨reader, before, launch, read, began, reads⟩ := landed
  obtain ⟨query, after, steps, -⟩ := id reads
  have theirs : launch ∈ trace.steps reader := by
    rw [steps]
    simp
  rw [Trace.mem_steps] at own theirs
  have same := boards.once event own.1 launch theirs.1 shared launches began
  rw [own.2, theirs.2] at same
  obtain rfl := Option.some.inj same
  exact ⟨read, _, reads⟩

/-- What the steps of a lookup have to keep, beside what is known of shared loads: with it
the maps that are read off the store, and those that are left to be written, are proper. -/
structure Upkeep (permissions : Permissions) (start : Site)
    (holds : Trace PermissionCall → Site → Prop) (proper : RuleMap → Prop) : Prop where
  boards : ∀ {trace site}, holds trace site → Boards permissions start trace site.flight
  countCall : ∀ {trace site} (number : Nat) (lookup : Lookup) (backend : Backend),
    holds trace site →
      holds (trace ++ [⟨.takes number (.look lookup), site, site.countCall backend⟩])
        (site.countCall backend)
  flown : ∀ {trace site} {number : Nat} {lookup : Lookup} {flight : Flight}, holds trace site →
    Boards permissions start
      (trace ++ [⟨.takes number (.look lookup), site, { site with flight := flight }⟩]) flight →
      holds (trace ++ [⟨.takes number (.look lookup), site, { site with flight := flight }⟩])
        { site with flight := flight }
  read : ∀ {trace site}, holds trace site → proper (.ofRules site.rules.active)
  deferred : ∀ {trace site} {number : Nat} {lookup : Lookup} {map : RuleMap}, holds trace site →
    proper map → trace.Loaded permissions map →
      holds (trace ++ [⟨.takes number (.look lookup), site,
        { site with writeBacks := site.writeBacks ++ [map] }⟩])
          { site with writeBacks := site.writeBacks ++ [map] }

/-- A lookup looks at the state. -/
theorem Upkeep.looked {holds : Trace PermissionCall → Site → Prop} {proper : RuleMap → Prop}
    (upkeep : Upkeep permissions start holds proper) (number : Nat) (lookup : Lookup)
    (held : holds trace site) :
    holds (trace ++ [⟨.takes number (.look lookup), site, site⟩]) site :=
  upkeep.flown held ((upkeep.boards held).same rfl)

/-! ## The steps of a load -/

/-- How a lookup that found no map has come by its outcome: by a load of its own or by the
one that was under way. -/
inductive Trace.Obtains (permissions : Permissions) (trace : Trace PermissionCall) (number : Nat)
    (outcome : Except StoreFault RuleMap) : Prop where
  | loaded {read : Event PermissionCall} (reads : trace.Reads permissions number read outcome)
  | joined {join : Event PermissionCall} {flight : Nat}
      (shared : permissions.singleFlight = true) (joins : join ∈ trace.steps number)
      (taken : join.before.flight.slot = some flight)
      (landed : trace.Landed permissions flight outcome)

namespace Permissions

section Loads

variable {lookup : Lookup} {before : List (Event PermissionCall)}
  {holds : Trace PermissionCall → Site → Prop} {proper : RuleMap → Prop}
  (upkeep : Upkeep permissions start holds proper)

include upkeep

/-- A load reads the rules off the store and leaves their map to be written. -/
theorem follows_load (steps : now.steps number = before) :
    permissions.load.toRoutine.Follows number (.look lookup) (fun _ => True) holds
      (fun later outcome => ∃ read, later.ReadsAfter permissions number before read outcome)
      now := by
  have asked : (callStore "permissions.find_active" permissions.timeout .rules fun site =>
      (.ok site.rules.active, site)).toRoutine.Follows number (.look lookup) (fun _ => True) holds
        (fun later outcome => (∃ read, later.ReadsAfter permissions number before read
            (outcome.map RuleMap.ofRules)) ∧
          ∀ rules, outcome = .ok rules → proper (.ofRules rules)) now := by
    apply Routine.follows_callStore
    · intro later site waits held _
      exact upkeep.countCall number lookup .rules held
    · intro asking called later site waits asked further held woken answer came _
      have reads : Trace.ReadsAfter permissions
          (later ++ [⟨.takes number (.look lookup), site, site⟩]) number before
          ⟨.takes number (.look lookup), site, site⟩ (answer.1.map RuleMap.ofRules) := by
        refine ⟨⟨.takes number (.look lookup), called, called.countCall .rules⟩, [], ?_, ?_, ?_⟩
        · rw [Trace.steps_append, further.steps_eq, Trace.steps_append, waits.steps_eq, steps,
            Trace.steps_takes, Trace.steps_takes, List.append_assoc]
          rfl
        · simp
        · rw [came, answerOf]
      rcases storeAnswer_cases "permissions.find_active" permissions.timeout called.clock
          (called.conditions .rules) (fun site => (.ok site.rules.active, site)) site with
        ⟨fault, failed⟩ | answered
      · rw [failed] at came
        subst came
        refine ⟨upkeep.looked number lookup held, ⟨_, reads⟩, ?_⟩
        intro rules same
        injection same
      · rw [answered] at came
        subst came
        refine ⟨upkeep.looked number lookup held, ⟨_, reads⟩, ?_⟩
        intro rules found
        rw [← Except.ok.inj found]
        exact upkeep.read held
  apply Task.follows_bind asked
  · rintro rules later ⟨⟨read, reads⟩, sound⟩
    have deferred : (deferWriteBack (.ofRules rules)).Follows number (.look lookup) (fun _ => True)
        holds (fun further _ => later <+: further) later := by
      apply Routine.follows_change
      intro further site waits held _
      have loaded : further.Loaded permissions (.ofRules rules) :=
        .mono ⟨number, read, _, reads⟩ waits.isPrefix
      exact ⟨upkeep.deferred held (sound rules rfl) loaded, waits.prefix_snoc _⟩
    apply Task.follows_lift_bind deferred
    intro _ further grows
    exact ⟨read, reads.mono grows⟩
  · rintro fault later ⟨⟨read, reads⟩, -⟩
    exact ⟨read, reads⟩

/-- What is known of a lookup that has joined a shared load or begun one. -/
def Boarded (start : Site) (number : Nat) (before : List (Event PermissionCall))
    (trace : Trace PermissionCall) (joined : Nat × Bool) : Prop :=
  start.flight.started ≤ joined.1 ∧ ∃ join, trace.steps number = before ++ [join] ∧
    if joined.2 then join.Launches joined.1 else join.before.flight.slot = some joined.1

/-- A lookup joins the load that is under way or begins one. -/
theorem follows_joinFlight (steps : now.steps number = before) :
    joinFlight.Follows number (.look lookup) (fun _ => True) holds
      (Boarded start number before) now := by
  apply Routine.follows_atomically
  intro later site waits held _
  have boards := upkeep.boards held
  have own : ∀ after, Trace.steps number (later ++ [⟨.takes number (.look lookup), site, after⟩]) =
      before ++ [⟨.takes number (.look lookup), site, after⟩] := by
    intro after
    rw [Trace.steps_append, waits.steps_eq, steps, Trace.steps_takes]
  cases taken : site.flight.slot with
  | some flight =>
      exact ⟨upkeep.looked number lookup held, boards.boarded flight taken, _, own site, taken⟩
  | none =>
      refine ⟨upkeep.flown held ?_, boards.started, _, own _, ?_⟩
      · exact boards.launch rfl rfl
      · exact ⟨taken, rfl, rfl⟩

/-- A lookup that has begun a shared load makes its outcome known. -/
theorem follows_landFlight {flight : Nat} {outcome : Except StoreFault RuleMap}
    (landed : now.Landed permissions flight outcome) :
    (landFlight flight outcome).Follows number (.look lookup) (fun _ => True) holds
      (fun _ _ => True) now := by
  apply Routine.follows_change
  intro later site waits held _
  refine ⟨upkeep.flown held ?_, trivial⟩
  refine Boards.land ((upkeep.boards held).snoc fun number => ?_)
    (landed.mono (waits.prefix_snoc _))
  exact Event.not_launches (.inl rfl)

/-- A lookup waits for the outcome of a shared load. Whoever began the load has read that
outcome off the store. -/
theorem follows_leaveFlight {flight : Nat} (since : start.flight.started ≤ flight) :
    (leaveFlight flight).Follows number (.look lookup) (fun _ => True) holds
      (fun later outcome => later.Landed permissions flight outcome ∧
        ∀ launch ∈ later.steps number, launch.Launches flight →
          ∃ read, later.Reads permissions number read outcome) now := by
  apply Routine.follows_after
  intro later site waits held ready _
  obtain ⟨outcome, found⟩ := Option.isSome_iff_exists.mp ready
  have landed := (upkeep.boards held).landed _ (mem_of_lookup found) since
  rw [found, Option.getD_some]
  split
  · have freed : holds (later ++ [⟨.takes number (.look lookup), site,
        { site with flight := { site.flight with slot := none } }⟩])
        { site with flight := { site.flight with slot := none } } :=
      upkeep.flown held ((upkeep.boards held).snoc fun _ => Event.not_launches (.inr rfl)).free
    exact ⟨freed, landed.mono (List.prefix_append later _), fun launch own launches =>
      (upkeep.boards freed).reads_of_launches (landed.mono (List.prefix_append later _)) launches
        own⟩
  · have looked := upkeep.looked number lookup held
    exact ⟨looked, landed.mono (List.prefix_append later _), fun launch own launches =>
      (upkeep.boards looked).reads_of_launches (landed.mono (List.prefix_append later _)) launches
        own⟩

/-- A lookup that shares loads is served by its own load or by the one it joins. -/
theorem follows_loadShared (shared : permissions.singleFlight = true) :
    permissions.loadShared.toRoutine.Follows number (.look lookup) (fun _ => True) holds
      (fun later outcome => later.Obtains permissions number outcome) now := by
  have joining : joinFlight.Follows number (.look lookup) (fun _ => True) holds
      (Boarded start number (now.steps number)) now := follows_joinFlight upkeep rfl
  apply Routine.follows_bind joining
  rintro ⟨flight, isFirst⟩ later ⟨since, join, steps, joins⟩
  have own : ∀ further : Trace PermissionCall, later <+: further →
      join ∈ further.steps number := by
    rintro further ⟨more, rfl⟩
    simp [Trace.steps_append, steps]
  cases isFirst with
  | false =>
      apply Routine.follows_mono (Routine.follows_later (follows_leaveFlight upkeep since)
        (List.prefix_refl later))
      rintro further outcome ⟨onward, landed, -⟩
      exact .joined shared (own further onward) joins landed
  | true =>
      apply Routine.follows_bind (Routine.follows_later (follows_load upkeep steps)
        (List.prefix_refl later))
      rintro outcome further ⟨onward, read, reads⟩
      have landed : further.Landed permissions flight outcome :=
        ⟨number, now.steps number, join, read, joins, reads⟩
      apply Routine.follows_bind (Routine.follows_later (follows_landFlight upkeep landed)
        (List.prefix_refl further))
      rintro _ last ⟨outward, -⟩
      apply Routine.follows_mono (Routine.follows_later (follows_leaveFlight upkeep since)
        (List.prefix_refl last))
      rintro final outcome ⟨finally_, -, came⟩
      have whole : later <+: final := (onward.trans outward).trans finally_
      obtain ⟨read, reads⟩ := came join (own final whole) joins
      exact .loaded reads

/-- A lookup that found no map loads the rules in one of the two ways. -/
theorem follows_missed :
    (if permissions.singleFlight then permissions.loadShared
      else permissions.load).toRoutine.Follows number (.look lookup) (fun _ => True) holds
        (fun later outcome => later.Obtains permissions number outcome) now := by
  cases shared : permissions.singleFlight with
  | true => exact follows_loadShared upkeep shared
  | false =>
      apply Routine.follows_mono (follows_load upkeep rfl)
      rintro later outcome ⟨read, reads⟩
      exact .loaded ⟨_, reads⟩

end Loads

end Permissions

end Gatehouse
