import Gatehouse.Proofs.Execution.Fixtures
import Gatehouse.Proofs.Execution.Interference
import Gatehouse.Proofs.Permissions.Loads

/-!
# When lookups fail

The cache and the store of the rules may answer late, fail, or hold what cannot be read,
and may do so differently at each step. A lookup fails only if its look into the cache
yielded no map and the query of a load failed, its own or that of the load it has joined;
whatever the cache did instead of yielding a map, the lookup goes on alike.
-/

namespace Gatehouse

namespace Permissions

variable (permissions : Permissions)

/-! ## What cache and store answer -/

/-- The answer of the cache that is asked for the map in one state and answers in another:
a text, nothing, or a fault. -/
def cacheAnswer (asking answering : Site) : Except StoreFault (Option String) :=
  (storeAnswer "cache.get" permissions.timeout asking.clock (asking.conditions .cacheGet)
    (fun site => (.ok (site.cache.get? site.clock cacheKey), site)) answering).1

/-- The map that an answer of the cache yields, if it is the text of one. -/
def yielded? : Except StoreFault (Option String) → Option RuleMap
  | .ok (some text) => RuleMap.decode? text
  | .ok none => none
  | .error _ => none

/-- The query of the store that is begun in one state fails in another: it takes longer than
it may, or the store fails in time. -/
def QueryFails (asking answering : Site) (fault : StoreFault) : Prop :=
  answering.clock < asking.clock + (asking.conditions .rules).delay.nanos ∧
      fault = .timeout "permissions.find_active" permissions.timeout.millis ∨
    asking.clock + (asking.conditions .rules).delay.nanos ≤ answering.clock ∧
      (asking.conditions .rules).failure = some fault

variable {permissions} {asking answering : Site} {fault : StoreFault} {states rest : List Site}
  {outcome : Except StoreFault RuleMap}

theorem answerOf_eq_error_iff :
    permissions.answerOf asking answering = .error fault ↔
      permissions.QueryFails asking answering fault := by
  rw [answerOf, storeAnswer, QueryFails]
  by_cases late : answering.clock < asking.clock + (asking.conditions .rules).delay.nanos
  · rw [if_pos late]
    constructor
    · intro same
      exact .inl ⟨late, (Except.error.inj same).symm⟩
    · rintro (⟨-, rfl⟩ | ⟨inTime, -⟩)
      · rfl
      · omega
  · rw [if_neg late]
    cases failed : (asking.conditions .rules).failure with
    | none =>
        constructor
        · intro same
          injection same
        · rintro (⟨inTime, -⟩ | ⟨-, same⟩)
          · contradiction
          · injection same
    | some other =>
        constructor
        · intro same
          exact .inr ⟨Nat.le_of_not_lt late, congrArg some (Except.error.inj same)⟩
        · rintro (⟨inTime, -⟩ | ⟨-, same⟩)
          · contradiction
          · rw [Option.some.inj same]
            rfl

theorem comesTo_readCached_iff {found : Option RuleMap} :
    permissions.readCached.ComesTo states found ↔
      ∃ asking answering, states = [asking, answering] ∧
        asking.clock + min (asking.conditions .cacheGet).delay.nanos permissions.timeout.nanos ≤
            answering.clock ∧
          found = yielded? (permissions.cacheAnswer asking answering) := by
  have goesOn : permissions.readCached = (callStore "cache.get" permissions.timeout .cacheGet
      fun site => (.ok (site.cache.get? site.clock cacheKey), site)).toRoutine.bind fun answer =>
        .done (yielded? answer) := by
    rw [readCached]
    congr 1
    funext answer
    rcases answer with fault | (_ | text) <;> rfl
  rw [goesOn, Routine.comesTo_bind_iff]
  constructor
  · rintro ⟨_, _, answer, rfl, asks, ends⟩
    rcases Task.comesTo_callStore_iff.mp asks with ⟨asking, answering, rfl, woken, rfl⟩
    rcases Routine.comesTo_done_iff.mp ends with ⟨rfl, rfl⟩
    exact ⟨asking, answering, rfl, woken, rfl⟩
  · rintro ⟨asking, answering, rfl, woken, rfl⟩
    exact ⟨_, [], _, rfl, Task.comesTo_callStore_iff.mpr ⟨asking, answering, rfl, woken, rfl⟩,
      .done _⟩

/-- A lookup looks into the cache first, and loads the rules if that yields no map. -/
theorem tryGetAll_eq (permissions : Permissions) : permissions.tryGetAll.toRoutine =
    permissions.readCached.bind fun found => match found with
      | some map => .done (.ok map)
      | none => (if permissions.singleFlight then permissions.loadShared
          else permissions.load).toRoutine := by
  have lifted : permissions.tryGetAll.toRoutine = (permissions.readCached.bind fun found =>
      .done (Except.ok found)).bind (ExceptT.bindCont fun found => match found with
        | some map => return map
        | none => if permissions.singleFlight then permissions.loadShared
            else permissions.load) := rfl
  rw [lifted, Routine.bind_assoc]
  apply congrArg
  funext found
  cases found <;> rfl

/-- A lookup for which the cache yields a map comes to the map. -/
theorem comesTo_tryGetAll_of_hit {looks : List Site} {map : RuleMap}
    (hit : permissions.readCached.ComesTo looks (some map)) :
    permissions.tryGetAll.toRoutine.ComesTo (looks ++ rest) outcome ↔
      rest = [] ∧ outcome = .ok map := by
  rw [tryGetAll_eq, Routine.comesTo_append_iff hit]
  exact Routine.comesTo_done_iff

/-- A lookup for which the cache yields no map comes to what its load comes to, whatever it
was that the cache did. -/
theorem comesTo_tryGetAll_of_miss {looks : List Site}
    (missed : permissions.readCached.ComesTo looks none) :
    permissions.tryGetAll.toRoutine.ComesTo (looks ++ rest) outcome ↔
      (if permissions.singleFlight then permissions.loadShared
        else permissions.load).toRoutine.ComesTo rest outcome := by
  rw [tryGetAll_eq, Routine.comesTo_append_iff missed]

/-! ## Lookups side by side -/

variable {start site : Site} {trace now later : Trace PermissionCall} {number : Nat}
  {lookup : Lookup}

/-- Lookups, invalidations and write backs over one state. Time, cache and store and the
conditions that these are in are open to the world outside, and only the loads that lookups
share are not. -/
def openWorkload (permissions : Permissions) : Workload PermissionCall where
  Answer := permissions.workload.Answer
  program := permissions.workload.program
  admits _ site other := other.flight = site.flight
  outside site other := other.flight = site.flight

end Permissions

/-- With its first two steps a call has looked into the cache, which has yielded a map or
none. -/
def Trace.Finds (permissions : Permissions) (trace : Trace PermissionCall) (number : Nat)
    (found : Option RuleMap) : Prop :=
  ∃ asking answering rest, trace.steps number = asking :: answering :: rest ∧
    found = Permissions.yielded? (permissions.cacheAnswer asking.before answering.before)

/-- How a lookup has come by its outcome: the cache has yielded a map, or it has not and a
load has come to the outcome. -/
inductive Fetched (permissions : Permissions) (trace : Trace PermissionCall) (number : Nat) :
    Except StoreFault RuleMap → Prop where
  | cached {map : RuleMap} (finds : trace.Finds permissions number (some map)) :
      Fetched permissions trace number (.ok map)
  | missed {outcome : Except StoreFault RuleMap} (misses : trace.Finds permissions number none)
      (obtains : trace.Obtains permissions number outcome) :
      Fetched permissions trace number outcome

/-- Why a lookup has failed: the cache has yielded no map, and the query of a load has
failed with the fault. -/
def Trace.Fails (permissions : Permissions) (trace : Trace PermissionCall) (number : Nat)
    (fault : StoreFault) : Prop :=
  trace.Finds permissions number none ∧ ∃ reader before query read after,
    trace.steps reader = before ++ query :: read :: after ∧ query.Asks .rules ∧
      permissions.QueryFails query.before read.before fault

namespace Trace

variable {permissions : Permissions} {trace now later : Trace PermissionCall} {number : Nat}
  {outcome : Except StoreFault RuleMap}

theorem Finds.mono {found : Option RuleMap} (finds : now.Finds permissions number found)
    (grows : now <+: later) : later.Finds permissions number found := by
  obtain ⟨asking, answering, rest, taken, yields⟩ := finds
  obtain ⟨more, rfl⟩ := grows
  refine ⟨asking, answering, rest ++ steps number more, ?_, yields⟩
  rw [steps_append, taken]
  rfl

theorem Obtains.mono (obtains : now.Obtains permissions number outcome) (grows : now <+: later) :
    later.Obtains permissions number outcome := by
  cases obtains with
  | loaded reads => exact .loaded (reads.mono grows)
  | joined shared joins taken landed =>
      exact .joined shared ((steps_mono grows).subset joins) taken (landed.mono grows)

/-- Every load that has come to a fault has made a query that failed with it. -/
theorem Obtains.fails {fault : StoreFault} (misses : trace.Finds permissions number none)
    (obtains : trace.Obtains permissions number (.error fault)) :
    trace.Fails permissions number fault := by
  refine ⟨misses, ?_⟩
  have failed : ∀ reader before read, trace.ReadsAfter permissions reader before read
      (.error fault) → ∃ reader before query read after,
        trace.steps reader = before ++ query :: read :: after ∧ query.Asks .rules ∧
          permissions.QueryFails query.before read.before fault := by
    rintro reader before read ⟨query, after, steps, asks, came⟩
    exact ⟨reader, before, query, read, after, steps, asks,
      Permissions.answerOf_eq_error_iff.mp came.symm⟩
  cases obtains with
  | loaded reads =>
      obtain ⟨before, reads⟩ := reads
      exact failed _ _ _ reads
  | joined shared joins taken landed =>
      obtain ⟨reader, before, launch, read, -, reads⟩ := landed
      exact failed _ _ _ reads

end Trace

namespace Permissions

variable {permissions : Permissions} {start site : Site} {trace now later : Trace PermissionCall}
  {number : Nat} {lookup : Lookup}

/-- Lookups keep what is known of shared loads. -/
theorem upkeep_boards : Upkeep permissions start
    (fun trace site => Boards permissions start trace site.flight) (fun _ => True) where
  boards := id
  countCall := fun _ _ _ boards => boards.same rfl
  flown := fun _ boards => boards
  read := fun _ => trivial
  deferred := fun boards _ _ => boards.same rfl

theorem follows_look (begun : now.steps number = []) :
    permissions.readCached.Follows number (.look lookup) (fun _ => True)
      (fun trace site => Boards permissions start trace site.flight)
      (fun later found => later.Finds permissions number found) now := by
  have asked : (callStore "cache.get" permissions.timeout .cacheGet fun site =>
      (.ok (site.cache.get? site.clock cacheKey), site)).toRoutine.Follows number (.look lookup)
        (fun _ => True) (fun trace site => Boards permissions start trace site.flight)
        (fun later answer => later.Finds permissions number (yielded? answer)) now := by
    apply Routine.follows_callStore
    · intro later site waits boards _
      exact boards.same rfl
    · intro asking called later site waits asked further boards woken answer came _
      have unmoved : answer.2 = site := by
        rw [came]
        rcases storeAnswer_cases "cache.get" permissions.timeout called.clock
          (called.conditions .cacheGet)
          (fun site => (.ok (site.cache.get? site.clock cacheKey), site)) site with
          ⟨fault, failed⟩ | answered
        · rw [failed]
        · rw [answered]
      rw [unmoved]
      refine ⟨boards.same rfl, ⟨.takes number (.look lookup), called,
        called.countCall .cacheGet⟩, ⟨.takes number (.look lookup), site, site⟩, [], ?_, ?_⟩
      · rw [Trace.steps_append, further.steps_eq, Trace.steps_append, waits.steps_eq, begun,
          Trace.steps_takes, Trace.steps_takes]
        rfl
      · rw [came, cacheAnswer]
  apply Routine.follows_bind asked
  intro answer later finds
  rcases answer with fault | (_ | text) <;> exact finds

/-- A lookup is served by the cache or by a load. -/
theorem follows_fetch (begun : now.steps number = []) :
    permissions.tryGetAll.toRoutine.Follows number (.look lookup) (fun _ => True)
      (fun trace site => Boards permissions start trace site.flight)
      (fun later outcome => Fetched permissions later number outcome) now := by
  rw [tryGetAll_eq]
  apply Routine.follows_bind (follows_look begun)
  intro found later finds
  -- Where the cache has yielded no map, why it has not is of no account from here on.
  cases found with
  | some map => exact .cached finds
  | none =>
      apply Routine.follows_mono (Routine.follows_later (follows_missed upkeep_boards)
        (List.prefix_refl later))
      rintro further outcome ⟨onward, obtains⟩
      exact .missed (finds.mono onward) obtains

/-- What comes of a call whatever the world does: an answered lookup shows what it was
served. -/
def Brings (permissions : Permissions) (number : Nat) :
    (call : PermissionCall) → Trace PermissionCall → permissions.workload.Answer call → Prop
  | .look lookup, now, answer => ∃ outcome, Fetched permissions now number outcome ∧
      answer = lookup.shown outcome
  | .invalidate, _, _ => True
  | .writeBack _, _, _ => True

theorem sustains_boards (idle : start.flight.IsIdle) :
    permissions.openWorkload.Sustains start (fun _ => True)
      (fun trace site => Boards permissions start trace site.flight) permissions.Brings where
  start := idle.boards
  outside := by
    intro trace site other boards same _
    have flight : other.flight = site.flight := same
    rw [flight]
    exact boards.same flight
  begins := by
    intro trace site number call other unstepped boards admitted _
    have flight : other.flight = site.flight := admitted
    have begun : Trace.steps number (trace ++ [⟨.begins number call, site, other⟩]) = [] := by
      rw [Trace.steps_append, unstepped, Trace.steps_begins]
      rfl
    have kept : ∀ (trace : Trace PermissionCall) (site other : Site),
        Boards permissions start trace site.flight → other.flight = site.flight →
          Boards permissions start (trace ++ [⟨.takes number call, site, other⟩]) other.flight := by
      intro trace site other boards same
      rw [same]
      exact boards.same same
    refine ⟨by rw [flight]; exact boards.same flight, ?_⟩
    cases call with
    | look lookup =>
        change (lookup.program permissions).Follows _ _ _ _ _ _
        rw [Lookup.program_eq]
        apply Routine.follows_bind (follows_fetch begun)
        intro outcome later fetched
        exact ⟨outcome, fetched, rfl⟩
    | invalidate =>
        apply Routine.Confined.follows _ kept
        exact Routine.confined_callStore (fun _ _ => ⟨trivial, rfl⟩) (fun _ => rfl)
          fun _ _ => ⟨trivial, rfl⟩
    | writeBack map =>
        apply Routine.Confined.follows _ kept
        refine Routine.confined_bind (Routine.confined_callStore (fun _ _ => ⟨trivial, rfl⟩)
          (fun _ => rfl) fun site _ => ⟨trivial, ?_⟩) fun _ => trivial
        split <;> rfl

/-- Whatever cache and store do, an answered lookup shows what it was served by the cache or
by a load. -/
theorem fetched_of_answered {threads : List permissions.openWorkload.Thread}
    (idle : start.flight.IsIdle) (run : permissions.openWorkload.Run start trace site threads)
    {answer : lookup.Answer}
    (answered : permissions.openWorkload.Answered threads number (.look lookup) answer) :
    ∃ outcome, Fetched permissions trace number outcome ∧ answer = lookup.shown outcome := by
  obtain ⟨now, waits, outcome, fetched, shown⟩ :=
    run.answered (sustains_boards idle) (fun _ _ _ => trivial) trivial answered
  refine ⟨outcome, ?_, shown⟩
  cases fetched with
  | cached finds => exact .cached (finds.mono waits.isPrefix)
  | missed misses obtains =>
      exact .missed (misses.mono waits.isPrefix) (obtains.mono waits.isPrefix)

end Permissions

end Gatehouse
