import Gatehouse.Proofs.Permissions.Loads

/-!
# What lookups are served

Each step of a lookup, an invalidation or a write back keeps an invariant between the
trace and the state: the cache shows the map that was last written, as long as it is
live; every map that waits to be written, or that lookups share, was read off the store.
By it each lookup is served as `Served` says, however the calls are interleaved.
-/

namespace Gatehouse

variable {permissions : Permissions} {start site other : Site} {trace now : Trace PermissionCall}
  {event : Event PermissionCall} {map : RuleMap} {number : Nat}

/-! ## The invariant -/

/-- What the cache shows under the key of the map from now on: the map that was last
written until it expires, or nothing. -/
inductive Remembers (permissions : Permissions) (trace : Trace PermissionCall) (site : Site) :
    Prop where
  | written {map : RuleMap} {time : Nat} (last : trace.LastWritten permissions map time)
      (proper : map.IsProper) (loaded : trace.Loaded permissions map)
      (shown : ∀ instant, site.clock ≤ instant → site.cache.get? instant Permissions.cacheKey =
        if instant < time + permissions.ttl.nanos then some map.encode else none)
  | nothing (never : ∀ map time, ¬ trace.LastWritten permissions map time)
      (shown : ∀ instant, site.clock ≤ instant →
        site.cache.get? instant Permissions.cacheKey = none)

/-- What holds throughout a run. -/
structure Kept (permissions : Permissions) (start : Site) (trace : Trace PermissionCall)
    (site : Site) : Prop where
  rules : site.rules.IsProper
  cacheAnswers : permissions.CacheAnswers site
  remembers : Remembers permissions trace site
  pending : ∀ map ∈ site.writeBacks, map.IsProper ∧ trace.Loaded permissions map
  boards : Boards permissions start trace site.flight

theorem Permissions.Fresh.kept (fresh : permissions.Fresh start) :
    Kept permissions start [] start where
  rules := fresh.rules
  cacheAnswers := fresh.cacheAnswers
  remembers := by
    refine .nothing ?_ fun _ _ => TtlCache.get?_of_absent fresh.uncached
    rintro map time ⟨early, event, late, split, -⟩
    simp at split
  pending := by simp [fresh.unwritten]
  boards := Flight.IsIdle.boards ⟨fresh.unloaded, fresh.landed⟩

/-- Events that leave the cached map alone keep it in mind, as time passes. -/
theorem Remembers.spared (remembers : Remembers permissions trace site)
    (spares : event.Spares permissions) (later : site.clock ≤ other.clock)
    (same : TtlCache.ShowsSame Permissions.cacheKey other.clock site.cache other.cache) :
    Remembers permissions (trace ++ [event]) other := by
  have grows : trace <+: trace ++ [event] := List.prefix_append trace _
  cases remembers with
  | written last proper loaded shown =>
      refine .written ((Trace.lastWritten_snoc_iff spares).mpr last) proper (loaded.mono grows) ?_
      intro instant after
      rw [same instant after]
      exact shown instant (Nat.le_trans later after)
  | nothing never shown =>
      refine .nothing (fun map time => ?_) fun instant after => ?_
      · rw [Trace.lastWritten_snoc_iff spares]
        exact never map time
      · rw [same instant after]
        exact shown instant (Nat.le_trans later after)

namespace Kept

/-- A step that leaves the stores alone keeps what holds, if what it does to the maps
that wait and to the shared loads is in order. -/
theorem stepped (kept : Kept permissions start trace site) (spares : event.Spares permissions)
    (same : SameStores site other)
    (pending : ∀ map ∈ other.writeBacks,
      map.IsProper ∧ Trace.Loaded permissions (trace ++ [event]) map)
    (boards : Boards permissions start (trace ++ [event]) other.flight) :
    Kept permissions start (trace ++ [event]) other where
  rules := by
    rw [same.rules]
    exact kept.rules
  cacheAnswers := by
    have answers := kept.cacheAnswers
    constructor <;> rw [same.conditions]
    · exact answers.get
    · exact answers.set
    · exact answers.delete
  remembers := by
    apply kept.remembers.spared spares (Nat.le_of_eq same.clock.symm)
    rw [same.cache]
    exact .refl _ _ _
  pending := pending
  boards := boards

theorem pending_snoc (kept : Kept permissions start trace site) (event : Event PermissionCall) :
    ∀ map ∈ site.writeBacks, map.IsProper ∧ Trace.Loaded permissions (trace ++ [event]) map :=
  fun map member =>
    ⟨(kept.pending map member).1, (kept.pending map member).2.mono (List.prefix_append trace _)⟩

/-- A store is asked for something. -/
theorem countCall (kept : Kept permissions start trace site) (number : Nat)
    (call : PermissionCall) (backend : Backend) :
    Kept permissions start (trace ++ [⟨.takes number call, site, site.countCall backend⟩])
      (site.countCall backend) :=
  kept.stepped (Event.spares_countCall number call backend site) ⟨rfl, rfl, rfl, rfl⟩
    (kept.pending_snoc _) (kept.boards.same rfl)

/-- Lookups keep what holds. -/
theorem upkeep : Upkeep permissions start (Kept permissions start) RuleMap.IsProper where
  boards := Kept.boards
  countCall := fun number lookup backend kept => kept.countCall number (.look lookup) backend
  flown := fun kept boards =>
    kept.stepped (Event.spares_look _ _ _ _) ⟨rfl, rfl, rfl, rfl⟩ (kept.pending_snoc _) boards
  read := fun kept => kept.rules.ofRules
  deferred := by
    intro trace site number lookup map kept proper loaded
    refine kept.stepped (Event.spares_look number lookup _ _) ⟨rfl, rfl, rfl, rfl⟩ ?_
      (kept.boards.same rfl)
    intro other member
    rcases List.mem_append.mp member with early | last
    · exact kept.pending_snoc _ other early
    · rw [List.mem_singleton.mp last]
      exact ⟨proper, loaded.mono (List.prefix_append trace _)⟩

end Kept

/-! ## Lookups -/

namespace Permissions

variable {lookup : Lookup} {before : List (Event PermissionCall)}

/-- What is known of a lookup that has read the cache. -/
def LookedUp (permissions : Permissions) (number : Nat) (trace : Trace PermissionCall)
    (found : Option RuleMap) : Prop :=
  (∀ event ∈ trace.steps number, ¬ event.Asks .rules) ∧
    ∃ early look, trace.Looks number early look ∧
      match found with
      | some map => early.Live permissions map look.before.clock ∧ early.Loaded permissions map
      | none => ∀ map, ¬ early.Live permissions map look.before.clock

/-- The cache shows a map exactly if one is live. -/
theorem decode?_cached (remembers : Remembers permissions trace site) :
    match (site.cache.get? site.clock cacheKey).bind RuleMap.decode? with
    | some map => trace.Live permissions map site.clock ∧ trace.Loaded permissions map
    | none => ∀ map, ¬ trace.Live permissions map site.clock := by
  cases remembers with
  | @written map time last proper loaded shown =>
      rw [shown site.clock (Nat.le_refl _)]
      by_cases live : site.clock < time + permissions.ttl.nanos
      · rw [if_pos live, Option.bind_some, RuleMap.decode?_encode proper]
        exact ⟨⟨time, last, live⟩, loaded⟩
      · rw [if_neg live]
        rintro other ⟨elsewhen, also, fresh⟩
        rw [last.time_eq also] at fresh
        exact live fresh
  | nothing never shown =>
      rw [shown site.clock (Nat.le_refl _)]
      rintro map ⟨time, last, -⟩
      exact never map time last

theorem follows_readCached (begun : now.steps number = []) :
    permissions.readCached.Follows number (.look lookup) (fun _ => True)
      (Kept permissions start) (permissions.LookedUp number) now := by
  have called : (callStore "cache.get" permissions.timeout .cacheGet fun site =>
      (.ok (site.cache.get? site.clock cacheKey), site)).toRoutine.Follows number (.look lookup)
        (fun _ => True) (Kept permissions start)
        (fun later outcome => ∃ text, outcome = .ok text ∧
          permissions.LookedUp number later (text.bind RuleMap.decode?)) now := by
    apply Routine.follows_callStore_of_answers fun _ _ kept => kept.cacheAnswers.get
    · intro later site waits kept _
      exact kept.countCall number (.look lookup) .cacheGet
    · intro asking called later site waits further kept _
      refine ⟨Kept.upkeep.looked number lookup kept, _, rfl, ?_⟩
      have steps : later.steps number = [⟨.takes number (.look lookup), called,
          called.countCall .cacheGet⟩] := by
        rw [further.steps_eq, Trace.steps_append, waits.steps_eq, begun, Trace.steps_takes]
        rfl
      constructor
      · intro event member
        rw [Trace.steps_append, steps, Trace.steps_takes] at member
        rcases List.mem_cons.mp member with rfl | last
        · simp
        · rw [List.mem_singleton.mp last]
          exact Event.not_asks_of_same rfl
      · exact ⟨later, _, ⟨_, [], rfl, steps, rfl⟩, decode?_cached kept.remembers⟩
  apply Routine.follows_bind called
  rintro outcome later ⟨text, rfl, looked⟩
  cases text with
  | none => exact looked
  | some text => exact looked

/-- A lookup is served from the cache, by its own load or by the one it joins. -/
theorem follows_tryGetAll (begun : now.steps number = []) :
    permissions.tryGetAll.toRoutine.Follows number (.look lookup) (fun _ => True)
      (Kept permissions start) (fun later outcome => Served permissions later number outcome)
      now := by
  apply Task.follows_lift_bind (follows_readCached begun)
  rintro found later ⟨unasked, early, look, looks, known⟩
  cases found with
  | some map => exact Served.cached looks known.1 known.2 unasked
  | none =>
      apply Routine.follows_mono (Routine.follows_later (follows_missed Kept.upkeep)
        (List.prefix_refl later))
      rintro further outcome ⟨onward, obtains⟩
      have looked := looks.mono onward
      cases obtains with
      | loaded reads => exact .loaded looked known reads
      | joined shared joins taken landed => exact .joined looked known shared joins taken landed

/-! ## Invalidations and write backs -/

theorem follows_writeBack (proper : map.IsProper) (loaded : now.Loaded permissions map) :
    (permissions.writeBack map).Follows number (.writeBack map) (fun _ => True)
      (Kept permissions start) (fun _ _ => True) now := by
  rw [writeBack]
  apply Routine.follows_bind
  case post => exact fun _ _ => True
  case first =>
    apply Routine.follows_callStore_of_answers fun _ _ kept => kept.cacheAnswers.set
    · intro later site waits kept _
      exact kept.countCall number (.writeBack map) .cacheSet
    · intro asking called later site waits further kept _
      have known := loaded.mono ((waits.prefix_snoc _).trans further.isPrefix)
      cases done : site.cache.set site.clock cacheKey map.encode permissions.ttl with
      | error fault =>
          have spares : Event.Spares ⟨.takes number (.writeBack map), site, site⟩ permissions := by
            constructor
            · intro other writes
              obtain ⟨_, same⟩ := writes.act
              injection same with _ same
              injection same with same
              subst same
              have succeeded := writes.done
              rw [done] at succeeded
              injection succeeded
            · intro invalidates
              obtain ⟨_, same⟩ := invalidates.act
              injection same with _ same
              injection same
          exact ⟨kept.stepped spares ⟨rfl, rfl, rfl, rfl⟩ (kept.pending_snoc _)
            (kept.boards.same rfl), trivial⟩
      | ok cache =>
          refine ⟨⟨kept.rules, ⟨kept.cacheAnswers.get, kept.cacheAnswers.set,
            kept.cacheAnswers.delete⟩, ?_, kept.pending_snoc _, kept.boards.same rfl⟩, trivial⟩
          have writes : Event.Writes ⟨.takes number (.writeBack map), site,
              { site with cache := cache }⟩ permissions map := ⟨⟨number, rfl⟩, rfl, done⟩
          exact .written (Trace.lastWritten_snoc writes) proper
            (known.mono (List.prefix_append later _)) fun instant _ => TtlCache.get?_of_set done
  case rest =>
    intro _ _ _
    trivial

theorem follows_invalidate :
    permissions.invalidate.toRoutine.Follows number .invalidate (fun _ => True)
      (Kept permissions start) (fun _ _ => True) now := by
  apply Routine.follows_callStore_of_answers fun _ _ kept => kept.cacheAnswers.delete
  · intro later site waits kept _
    exact kept.countCall number .invalidate .cacheDelete
  · intro asking called later site waits further kept _
    refine ⟨⟨kept.rules, ⟨kept.cacheAnswers.get, kept.cacheAnswers.set,
      kept.cacheAnswers.delete⟩, ?_, kept.pending_snoc _, kept.boards.same rfl⟩, trivial⟩
    have invalidates : Event.Invalidates ⟨.takes number .invalidate, site,
        { site with cache := site.cache.delete cacheKey }⟩ := ⟨⟨number, rfl⟩, rfl⟩
    refine .nothing (fun map time => Trace.not_lastWritten_snoc invalidates) ?_
    intro instant _
    exact TtlCache.get?_delete _ _ _

/-! ## Runs -/

/-- What comes of a call: an answered lookup shows what it was served. -/
def Comes (permissions : Permissions) (number : Nat) :
    (call : PermissionCall) → Trace PermissionCall → permissions.workload.Answer call → Prop
  | .look lookup, now, answer => ∃ outcome, Served permissions now number outcome ∧
      answer = lookup.shown outcome
  | .invalidate, _, _ => True
  | .writeBack _, _, _ => True

theorem sustains (fresh : permissions.Fresh start) :
    permissions.workload.Sustains start (fun _ => True) (Kept permissions start)
      (permissions.Comes) where
  start := fresh.kept
  outside := by
    intro trace site other kept drifts _
    have boards : Boards permissions start (trace ++ [⟨.drifts, site, other⟩]) site.flight :=
      kept.boards.same drifts.flight
    refine ⟨drifts.rules, drifts.cacheAnswers, ?_, ?_, ?_⟩
    · exact kept.remembers.spared (Event.spares_drifts site other) drifts.clock drifts.cache
    · rw [drifts.writeBacks]
      exact kept.pending_snoc _
    · rw [drifts.flight]
      exact boards
  begins := by
    intro trace site number call other unstepped kept admitted _
    have spares : Event.Spares ⟨.begins number call, site, other⟩ permissions :=
      Event.spares_begins number call site other
    have begun : Trace.steps number (trace ++ [⟨.begins number call, site, other⟩]) = [] := by
      rw [Trace.steps_append, unstepped, Trace.steps_begins]
      rfl
    cases call with
    | look lookup =>
        obtain rfl : other = site := admitted
        refine ⟨kept.stepped spares ⟨rfl, rfl, rfl, rfl⟩ (kept.pending_snoc _)
          (kept.boards.same rfl), ?_⟩
        change (lookup.program permissions).Follows _ _ _ _ _ _
        rw [Lookup.program_eq]
        apply Routine.follows_bind (follows_tryGetAll begun)
        intro outcome later served
        exact ⟨outcome, served, rfl⟩
    | invalidate =>
        obtain rfl : other = site := admitted
        exact ⟨kept.stepped spares ⟨rfl, rfl, rfl, rfl⟩ (kept.pending_snoc _)
          (kept.boards.same rfl), follows_invalidate⟩
    | writeBack map =>
        obtain ⟨front, back, waiting, rfl⟩ := admitted
        have pending := kept.pending_snoc
          ⟨.begins number (.writeBack map), site, { site with writeBacks := front ++ back }⟩
        rw [waiting] at pending
        have known := pending map (by simp)
        refine ⟨kept.stepped spares ⟨rfl, rfl, rfl, rfl⟩ ?_ (kept.boards.same rfl),
          follows_writeBack known.1 known.2⟩
        intro other member
        apply pending other
        rcases List.mem_append.mp member with before | behind
        · exact List.mem_append_left _ before
        · exact List.mem_append_right _ (List.mem_cons_of_mem _ behind)

/-- A map that was served has been read off the store. -/
theorem loaded_of_served {map : RuleMap} (served : Served permissions trace number (.ok map)) :
    trace.Loaded permissions map := by
  generalize same : Except.ok map = outcome at served
  cases served with
  | cached looks live read unasked =>
      obtain rfl := Except.ok.inj same
      obtain ⟨asking, late, rfl, -⟩ := looks
      exact read.mono (List.prefix_append _ _)
  | loaded looks stale reads =>
      subst same
      exact ⟨number, _, reads⟩
  | joined looks stale shared joins taken landed =>
      subst same
      obtain ⟨reader, before, launch, read, -, reads⟩ := landed
      exact ⟨reader, read, _, reads⟩

/-- However lookups, invalidations, write backs and changes of the rules are interleaved,
each lookup is served from the cache exactly if a map is live when it looks, and what it
is served is the map of the rules that were in force when some load read them. -/
theorem lookups_served {threads : List permissions.workload.Thread} {lookup : Lookup}
    {answer : lookup.Answer} (fresh : permissions.Fresh start)
    (run : permissions.workload.Run start trace site threads)
    (answered : permissions.workload.Answered threads number (.look lookup) answer) :
    ∃ now outcome, Trace.Waits number now trace ∧ Served permissions now number outcome ∧
      answer = lookup.shown outcome ∧ ∀ map, outcome = .ok map →
        ∃ reader read, now.Reads permissions reader read outcome ∧
          map = .ofRules read.before.rules.active := by
  obtain ⟨now, waits, outcome, served, shown⟩ :=
    run.answered (sustains fresh) (fun _ _ _ => trivial) trivial answered
  refine ⟨now, outcome, waits, served, shown, ?_⟩
  rintro map rfl
  obtain ⟨reader, read, reads⟩ := loaded_of_served served
  obtain ⟨before, query, after, -, -, came⟩ := id reads
  exact ⟨reader, read, reads, answerOf_eq_ok permissions came.symm⟩

/-- A lookup that finds a map in a cache that answers at once is answered with it. -/
theorem settle_of_cached {site : Site} {map : RuleMap} (proper : map.IsProper)
    (sound : site.conditions .cacheGet = .sound)
    (cached : site.cache.get? site.clock cacheKey = some map.encode) (lookup : Lookup) :
    ((lookup.program permissions).settle site).1 = .done (lookup.shown (.ok map)) := by
  have asked : (callStore "cache.get" permissions.timeout .cacheGet fun site =>
      (.ok (site.cache.get? site.clock cacheKey), site)).toRoutine.settle site =
        (.done (.ok (some map.encode)), site.countCall .cacheGet) := by
    rw [settle_callStore sound, ← cached]
    rfl
  have read : permissions.readCached.settle site =
      (.done (some map), site.countCall .cacheGet) := by
    rw [readCached, Routine.settle_bind asked, Routine.settle, RuleMap.decode?_encode proper]
  have lifted : (liftM permissions.readCached :
      Task StoreFault (Option RuleMap)).toRoutine.settle site =
        (.done (.ok (some map)), site.countCall .cacheGet) := Routine.settle_bind read _
  have found : permissions.tryGetAll.toRoutine.settle site =
      (.done (.ok map), site.countCall .cacheGet) := Routine.settle_bind lifted _
  rw [Lookup.program_eq, Routine.settle_bind found]
  rfl

/-- Lookups whose maps count for ten seconds. -/
def brief : Permissions := ⟨.ofSeconds 10, .ofSeconds 2, false⟩

/-- One rule is in force, and it asks for nothing. -/
def ruled : Site :=
  .initial 0 ⟨0, 0⟩ [⟨.ofTime .rule 0 0, "A", "a.S/A", false, false, ⟨0, 0⟩, none⟩] [] []

theorem proper_ruled : ruled.rules.IsProper := by
  intro rule member
  obtain rfl := List.mem_singleton.mp member
  exact ⟨⟨by decide, by decide, by decide, by decide⟩, nofun⟩

theorem fresh_ruled : brief.Fresh ruled where
  rules := proper_ruled
  cacheAnswers := ⟨⟨Nat.zero_le _, rfl⟩, ⟨Nat.zero_le _, rfl⟩, ⟨Nat.zero_le _, rfl⟩⟩
  uncached := rfl
  unwritten := rfl
  unloaded := rfl
  landed := nofun

/-- Behind a first lookup and the write back of its map, a second one is answered from
the cache. -/
theorem run_ruled : ∃ trace site threads, brief.workload.Run ruled trace site threads ∧
    brief.workload.Answered threads 2 (.look .all) (.ofRules ruled.rules.active) := by
  have admitted : ∀ (lookup : Lookup) site, brief.workload.admits (.look lookup) site site :=
    fun _ _ => rfl
  have first := Workload.Run.begins .start (PermissionCall.look .all) (admitted .all ruled)
  have loaded := first.settle 0 rfl
  have second := loaded.begins (.writeBack (.ofRules ruled.rules.active)) ⟨[], [], rfl, rfl⟩
  have written := second.settle 1 rfl
  have third := written.begins (.look .all) (admitted .all _)
  have looked := third.settle_answered 2 rfl
    (Prod.ext (settle_of_cached proper_ruled.ofRules (by rfl) (by rfl) .all) rfl)
  exact ⟨_, _, _, looked, rfl⟩

theorem lookups_served_of_ruled : ∃ trace site threads, brief.Fresh ruled ∧
    brief.workload.Run ruled trace site threads ∧
      brief.workload.Answered threads 2 (.look .all) (.ofRules ruled.rules.active) ∧
        ∃ now outcome, Trace.Waits 2 now trace ∧ Served brief now 2 outcome ∧
          RuleMap.ofRules ruled.rules.active = Lookup.all.shown outcome ∧
            ∀ map, outcome = .ok map → ∃ reader read, now.Reads brief reader read outcome ∧
              map = .ofRules read.before.rules.active := by
  obtain ⟨trace, site, threads, run, answered⟩ := run_ruled
  exact ⟨trace, site, threads, fresh_ruled, run, answered, lookups_served fresh_ruled run answered⟩

end Permissions

end Gatehouse
