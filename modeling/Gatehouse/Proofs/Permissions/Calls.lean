import Gatehouse.Permissions
import Gatehouse.Proofs.Cache.Entries
import Gatehouse.Proofs.Execution.Interleaving
import Gatehouse.Proofs.Rule.Encoding
import Gatehouse.Proofs.Rule.InForce

/-!
# Lookups, invalidations and write backs side by side

A run of the rule lookup is made of lookups, of invalidations, and of the routines
that write maps back, each begun at any time after its map was left to be written.
Meanwhile the world outside changes the stored rules and the time passes.

What a lookup is served is said in terms of the trace alone: which map was the last
one to be written to the cache, when, and what the store held when it was read.
-/

namespace Gatehouse

/-! ## The calls -/

/-- The ways to ask for rules. -/
inductive Lookup where
  | all
  | tryAll
  | rule (procedure : String)

namespace Lookup

/-- What a lookup is answered with. -/
def Answer : Lookup → Type
  | .all => RuleMap
  | .tryAll => Except StoreFault RuleMap
  | .rule _ => Option Rule

/-- What a lookup does. -/
def program (permissions : Permissions) : (lookup : Lookup) → Routine Site lookup.Answer
  | .all => permissions.getAll
  | .tryAll => permissions.tryGetAll.toRoutine
  | .rule procedure => permissions.lookup procedure

/-- What a lookup shows of the rules, or of why they cannot be had. -/
def shown : (lookup : Lookup) → Except StoreFault RuleMap → lookup.Answer
  | .all, outcome => outcome.toOption.getD .empty
  | .tryAll, outcome => outcome
  | .rule procedure, outcome => (outcome.toOption.getD .empty).get? procedure

theorem program_eq (permissions : Permissions) (lookup : Lookup) :
    lookup.program permissions =
      permissions.tryGetAll.toRoutine.bind fun outcome => .done (lookup.shown outcome) := by
  have all : permissions.getAll = permissions.tryGetAll.toRoutine.bind fun outcome =>
      .done (outcome.toOption.getD .empty) := by
    rw [Permissions.getAll]
    congr 1
    funext outcome
    cases outcome <;> rfl
  cases lookup with
  | all => exact all
  | tryAll => exact (Routine.bind_done _).symm
  | rule procedure =>
      change permissions.getAll.bind _ = _
      rw [all, Routine.bind_assoc]
      rfl

end Lookup

/-- The calls of a rule lookup, with the routines that it leaves behind. -/
inductive PermissionCall where
  | look (lookup : Lookup)
  | invalidate
  | writeBack (map : RuleMap)

/-- Every stored rule can be represented. -/
def RuleStore.IsProper (store : RuleStore) : Prop := ∀ rule ∈ store.rules, rule.IsProper

theorem RuleStore.IsProper.ofRules {store : RuleStore} (proper : store.IsProper) :
    (RuleMap.ofRules store.active).IsProper := by
  rintro ⟨procedure, rule⟩ member
  have found := OrderedMap.mem_entries_iff.mp member
  rw [RuleMap.get?_ofRules] at found
  have active := (List.mem_filter.mp (List.mem_of_find?_eq_some found)).1
  exact proper rule (RuleStore.mem_active.mp active).1

namespace Permissions

variable (permissions : Permissions)

/-- The cache does at once, or at least in time, what it is asked for. -/
structure CacheAnswers (site : Site) : Prop where
  get : (site.conditions .cacheGet).Answers permissions.timeout
  set : (site.conditions .cacheSet).Answers permissions.timeout
  delete : (site.conditions .cacheDelete).Answers permissions.timeout

/-- What the world outside may do: the time passes, the stored rules change, and their
store may fail. The cache goes on to show the same under the key of the map. -/
structure Drifts (site other : Site) : Prop where
  clock : site.clock ≤ other.clock
  rules : other.rules.IsProper
  cacheAnswers : permissions.CacheAnswers other
  cache : TtlCache.ShowsSame cacheKey other.clock site.cache other.cache
  flight : other.flight = site.flight
  writeBacks : other.writeBacks = site.writeBacks

theorem drifts_of_rules {permissions : Permissions} {site : Site} (rules : RuleStore)
    (answers : permissions.CacheAnswers site) (proper : rules.IsProper) :
    permissions.Drifts site { site with rules := rules } :=
  ⟨Nat.le_refl _, proper, ⟨answers.get, answers.set, answers.delete⟩, .refl _ _ _, rfl, rfl⟩

/-- Lookups, invalidations and write backs over one state. -/
def workload : Workload PermissionCall where
  Answer
    | .look lookup => lookup.Answer
    | .invalidate => Except StoreFault Bool
    | .writeBack _ => Unit
  program
    | .look lookup => lookup.program permissions
    | .invalidate => permissions.invalidate.toRoutine
    | .writeBack map => permissions.writeBack map
  admits call site other :=
    match call with
    | .writeBack map => ∃ front back, site.writeBacks = front ++ map :: back ∧
        other = { site with writeBacks := front ++ back }
    | _ => other = site
  outside := permissions.Drifts

/-- A state in which no map is cached, to be written back or being loaded. -/
structure Fresh (start : Site) : Prop where
  rules : start.rules.IsProper
  cacheAnswers : permissions.CacheAnswers start
  uncached : start.cache.entries.get? cacheKey = none
  unwritten : start.writeBacks = []
  unloaded : start.flight.slot = none
  landed : ∀ entry ∈ start.flight.outcomes, entry.1 < start.flight.started

/-- The map that comes of asking the store for the rules in one state and having its
answer in another one. -/
def answerOf (asking answering : Site) : Except StoreFault RuleMap :=
  (storeAnswer "permissions.find_active" permissions.timeout asking.clock
    (asking.conditions .rules) (fun site => (.ok site.rules.active, site)) answering).1.map
      RuleMap.ofRules

/-- The map that comes of it is that of the rules in force when the store answers. -/
theorem answerOf_eq_ok {asking answering : Site} {map : RuleMap}
    (success : permissions.answerOf asking answering = .ok map) :
    map = .ofRules answering.rules.active := by
  rcases storeAnswer_cases "permissions.find_active" permissions.timeout asking.clock
      (asking.conditions .rules) (fun site => (.ok site.rules.active, site)) answering with
    ⟨fault, failed⟩ | answer
  · rw [answerOf, failed] at success
    injection success
  · rw [answerOf, answer] at success
    exact (Except.ok.inj success).symm

end Permissions

/-! ## What happens to the cached map -/

namespace Event

variable (event : Event PermissionCall)

/-- A map is put into the cache by a routine that writes it back. -/
structure Writes (permissions : Permissions) (map : RuleMap) : Prop where
  act : ∃ number, event.act = .takes number (.writeBack map)
  calls : event.after.calls = event.before.calls
  done : event.before.cache.set event.before.clock Permissions.cacheKey map.encode
    permissions.ttl = .ok event.after.cache

/-- The map is taken out of the cache by an invalidation. -/
structure Invalidates : Prop where
  act : ∃ number, event.act = .takes number .invalidate
  calls : event.after.calls = event.before.calls

/-- No map is put into the cache, and none is taken out. -/
structure Spares (permissions : Permissions) : Prop where
  unwritten : ∀ map, ¬ event.Writes permissions map
  kept : ¬ event.Invalidates

/-- A lookup begins a load that others may join. -/
structure Launches (flight : Nat) : Prop where
  free : event.before.flight.slot = none
  number : event.before.flight.started = flight
  taken : event.after.flight.slot = some flight

end Event

namespace Trace

variable (permissions : Permissions) (trace : Trace PermissionCall)

/-- The last that happened to the cached map is that it was written at a time. -/
def LastWritten (map : RuleMap) (time : Nat) : Prop :=
  ∃ early event late, trace = early ++ event :: late ∧ event.Writes permissions map ∧
    event.before.clock = time ∧ ∀ later ∈ late, later.Spares permissions

/-- A map was the last one to be written and has not expired. -/
def Live (map : RuleMap) (now : Nat) : Prop :=
  ∃ time, trace.LastWritten permissions map time ∧ now < time + permissions.ttl.nanos

/-- Behind some of its steps, a call asked the store for the rules and read the
answer. -/
def ReadsAfter (number : Nat) (before : List (Event PermissionCall))
    (read : Event PermissionCall) (outcome : Except StoreFault RuleMap) : Prop :=
  ∃ query after, trace.steps number = before ++ query :: read :: after ∧ query.Asks .rules ∧
    outcome = permissions.answerOf query.before read.before

/-- A call read the rules in the store. -/
def Reads (number : Nat) (read : Event PermissionCall) (outcome : Except StoreFault RuleMap) :
    Prop :=
  ∃ before, trace.ReadsAfter permissions number before read outcome

/-- Some call has read a map off the store. -/
def Loaded (map : RuleMap) : Prop :=
  ∃ reader read, trace.Reads permissions reader read (.ok map)

/-- A load that lookups share came to its outcome. -/
def Landed (flight : Nat) (outcome : Except StoreFault RuleMap) : Prop :=
  ∃ number before launch read, launch.Launches flight ∧
    trace.ReadsAfter permissions number (before ++ [launch]) read outcome

/-- A call looked into the cache: what had happened before, and the look itself, which
follows on the question. -/
def Looks (number : Nat) (early : Trace PermissionCall) (look : Event PermissionCall) : Prop :=
  ∃ asking late, trace = early ++ look :: late ∧ early.steps number = [asking] ∧
    look.act.stepOf? = some number

end Trace

/-- How a lookup came by its outcome: from the cache, where a map was live when it
looked, and then it asked the store for nothing; or, where none was, by a load of its
own or by one that was under way. -/
inductive Served (permissions : Permissions) (trace : Trace PermissionCall) (number : Nat) :
    Except StoreFault RuleMap → Prop where
  | cached {early : Trace PermissionCall} {look : Event PermissionCall} {map : RuleMap}
      (looks : trace.Looks number early look)
      (live : early.Live permissions map look.before.clock)
      (read : early.Loaded permissions map)
      (unasked : ∀ event ∈ trace.steps number, ¬ event.Asks .rules) :
      Served permissions trace number (.ok map)
  | loaded {early : Trace PermissionCall} {look read : Event PermissionCall}
      {outcome : Except StoreFault RuleMap} (looks : trace.Looks number early look)
      (stale : ∀ map, ¬ early.Live permissions map look.before.clock)
      (reads : trace.Reads permissions number read outcome) :
      Served permissions trace number outcome
  | joined {early : Trace PermissionCall} {look join : Event PermissionCall} {flight : Nat}
      {outcome : Except StoreFault RuleMap} (looks : trace.Looks number early look)
      (stale : ∀ map, ¬ early.Live permissions map look.before.clock)
      (shared : permissions.singleFlight = true) (joins : join ∈ trace.steps number)
      (taken : join.before.flight.slot = some flight)
      (landed : trace.Landed permissions flight outcome) :
      Served permissions trace number outcome

/-! ## What later events leave alone -/

namespace Event

variable {permissions : Permissions} {event : Event PermissionCall} {map : RuleMap} {flight : Nat}

theorem Writes.not_spares (writes : event.Writes permissions map) : ¬ event.Spares permissions :=
  fun spares => spares.unwritten map writes

theorem Invalidates.not_spares (invalidates : event.Invalidates) : ¬ event.Spares permissions :=
  fun spares => spares.kept invalidates

theorem Invalidates.not_writes (invalidates : event.Invalidates) :
    ¬ event.Writes permissions map := by
  intro writes
  obtain ⟨number, same⟩ := invalidates.act
  obtain ⟨other, differs⟩ := writes.act
  rw [same] at differs
  injection differs with _ differs
  injection differs

/-- Lookups leave the cached map alone. -/
theorem spares_look (number : Nat) (lookup : Lookup) (before after : Site) :
    Spares ⟨.takes number (.look lookup), before, after⟩ permissions := by
  constructor
  · intro map writes
    obtain ⟨_, same⟩ := writes.act
    injection same with _ same
    injection same
  · intro invalidates
    obtain ⟨_, same⟩ := invalidates.act
    injection same with _ same
    injection same

/-- The beginning of a call leaves the cached map alone. -/
theorem spares_begins (number : Nat) (call : PermissionCall) (before after : Site) :
    Spares ⟨.begins number call, before, after⟩ permissions :=
  ⟨fun _ writes => (nomatch writes.act), fun invalidates => (nomatch invalidates.act)⟩

theorem spares_drifts (before after : Site) : Spares ⟨.drifts, before, after⟩ permissions :=
  ⟨fun _ writes => (nomatch writes.act), fun invalidates => (nomatch invalidates.act)⟩

/-- To ask a store for something leaves the cached map alone. -/
theorem spares_countCall (number : Nat) (call : PermissionCall) (backend : Backend)
    (before : Site) :
    Spares ⟨.takes number call, before, before.countCall backend⟩ permissions := by
  have counted : (before.countCall backend).calls ≠ before.calls := by
    intro same
    have grown := congrFun same backend
    simp [Site.countCall] at grown
  exact ⟨fun _ writes => counted writes.calls, fun invalidates => counted invalidates.calls⟩

/-- What leaves the place of the shared load as it is, or empty, begins none. -/
theorem not_launches {act : Act PermissionCall} {before after : Site}
    (same : after.flight.slot = before.flight.slot ∨ after.flight.slot = none) :
    ¬ Launches ⟨act, before, after⟩ flight := by
  intro launches
  have taken := launches.taken
  rcases same with same | free
  · rw [same, launches.free] at taken
    injection taken
  · rw [free] at taken
    injection taken

end Event

namespace Trace

variable {permissions : Permissions} {trace later : Trace PermissionCall}
  {event : Event PermissionCall} {map : RuleMap} {time number flight : Nat}
  {read : Event PermissionCall} {outcome : Except StoreFault RuleMap}

/-- After an event that leaves the cached map alone, the last written map is the same. -/
theorem lastWritten_snoc_iff (spares : event.Spares permissions) :
    LastWritten permissions (trace ++ [event]) map time ↔
      trace.LastWritten permissions map time := by
  constructor
  · rintro ⟨early, write, late, split, writes, at_, quiet⟩
    rcases snoc_cases split with ⟨-, rfl, -⟩ | ⟨front, rfl, rfl⟩
    · exact absurd spares writes.not_spares
    · exact ⟨early, write, front, rfl, writes, at_, fun other member =>
        quiet other (List.mem_append_left _ member)⟩
  · rintro ⟨early, write, late, rfl, writes, at_, quiet⟩
    refine ⟨early, write, late ++ [event], by simp, writes, at_, ?_⟩
    intro other member
    rcases List.mem_append.mp member with among | last
    · exact quiet other among
    · rw [List.mem_singleton.mp last]
      exact spares

theorem lastWritten_snoc (writes : event.Writes permissions map) :
    LastWritten permissions (trace ++ [event]) map event.before.clock :=
  ⟨trace, event, [], rfl, writes, rfl, by simp⟩

/-- After an invalidation, no map is the last written one. -/
theorem not_lastWritten_snoc (invalidates : event.Invalidates) :
    ¬ LastWritten permissions (trace ++ [event]) map time := by
  rintro ⟨early, write, late, split, writes, -, quiet⟩
  rcases snoc_cases split with ⟨-, rfl, -⟩ | ⟨front, rfl, -⟩
  · exact invalidates.not_writes writes
  · exact invalidates.not_spares (quiet event (by simp))

/-- The last written map was written at one time. -/
theorem LastWritten.time_eq {other : RuleMap} {elsewhen : Nat}
    (last : trace.LastWritten permissions map time)
    (also : trace.LastWritten permissions other elsewhen) : elsewhen = time := by
  obtain ⟨early, write, late, rfl, writes, rfl, quiet⟩ := last
  obtain ⟨front, again, back, split, rewrites, rfl, still⟩ := also
  rcases place_cases split with ⟨-, rfl, -⟩ | ⟨between, -, rfl⟩ | ⟨between, -, rfl⟩
  · rfl
  · exact absurd (quiet again (by simp)) rewrites.not_spares
  · exact absurd (still write (by simp)) writes.not_spares

/-- What a call has read it has read later on. -/
theorem ReadsAfter.mono {before : List (Event PermissionCall)}
    (reads : trace.ReadsAfter permissions number before read outcome) (grows : trace <+: later) :
    later.ReadsAfter permissions number before read outcome := by
  obtain ⟨query, after, taken, queries, came⟩ := reads
  obtain ⟨more, rfl⟩ := grows
  refine ⟨query, after ++ steps number more, ?_, queries, came⟩
  rw [steps_append, taken]
  simp

theorem Reads.mono (reads : trace.Reads permissions number read outcome) (grows : trace <+: later) :
    later.Reads permissions number read outcome :=
  reads.imp fun _ reads => reads.mono grows

theorem Loaded.mono (loaded : trace.Loaded permissions map) (grows : trace <+: later) :
    later.Loaded permissions map := by
  obtain ⟨reader, read, reads⟩ := loaded
  exact ⟨reader, read, reads.mono grows⟩

theorem Landed.mono (landed : trace.Landed permissions flight outcome) (grows : trace <+: later) :
    later.Landed permissions flight outcome := by
  obtain ⟨number, before, launch, read, launches, reads⟩ := landed
  exact ⟨number, before, launch, read, launches, reads.mono grows⟩

theorem Looks.mono {early : Trace PermissionCall} {look : Event PermissionCall}
    (looks : trace.Looks number early look) (grows : trace <+: later) :
    later.Looks number early look := by
  obtain ⟨asking, late, rfl, steps, own⟩ := looks
  obtain ⟨more, rfl⟩ := grows
  exact ⟨asking, late ++ more, by simp, steps, own⟩

end Trace

end Gatehouse
