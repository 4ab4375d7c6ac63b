import Gatehouse.Proofs.Cache.Entries
import Gatehouse.Proofs.Execution.Disciplines
import Gatehouse.Proofs.Execution.Interleaving

/-!
# One cache or several

Components that share a state may share a cache in it as well. A component minds some keys
of the cache if what it does depends on what the cache shows under these keys alone, and
shows under these keys alone. Components that mind different keys could as well have a
cache each: every run over the one cache is a run over several, step by step, and all calls
come to the same.
-/

namespace Gatehouse

/-! ## What a component sees of the cache -/

/-- Two states differ in their caches at most, and these show the same under some keys from
now on. -/
structure Alike (own : String → Prop) (site other : Site) : Prop where
  same : other = { site with cache := other.cache }
  shown : ∀ key, own key → TtlCache.ShowsSame key site.clock site.cache other.cache

/-- What the cache shows under other keys is left as it is, and time does not run backwards. -/
structure Spares (own : String → Prop) (site other : Site) : Prop where
  clock : site.clock ≤ other.clock
  shown : ∀ key, ¬ own key → TtlCache.ShowsSame key site.clock site.cache other.cache

/-- An act that depends on the cache, and shows in it, under some keys alone. -/
structure ActsOn {α : Type} (own : String → Prop) (act : Site → α × Site) : Prop where
  alike : ∀ site other, Alike own site other →
    (act other).1 = (act site).1 ∧ Alike own (act site).2 (act other).2
  spares : ∀ site, Spares own site (act site).2

/-- Every step of a routine minds some keys of the cache, as does whether it may be taken. -/
def Routine.Minds {α : Type} (own : String → Prop) : Routine Site α → Prop
  | .done _ => True
  | .step wait act next =>
      ∀ site, Spares own site (act site) ∧
        (∀ other, Alike own site other → wait.ready other = wait.ready site ∧
          Alike own (act site) (act other) ∧ next other = next site) ∧
            (next site).Minds own

variable {own wider : String → Prop} {site other : Site}

theorem Alike.clock_eq (alike : Alike own site other) : other.clock = site.clock := by
  rw [alike.same]

/-! ## Acts -/

section Acts

variable {α : Type} {key value : String}

theorem Spares.refl (own : String → Prop) (site : Site) : Spares own site site :=
  ⟨Nat.le_refl _, fun _ _ => .refl _ _ _⟩

/-- An act that has nothing to do with the cache. -/
theorem ActsOn.of_uncached {act : Site → α × Site}
    (uncached : ∀ site cache, act { site with cache := cache } =
      ((act site).1, { (act site).2 with cache := cache }))
    (clock : ∀ site, (act site).2.clock = site.clock) : ActsOn own act := by
  have kept : ∀ site, (act site).2.cache = site.cache := fun site =>
    congrArg (fun result => result.2.cache) (uncached site site.cache)
  constructor
  · intro site other alike
    rw [alike.same, uncached]
    refine ⟨rfl, rfl, ?_⟩
    intro key mine
    rw [clock, kept]
    exact alike.shown key mine
  · intro site
    refine ⟨Nat.le_of_eq (clock site).symm, ?_⟩
    intro key _
    rw [kept]
    exact .refl _ _ _

/-- To look a value up minds its key. -/
theorem actsOn_get (mine : own key) : ActsOn own fun site =>
    ((.ok (site.cache.get? site.clock key) : Except StoreFault (Option String)), site) := by
  constructor
  · intro site other alike
    have found := alike.shown key mine site.clock (Nat.le_refl _)
    refine ⟨?_, alike⟩
    change Except.ok (other.cache.get? other.clock key) = Except.ok (site.cache.get? site.clock key)
    rw [alike.clock_eq, found]
  · exact fun site => .refl own site

/-- Whether a value can be set does not depend on what is in the cache. -/
theorem TtlCache.set_cases (cache other : TtlCache) (now : Nat) (key value : String) (ttl : Span) :
    (∃ after others, cache.set now key value ttl = .ok after ∧
        other.set now key value ttl = .ok others) ∨
      ∃ fault, cache.set now key value ttl = .error fault ∧
        other.set now key value ttl = .error fault := by
  simp only [set]
  split
  · exact .inl ⟨_, _, rfl, rfl⟩
  · exact .inr ⟨_, rfl, rfl⟩

/-- To put a value under a key minds the key, though entries are dropped. -/
theorem actsOn_set (mine : own key) (value : String) (ttl : Span) : ActsOn own fun site =>
    match site.cache.set site.clock key value ttl with
    | .ok cache => (Except.ok (), { site with cache := cache })
    | .error fault => (.error fault, site) := by
  constructor
  · intro site other alike
    simp only [alike.clock_eq]
    rcases TtlCache.set_cases site.cache other.cache site.clock key value ttl with
      ⟨after, others, done, also⟩ | ⟨fault, failed, also⟩
    · rw [done, also]
      refine ⟨rfl, by rw [alike.same], fun elsewhere kept instant since => ?_⟩
      -- Both caches show the value under its key, and under the others what they showed.
      by_cases same : key = elsewhere
      · subst same
        exact (TtlCache.get?_of_set also).trans (TtlCache.get?_of_set done).symm
      · have before := alike.shown elsewhere kept instant since
        exact (TtlCache.showsSame_of_set same also instant since).trans
          (before.trans (TtlCache.showsSame_of_set same done instant since).symm)
    · rw [failed, also]
      exact ⟨rfl, alike⟩
  · intro site
    cases done : site.cache.set site.clock key value ttl with
    | error fault => exact .refl own site
    | ok after =>
        refine ⟨Nat.le_refl _, fun elsewhere foreign => ?_⟩
        refine TtlCache.showsSame_of_set ?_ done
        rintro rfl
        exact foreign mine

/-- To take a value away minds its key. -/
theorem actsOn_delete (mine : own key) : ActsOn own fun site =>
    ((.ok (site.cache.exists_ site.clock key) : Except StoreFault Bool),
      { site with cache := site.cache.delete key }) := by
  constructor
  · intro site other alike
    have found := alike.shown key mine site.clock (Nat.le_refl _)
    refine ⟨?_, by rw [alike.same], fun elsewhere kept instant since => ?_⟩
    · simp only [TtlCache.exists_, alike.clock_eq, found]
    · by_cases same : key = elsewhere
      · subst same
        exact (TtlCache.get?_delete _ _ _).trans (TtlCache.get?_delete _ _ _).symm
      · have before := alike.shown elsewhere kept instant since
        exact (TtlCache.showsSame_delete same site.clock other.cache instant since).trans
          (before.trans (TtlCache.showsSame_delete same site.clock site.cache instant since).symm)
  · intro site
    refine ⟨Nat.le_refl _, fun elsewhere foreign => ?_⟩
    apply TtlCache.showsSame_delete
    rintro rfl
    exact foreign mine

end Acts

/-! ## Routines -/

namespace Routine

variable {α β : Type}

theorem minds_after {wait : Wait Site} {act : Site → α × Site} (acts : ActsOn own act)
    (ready : ∀ site other, Alike own site other → wait.ready other = wait.ready site) :
    (after wait act).Minds own := by
  intro site
  refine ⟨acts.spares site, ?_, trivial⟩
  intro other alike
  obtain ⟨same, still⟩ := acts.alike site other alike
  exact ⟨ready site other alike, still, congrArg Routine.done same⟩

theorem minds_atomically {act : Site → α × Site} (acts : ActsOn own act) :
    (atomically act).Minds own :=
  minds_after acts fun _ _ _ => rfl

/-- A change that has nothing to do with the cache. -/
theorem minds_change {act : Site → Site}
    (uncached : ∀ site cache, act { site with cache := cache } = { act site with cache := cache })
    (clock : ∀ site, (act site).clock = site.clock) : (change act).Minds own := by
  have acts : ActsOn own fun site => ((), act site) :=
    .of_uncached (fun site cache => by rw [uncached]) clock
  exact minds_atomically acts

theorem minds_bind {routine : Routine Site α} {next : α → Routine Site β}
    (first : routine.Minds own) (rest : ∀ value, (next value).Minds own) :
    (routine.bind next).Minds own := by
  induction routine with
  | done value => exact rest value
  | step wait act further ih =>
      intro site
      obtain ⟨spares, alike, onward⟩ := first site
      refine ⟨spares, ?_, ih site onward⟩
      intro other same
      obtain ⟨ready, still, goesOn⟩ := alike other same
      exact ⟨ready, still, congrArg (fun left => left.bind next) goesOn⟩

theorem isStepwise_minds : IsStepwise (Minds own) where
  done _ := trivial
  bind := minds_bind

/-- Who minds some keys minds others along with them. -/
theorem minds_mono {routine : Routine Site α} (minds : routine.Minds own)
    (more : ∀ key, own key → wider key) : routine.Minds wider := by
  induction routine with
  | done value => trivial
  | step wait act next ih =>
      intro site
      obtain ⟨spares, alike, onward⟩ := minds site
      refine ⟨⟨spares.clock, fun key foreign => spares.shown key fun mine =>
        foreign (more key mine)⟩, ?_, ih site onward⟩
      intro other same
      obtain ⟨ready, still, goesOn⟩ :=
        alike other ⟨same.same, fun key mine => same.shown key (more key mine)⟩
      refine ⟨ready, ⟨still.same, fun key kept => ?_⟩, goesOn⟩
      -- A key that is minded only now is left alone in both states.
      by_cases mine : own key
      · exact still.shown key mine
      · intro instant since
        have passed := Nat.le_trans spares.clock since
        have left := (minds other).1.shown key mine instant (by rw [same.clock_eq]; exact passed)
        exact left.trans ((same.shown key kept instant passed).trans
          (spares.shown key mine instant passed).symm)

end Routine

/-- The discipline of those who mind some keys of the cache. -/
abbrev Discipline.minding (own : String → Prop) : Discipline := .ofSteps (Routine.Minds own)

theorem obeys_minding {α : Type} {routine : Routine Site α} (minds : routine.Minds own) :
    routine.Obeys (.minding own) fun _ => True :=
  Routine.isStepwise_minds.obeys minds fun _ => trivial

theorem Task.Obeys.minds {φ α : Type} {task : Task φ α} {known : Except φ α → Prop}
    (obeys : task.Obeys (.minding own) known) : task.toRoutine.Minds own :=
  Routine.isStepwise_minds.holds obeys

/-- A call of a store minds what its act minds. -/
theorem obeys_minding_callStore {α : Type} {operation : String} {limit : Span} {backend : Backend}
    {act : Site → Except StoreFault α × Site} (acts : ActsOn own act) :
    (callStore operation limit backend act).Obeys (.minding own) fun _ => True := by
  have counts : ActsOn own fun site : Site =>
      ((site.clock, site.conditions backend), site.countCall backend) :=
    .of_uncached (fun _ _ => rfl) fun _ => rfl
  apply obeys_minding
  apply Routine.minds_bind (Routine.minds_atomically counts)
  rintro ⟨start, condition⟩
  apply Routine.minds_after
  · constructor
    · intro site other alike
      simp only [alike.clock_eq]
      split
      · exact ⟨rfl, alike⟩
      · cases condition.failure with
        | some fault => exact ⟨rfl, alike⟩
        | none => exact acts.alike site other alike
    · intro site
      split
      · exact .refl own site
      · cases condition.failure with
        | some fault => exact .refl own site
        | none => exact acts.spares site
  · intro site other alike
    have same : Clocked.clock other = Clocked.clock site := alike.clock_eq
    simp only [Wait.for_, same]

/-! ## Components with caches of their own -/

/-- A state in which every component has a cache of its own. The cache of the state itself is
nobody's. -/
structure Separate (ι : Type) where
  site : Site
  caches : ι → TtlCache

namespace Separate

variable {ι : Type}

/-- The state as a component finds it. -/
def view (separate : Separate ι) (component : ι) : Site :=
  { separate.site with cache := separate.caches component }

/-- A component leaves a state behind. -/
def put [DecidableEq ι] (separate : Separate ι) (component : ι) (site : Site) : Separate ι where
  site := { site with cache := separate.site.cache }
  caches other := if other = component then site.cache else separate.caches other

/-- The world outside leaves a state behind, but for the caches. -/
def drift (separate : Separate ι) (site : Site) : Separate ι :=
  { separate with site := { site with cache := separate.site.cache } }

/-- Every component has the state at hand, with a cache that shows the same under its keys. -/
def Agrees (keys : ι → String → Prop) (site : Site) (separate : Separate ι) : Prop :=
  ∀ component, Alike (keys component) site (separate.view component)

variable {keys : ι → String → Prop} {separate : Separate ι} {site other : Site} {component : ι}

/-- A component leaves a state behind, and the others find it with the caches that they had. -/
theorem Agrees.put [DecidableEq ι] (agrees : separate.Agrees keys site)
    (apart : ∀ component other key, keys component key → keys other key → component = other)
    {left : Site} (alike : Alike (keys component) other left)
    (spares : Spares (keys component) site other) :
    (separate.put component left).Agrees keys other := by
  intro another
  refine ⟨by rw [alike.same]; rfl, fun key mine instant since => ?_⟩
  change (if another = component then left.cache else separate.caches another).get? instant key =
    other.cache.get? instant key
  split
  · next same =>
      subst same
      exact alike.shown key mine instant since
  · next different =>
      have foreign : ¬ keys component key := fun theirs =>
        different (apart another component key mine theirs)
      have passed := Nat.le_trans spares.clock since
      have before := (agrees another).shown key mine instant passed
      exact before.trans (spares.shown key foreign instant passed).symm

/-- The world outside changes the state for every component. -/
theorem Agrees.drift (agrees : separate.Agrees keys site) (cache : other.cache = site.cache)
    (clock : site.clock ≤ other.clock) : (separate.drift other).Agrees keys other := by
  intro another
  refine ⟨rfl, fun key mine instant since => ?_⟩
  rw [cache]
  exact (agrees another).shown key mine instant (Nat.le_trans clock since)

end Separate

namespace Workload

variable {κ ι : Type} {workload : Workload κ} {owner : κ → ι}
  {keys : ι → String → Prop} {start site : Site} {trace : Trace κ}
  {threads : List workload.Thread}

/-- The runs in which each call acts on the cache of its component. Who acts, and what the
world outside does, is as in a trace of the run over one cache. -/
inductive Replays [DecidableEq ι] (workload : Workload κ) (owner : κ → ι) (start : Separate ι) :
    Trace κ → Separate ι → List workload.Thread → Prop where
  | start : Replays workload owner start [] start []
  | begins {trace : Trace κ} {separate : Separate ι} {threads : List workload.Thread}
      {site other after : Site} (run : Replays workload owner start trace separate threads)
      (call : κ) (admitted : workload.admits call (separate.view (owner call)) after) :
      Replays workload owner start (trace ++ [⟨.begins threads.length call, site, other⟩])
        (separate.put (owner call) after) (threads ++ [⟨call, workload.program call⟩])
  | takes {trace : Trace κ} {separate : Separate ι} {threads : List workload.Thread}
      {number : Nat} {call : κ} {wait : Wait Site} {act : Site → Site}
      {next : Site → Routine Site (workload.Answer call)} {site other : Site}
      (run : Replays workload owner start trace separate threads)
      (found : threads[number]? = some ⟨call, .step wait act next⟩)
      (ready : wait.ready (separate.view (owner call)) = true) :
      Replays workload owner start (trace ++ [⟨.takes number call, site, other⟩])
        (separate.put (owner call) (act (separate.view (owner call))))
        (threads.set number ⟨call, next (separate.view (owner call))⟩)
  | drifts {trace : Trace κ} {separate : Separate ι} {threads : List workload.Thread}
      {site other : Site} (run : Replays workload owner start trace separate threads) :
      Replays workload owner start (trace ++ [⟨.drifts, site, other⟩]) (separate.drift other)
        threads

/-- Calls of several components mind different keys of the cache. Neither the beginning of a
call nor the world outside has anything to do with the cache. -/
structure Divides (workload : Workload κ) (owner : κ → ι) (keys : ι → String → Prop) : Prop where
  apart : ∀ component other key, keys component key → keys other key → component = other
  minds : ∀ call, (workload.program call).Minds (keys (owner call))
  admits : ∀ call site other, workload.admits call site other →
    other.cache = site.cache ∧ other.clock = site.clock ∧
      ∀ cache, workload.admits call { site with cache := cache } { other with cache := cache }
  outside : ∀ site other, workload.outside site other →
    other.cache = site.cache ∧ site.clock ≤ other.clock

/-- What is left of each call minds the keys of its component. -/
theorem Run.minds (run : workload.Run start trace site threads)
    (divides : workload.Divides owner keys) :
    ∀ (number : Nat) (thread : workload.Thread), threads[number]? = some thread →
      thread.left.Minds (keys (owner thread.call)) := by
  induction run with
  | start => simp
  | begins run call admitted ih =>
      intro number thread found
      rcases getElem?_snoc_cases found with ⟨-, early⟩ | ⟨-, rfl⟩
      · exact ih number thread early
      · exact divides.minds call
  | takes run found ready ih =>
      intro number thread shown
      rcases getElem?_set_cases shown with ⟨-, rfl⟩ | ⟨-, early⟩
      · exact (ih _ _ found _).2.2
      · exact ih number thread early
  | drifts run acts ih => exact ih

/-- No step of a call shows under a key of another component. -/
theorem Run.spares (run : workload.Run start trace site threads)
    (divides : workload.Divides owner keys) {event : Event κ} (member : event ∈ trace)
    {number : Nat} {call : κ} (step : event.act = .takes number call) :
    Spares (keys (owner call)) event.before event.after := by
  induction run with
  | start => contradiction
  | begins run other admitted ih =>
      rcases List.mem_append.mp member with early | last
      · exact ih early
      · rw [List.mem_singleton.mp last] at step
        contradiction
  | takes run found ready ih =>
      rcases List.mem_append.mp member with early | last
      · exact ih early
      · obtain rfl := List.mem_singleton.mp last
        cases step
        exact (run.minds divides _ _ found _).1
  | drifts run acts ih =>
      rcases List.mem_append.mp member with early | last
      · exact ih early
      · rw [List.mem_singleton.mp last] at step
        contradiction

/-- Every run over one cache is a run over one for each component: the calls come as far, and
what they are answered is the same. -/
theorem Run.replays [DecidableEq ι] (run : workload.Run start trace site threads)
    (divides : workload.Divides owner keys) {separate : Separate ι}
    (agrees : separate.Agrees keys start) :
    ∃ after : Separate ι, Replays workload owner separate trace after threads ∧
      after.Agrees keys site := by
  induction run with
  | start => exact ⟨separate, .start, agrees⟩
  | @begins trace site other threads run call admitted ih =>
      obtain ⟨before, replays, agrees⟩ := ih
      obtain ⟨cache, clock, elsewhere⟩ := divides.admits call site other admitted
      have begun := elsewhere (before.caches (owner call))
      have found : before.view (owner call) = { site with cache := before.caches (owner call) } :=
        (agrees (owner call)).same
      rw [← found] at begun
      refine ⟨_, replays.begins call begun, agrees.put divides.apart ?_ ?_⟩
      · refine ⟨rfl, fun key mine => ?_⟩
        rw [cache, clock]
        exact (agrees (owner call)).shown key mine
      · refine ⟨Nat.le_of_eq clock.symm, fun key _ => ?_⟩
        rw [cache]
        exact .refl _ _ _
  | @takes trace site threads number call wait act next run found ready ih =>
      obtain ⟨before, replays, agrees⟩ := ih
      obtain ⟨spares, alike, -⟩ := run.minds divides _ _ found site
      obtain ⟨also, still, goesOn⟩ := alike _ (agrees (owner call))
      have stepped : Replays workload owner separate
          (trace ++ [⟨.takes number call, site, act site⟩]) _ _ :=
        replays.takes found (by rw [also, ready])
      rw [goesOn] at stepped
      exact ⟨_, stepped, agrees.put divides.apart still spares⟩
  | drifts run acts ih =>
      obtain ⟨before, replays, agrees⟩ := ih
      obtain ⟨cache, clock⟩ := divides.outside _ _ acts
      exact ⟨_, replays.drifts, agrees.drift cache clock⟩

end Workload

end Gatehouse
