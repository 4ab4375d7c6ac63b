import Gatehouse.Proofs.Execution.Procedures
import Gatehouse.Proofs.Execution.Separation
import Gatehouse.Proofs.Handlers.Watched
import Gatehouse.Proofs.Permissions.Calls
import Gatehouse.Proofs.Token.Calls

/-!
# Rules and sessions in one cache

The map of the rules and the sessions of accounts stand in one cache, under keys of their
own. Whoever sets something drops what has expired of the others too, and yet nobody can
tell: lookups, write backs and invalidations of the rules, and the recording and ending of
sessions, come to the same as if the rules and each session had a cache of their own.
-/

namespace Gatehouse

/-! ## Who minds which keys -/

namespace Permissions

variable (permissions : Permissions) {own : String → Prop}

theorem minds_joinFlight : joinFlight.Minds own := by
  apply Routine.minds_atomically
  refine .of_uncached (fun site _ => ?_) fun site => ?_
  · cases site.flight.slot <;> simp only
  · cases site.flight.slot <;> simp only

theorem minds_leaveFlight (number : Nat) : (leaveFlight number).Minds own := by
  apply Routine.minds_after
  · refine .of_uncached (fun site _ => ?_) fun site => ?_
    · simp only
      split <;> rfl
    · simp only
      split <;> rfl
  · intro site other alike
    have flight : other.flight = site.flight := by rw [alike.same]
    simp only [Wait.until_, flight]

variable (mine : own cacheKey)

include mine

/-- A lookup minds the key of the rules. -/
theorem allows_minding : permissions.Allows (.minding own) fun _ => True where
  cached := Routine.Obeys.mono (obeys_minding_callStore (actsOn_get mine))
    fun _ _ _ _ _ _ => trivial
  stored := obeys_minding_callStore (.of_uncached (fun _ _ => rfl) fun _ => rfl)
  defers _ _ := obeys_minding (Routine.minds_change (fun _ _ => rfl) fun _ => rfl)
  joins := obeys_minding minds_joinFlight
  lands _ _ _ := obeys_minding (Routine.minds_change (fun _ _ => rfl) fun _ => rfl)
  leaves number := obeys_minding (minds_leaveFlight number)

theorem minds_lookup (lookup : Lookup) : (lookup.program permissions).Minds own := by
  rw [Lookup.program_eq]
  exact Routine.minds_bind (permissions.allows_minding mine).tryGetAll.minds fun _ => trivial

theorem minds_writeBack (map : RuleMap) : (permissions.writeBack map).Minds own :=
  Routine.minds_bind (obeys_minding_callStore (actsOn_set mine map.encode permissions.ttl)).minds
    fun _ => trivial

theorem minds_invalidate : permissions.invalidate.toRoutine.Minds own :=
  (obeys_minding_callStore (actsOn_delete mine)).minds

end Permissions

namespace TokenService

variable (service : TokenService) {own : String → Prop}

theorem minds_recordSession (subject : AccountId) (session : SessionId)
    (mine : own (Session.key subject session)) :
    (service.recordSession subject session).toRoutine.Minds own :=
  (obeys_recordSession (obeys_minding_callStore
    (actsOn_set mine session.text service.refreshTtl))).minds

theorem minds_endSession (claims : Claims)
    (mine : own (Session.key claims.subject claims.session)) :
    (service.endSession claims).toRoutine.Minds own :=
  (obeys_endSession (obeys_minding_callStore (actsOn_delete mine))).minds

end TokenService

/-! ## Users of one cache -/

/-- What uses the cache: lookups, write backs and invalidations of the rules, and the
recording and ending of sessions. -/
inductive CacheUser where
  | rules (call : PermissionCall)
  | record (subject : AccountId) (session : SessionId) (ttl : Span)
  | consume (claims : Claims)

/-- Whose a key of the cache is, the rules' or that of a session. -/
inductive CacheOwner where
  | rules
  | sessionOf (subject : AccountId) (session : SessionId)
  deriving DecidableEq

/-- The keys of an owner. -/
def CacheOwner.Holds : CacheOwner → String → Prop
  | .rules, key => key = Permissions.cacheKey
  | .sessionOf subject session, key => key = Session.key subject session

/-- The components that use the cache. -/
inductive CachePart where
  | rules
  | sessions
  deriving DecidableEq

/-- The keys of a component. -/
def CachePart.Holds : CachePart → String → Prop
  | .rules, key => key = Permissions.cacheKey
  | .sessions, key => ∃ subject session, key = Session.key subject session

namespace CacheUser

/-- Whose keys are used. -/
def owner : CacheUser → CacheOwner
  | .rules _ => .rules
  | .record subject session _ => .sessionOf subject session
  | .consume claims => .sessionOf claims.subject claims.session

/-- Which component it is. -/
def part : CacheUser → CachePart
  | .rules _ => .rules
  | .record _ _ _ => .sessions
  | .consume _ => .sessions

variable (permissions : Permissions) (tokens : TokenService)

/-- The users of one cache over one state. The world outside leaves the cache alone, and its
clock does not run backwards. -/
def workload : Workload CacheUser where
  Answer
    | .rules call => permissions.workload.Answer call
    | .record _ _ _ => Except AuthFault Unit
    | .consume _ => Except AuthFault Unit
  program
    | .rules call => permissions.workload.program call
    | .record subject session ttl =>
        ({ tokens with refreshTtl := ttl }.recordSession subject session).toRoutine
    | .consume claims => (tokens.endSession claims).toRoutine
  admits
    | .rules call, site, other => permissions.workload.admits call site other
    | .record _ _ _, site, other => other = site
    | .consume _, site, other => other = site
  outside site other := other.cache = site.cache ∧ site.clock ≤ other.clock

variable {permissions tokens}

theorem minds (user : CacheUser) :
    ((workload permissions tokens).program user).Minds user.owner.Holds := by
  cases user with
  | rules call =>
      have mine : CacheOwner.rules.Holds Permissions.cacheKey := rfl
      cases call with
      | look lookup => exact permissions.minds_lookup mine lookup
      | invalidate => exact permissions.minds_invalidate mine
      | writeBack map => exact permissions.minds_writeBack mine map
  | record subject session ttl => exact TokenService.minds_recordSession _ subject session rfl
  | consume claims => exact tokens.minds_endSession claims rfl

theorem admits_elsewhere {user : CacheUser} {site other : Site}
    (admitted : (workload permissions tokens).admits user site other) :
    other.cache = site.cache ∧ other.clock = site.clock ∧ ∀ cache,
      (workload permissions tokens).admits user { site with cache := cache }
        { other with cache := cache } := by
  have still : ∀ {site other : Site}, other = site → other.cache = site.cache ∧
      other.clock = site.clock ∧ ∀ cache : TtlCache,
        { other with cache := cache } = { site with cache := cache } := by
    rintro site _ rfl
    exact ⟨rfl, rfl, fun _ => rfl⟩
  cases user with
  | rules call =>
      cases call with
      | look lookup => exact still admitted
      | invalidate => exact still admitted
      | writeBack map =>
          obtain ⟨front, back, waiting, rfl⟩ := admitted
          exact ⟨rfl, rfl, fun _ => ⟨front, back, waiting, rfl⟩⟩
  | record subject session ttl => exact still admitted
  | consume claims => exact still admitted

/-- The rules and each session have keys of their own. -/
theorem divides_owners :
    (workload permissions tokens).Divides owner CacheOwner.Holds where
  apart := by
    intro holder other key mine theirs
    cases holder with
    | rules =>
        cases other with
        | rules => rfl
        | sessionOf subject session =>
            exact absurd (theirs.symm.trans mine) (Session.key_ne_cacheKey subject session)
    | sessionOf subject session =>
        cases other with
        | rules => exact absurd (mine.symm.trans theirs) (Session.key_ne_cacheKey subject session)
        | sessionOf another elsewhere =>
            obtain ⟨rfl, rfl⟩ := Session.key_inj (mine.symm.trans theirs)
            rfl
  minds := minds
  admits _ _ _ := admits_elsewhere
  outside _ _ acts := acts

/-- The rules and the sessions have keys of their own. -/
theorem divides_parts : (workload permissions tokens).Divides part CachePart.Holds where
  apart := by
    intro component other key mine theirs
    cases component with
    | rules =>
        cases other with
        | rules => rfl
        | sessions =>
            obtain ⟨subject, session, rfl⟩ := theirs
            exact absurd mine (Session.key_ne_cacheKey subject session)
    | sessions =>
        cases other with
        | sessions => rfl
        | rules =>
            obtain ⟨subject, session, rfl⟩ := mine
            exact absurd theirs (Session.key_ne_cacheKey subject session)
  minds user := by
    refine Routine.minds_mono (minds user) fun key mine => ?_
    cases user with
    | rules call => exact mine
    | record subject session ttl => exact ⟨subject, session, mine⟩
    | consume claims => exact ⟨claims.subject, claims.session, mine⟩
  admits _ _ _ := admits_elsewhere
  outside _ _ acts := acts

/-- How the users of one cache share it in a run. -/
structure Shares (permissions : Permissions) (tokens : TokenService) (start : Site)
    (trace : Trace CacheUser) (site : Site)
    (threads : List (workload permissions tokens).Thread) : Prop where
  /-- Sessions of accounts have keys of their own. -/
  sessions : ∀ subject other session elsewhere,
    Session.key subject session = Session.key other elsewhere →
      subject = other ∧ session = elsewhere
  /-- The key of the rules is none of them. -/
  rules : ∀ subject session, Session.key subject session ≠ Permissions.cacheKey
  /-- All comes to the same as if the two components had a cache each. -/
  parts : ∀ separate : Separate CachePart, separate.Agrees CachePart.Holds start →
    ∃ after : Separate CachePart,
      (workload permissions tokens).Replays part separate trace after threads ∧
        after.Agrees CachePart.Holds site
  /-- All comes to the same as if the rules and each session had a cache of their own. -/
  owners : ∀ separate : Separate CacheOwner, separate.Agrees CacheOwner.Holds start →
    ∃ after : Separate CacheOwner,
      (workload permissions tokens).Replays owner separate trace after threads ∧
        after.Agrees CacheOwner.Holds site
  /-- Nothing that is set, deleted or dropped shows under a key of another owner. -/
  unseen : ∀ event ∈ trace, ∀ number user, event.act = .takes number user →
    ∀ key, ¬ user.owner.Holds key →
      TtlCache.ShowsSame key event.before.clock event.before.cache event.after.cache

/-- However lookups, write backs and invalidations of the rules and the recording and ending
of sessions are interleaved over one cache, none of them is told from what it would come to
over a cache of its own. -/
theorem shares_cache {start site : Site} {trace : Trace CacheUser}
    {threads : List (workload permissions tokens).Thread}
    (run : (workload permissions tokens).Run start trace site threads) :
    Shares permissions tokens start trace site threads where
  sessions _ _ _ _ := Session.key_inj
  rules := Session.key_ne_cacheKey
  parts _ agrees := run.replays divides_parts agrees
  owners _ agrees := run.replays divides_owners agrees
  unseen _ member _ _ step := (run.spares divides_owners member step).shown

/-! ## Rules and a session that outlives them -/

/-- Lookups whose maps count for ten seconds. -/
def briefly : Permissions := ⟨.ofSeconds 10, .ofSeconds 2, false⟩

/-- A service that tracks sessions. -/
def tracking : TokenService :=
  { TokenService.ofSigner (TokenCodec.signer ⟨[], 0⟩) with sessions := ⟨true⟩ }

/-- Nothing is in the cache. -/
def vacant : Site := .initial 0 ⟨0, 0⟩ [] [] []

/-- The claims of a session. -/
def visitor : Claims := .refresh (.ofTime .account 0 0) (.ofTime .session 0 1) ⟨0, 0⟩

/-- A session is recorded, the map of the rules is taken out of the cache, and the session
is ended. -/
theorem run_visited : ∃ trace site threads,
    (workload briefly tracking).Run vacant trace site threads ∧
      (workload briefly tracking).Answered threads 2 (.consume visitor) (.ok ()) := by
  have admitted : (workload briefly tracking).admits
      (.record visitor.subject visitor.session (.ofSeconds 60)) vacant vacant := rfl
  have first := Workload.Run.begins .start _ admitted
  have recorded := first.settle 0 rfl
  have second := recorded.begins (.rules .invalidate) rfl
  have invalidated := second.settle 1 rfl
  have third := invalidated.begins (.consume visitor) rfl
  have ended := third.settle 2 rfl
  exact ⟨_, _, _, ended, by rfl⟩

/-- Over caches that are empty at first, the session is ended as over the one cache. -/
theorem shares_cache_of_visited : ∃ trace site threads,
    (workload briefly tracking).Run vacant trace site threads ∧
      (workload briefly tracking).Answered threads 2 (.consume visitor) (.ok ()) ∧
        Separate.Agrees CachePart.Holds vacant ⟨vacant, fun _ => .empty⟩ ∧
          Separate.Agrees CacheOwner.Holds vacant ⟨vacant, fun _ => .empty⟩ ∧
            Shares briefly tracking vacant trace site threads := by
  obtain ⟨trace, site, threads, run, answered⟩ := run_visited
  exact ⟨trace, site, threads, run, answered, fun _ => ⟨rfl, fun _ _ => .refl _ _ _⟩,
    fun _ => ⟨rfl, fun _ _ => .refl _ _ _⟩, shares_cache run⟩

end CacheUser

end Gatehouse
