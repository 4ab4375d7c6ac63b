import Gatehouse.Guard
import Gatehouse.Proofs.Permissions.Failures

/-!
# Guarded calls whose lookup fails

A guarded call looks the rules up once. What it does ahead of its lookup and what it does
behind it are routines of their own, and the policy for failed lookups decides on the
second only where the lookup has come to a fault. This holds for whatever states the steps
of the call find, so that nothing is assumed of what happens between two of them.
-/

namespace Gatehouse

namespace Guard

variable (guard : Guard) (context : CallContext) (payload : Json) (handler : Handler)

/-- The guard with another policy for failed lookups. -/
def withPolicy (policy : LookupFailurePolicy) : Guard := { guard with onLookupFailure := policy }

/-- The refusal of a call for which the rules cannot be had. -/
def unavailable (fault : StoreFault) : Status :=
  ⟨.unavailable, "permission rules unavailable: " ++ fault.message⟩

/-! ## A call around its lookup -/

/-- The rule that a procedure is taken to have when its lookup has come to an outcome. -/
def ruled (procedure : String) (found : Except StoreFault RuleMap) : Except Status (Option Rule) :=
  match found, guard.onLookupFailure with
  | .ok map, _ => .ok (map.get? procedure)
  | .error _, .failOpen => .ok none
  | .error fault, .failClosed => .error (unavailable fault)

/-- Decide on a call by its rule. -/
def judge : Except Status (Option Rule) → Routine Site (Except Status (Option Rule))
  | .error status => .done (.error status)
  | .ok none => .done (.ok none)
  | .ok (some rule) =>
      if rule.requireAuth then
        (guard.authenticate context).toRoutine.bind fun passed =>
          .done (passed.map fun _ => some rule)
      else .done (.ok (some rule))

/-- Record a call with its result, if calls are recorded. -/
def close (result : CallResult) : Routine Site CallResult :=
  if guard.audits then (record context payload result).bind fun _ => .done result
  else .done result

/-- What a call does ahead of its lookup: carry it out, if that comes first. -/
def ahead : Routine Site (Option CallResult) :=
  match guard.order with
  | .executeThenAuthorize =>
      (handler context payload).toRoutine.bind fun handled => .done (some handled)
  | .authorizeThenExecute => .done none

/-- What a call does behind its lookup: decide, carry it out unless that came first, and
record it. -/
def behind (found : Except StoreFault RuleMap) (handled? : Option CallResult) :
    Routine Site CallResult :=
  (guard.judge context (guard.ruled context.procedure found)).bind fun judged =>
    match judged, handled? with
    | .error status, _ => guard.close context payload (.error status)
    | .ok rule, some handled => guard.close context payload (guard.finish context rule handled)
    | .ok rule, none => (handler context payload).toRoutine.bind fun handled =>
        guard.close context payload (guard.finish context rule handled)

theorem ruleFor_eq (procedure : String) : (guard.ruleFor procedure).toRoutine =
    guard.permissions.tryGetAll.toRoutine.bind fun found =>
      .done (guard.ruled procedure found) := by
  rw [ruleFor]
  cases policy : guard.onLookupFailure with
  | failOpen =>
      have looked : guard.permissions.lookup procedure =
          guard.permissions.tryGetAll.toRoutine.bind fun found =>
            .done ((found.toOption.getD .empty).get? procedure) :=
        Lookup.program_eq guard.permissions (.rule procedure)
      change (guard.permissions.lookup procedure).bind (fun rule => .done (Except.ok rule)) = _
      rw [looked, Routine.bind_assoc]
      apply congrArg
      funext found
      cases found with
      | ok map => rfl
      | error fault =>
          simp only [ruled, policy]
          rfl
  | failClosed =>
      change (guard.permissions.tryGetAll.toRoutine.bind fun found =>
        .done (found.mapError unavailable)).bind (ExceptT.bindCont _) = _
      rw [Routine.bind_assoc]
      apply congrArg
      funext found
      cases found with
      | ok map => rfl
      | error fault =>
          simp only [ruled, policy]
          rfl

theorem authorize_eq : (guard.authorize context).toRoutine =
    guard.permissions.tryGetAll.toRoutine.bind fun found =>
      guard.judge context (guard.ruled context.procedure found) := by
  have looked : (guard.authorize context).toRoutine =
      (guard.ruleFor context.procedure).toRoutine.bind (guard.judge context) := by
    change (guard.ruleFor context.procedure).toRoutine.bind (ExceptT.bindCont _) = _
    apply congrArg
    funext ruled
    rcases ruled with status | (_ | rule)
    · rfl
    · rfl
    · simp only [ExceptT.bindCont, judge]
      cases rule.requireAuth with
      | false => rfl
      | true =>
          change (guard.authenticate context).toRoutine.bind (ExceptT.bindCont _) = _
          apply congrArg
          funext passed
          cases passed <;> rfl
  rw [looked, ruleFor_eq, Routine.bind_assoc]
  rfl

/-- A guarded call looks the rules up between what it does ahead and what it does behind. -/
theorem intercept_eq : guard.intercept context payload handler =
    (guard.ahead context payload handler).bind fun handled? =>
      guard.permissions.tryGetAll.toRoutine.bind fun found =>
        guard.behind context payload handler found handled? := by
  have closed : guard.intercept context payload handler =
      (guard.decide context payload handler).bind (guard.close context payload) := by
    rw [intercept]
    apply congrArg
    funext result
    rw [close]
    split <;> rfl
  rw [closed, decide, ahead]
  cases guard.order with
  | executeThenAuthorize =>
      simp only [Routine.bind_eq, Routine.pure_eq_done, Routine.bind_assoc]
      apply congrArg
      funext handled
      rw [authorize_eq, Routine.bind_assoc]
      apply congrArg
      funext found
      rw [behind]
      apply congrArg
      funext judged
      cases judged <;> rfl
  | authorizeThenExecute =>
      simp only [Routine.bind_eq, Routine.pure_eq_done, Routine.bind_assoc]
      rw [authorize_eq, Routine.bind_assoc]
      apply congrArg
      funext found
      rw [behind]
      apply congrArg
      funext judged
      cases judged with
      | error status => rfl
      | ok rule =>
          simp only [Routine.bind_assoc]
          rfl

variable {guard context payload handler} {early look late states : List Site}
  {found : Except StoreFault RuleMap} {fault : StoreFault} {result : CallResult}

theorem comesTo_close_iff {recorded : CallResult} :
    (guard.close context payload recorded).ComesTo states result ↔
      states.length = (if guard.audits then 1 else 0) ∧ result = recorded := by
  rw [close]
  cases guard.audits with
  | false =>
      simp only [Bool.false_eq_true, if_false, List.length_eq_zero_iff]
      exact Routine.comesTo_done_iff
  | true =>
      simp only [if_true, List.length_eq_one_iff]
      constructor
      · intro comes
        cases comes with
        | step _ rest =>
            obtain ⟨rfl, rfl⟩ := Routine.comesTo_done_iff.mp rest
            exact ⟨⟨_, rfl⟩, rfl⟩
      · rintro ⟨⟨site, rfl⟩, rfl⟩
        exact .step rfl (.done _)

/-- A call is carried out and recorded, and nothing else. -/
theorem comesTo_handler_close_iff :
    ((handler context payload).toRoutine.bind (guard.close context payload)).ComesTo states
        result ↔
      ∃ handling closing, states = handling ++ closing ∧
        (handler context payload).toRoutine.ComesTo handling result ∧
          closing.length = (if guard.audits then 1 else 0) := by
  rw [Routine.comesTo_bind_iff]
  constructor
  · rintro ⟨handling, closing, handled, rfl, comes, closes⟩
    obtain ⟨length, rfl⟩ := comesTo_close_iff.mp closes
    exact ⟨handling, closing, rfl, comes, length⟩
  · rintro ⟨handling, closing, rfl, comes, length⟩
    exact ⟨handling, closing, result, rfl, comes, comesTo_close_iff.mpr ⟨length, rfl⟩⟩

variable (guard context payload handler)

/-- In these states a call gets to its lookup and has its outcome. -/
structure LooksUp (early look : List Site) (found : Except StoreFault RuleMap) : Prop where
  ahead : ∃ handled?, (guard.ahead context payload handler).ComesTo early handled?
  lookup : guard.permissions.tryGetAll.toRoutine.ComesTo look found

/-- A call presents a credential that counts at the time of day of one of these states, for
a role that the grants of the next one give the procedure to. -/
def Vouched (states : List Site) : Prop :=
  ∃ front checking granting back token claims, states = front ++ checking :: granting :: back ∧
    Credential.ofHeaders context.headers = .ok token ∧
      guard.tokens.signer.verify checking.wall.seconds token = .ok claims ∧
        granting.grants.enforce claims.role.name context.procedure = true

variable {guard context payload handler}

/-- What a call comes to is what it does behind its lookup. -/
theorem LooksUp.comesTo_intercept
    (looksUp : guard.LooksUp context payload handler early look found) :
    ∃ handled?, (guard.ahead context payload handler).ComesTo early handled? ∧
      ∀ (policy : LookupFailurePolicy) (late : List Site) (result : CallResult),
        ((guard.withPolicy policy).intercept context payload handler).ComesTo
            (early ++ (look ++ late)) result ↔
          ((guard.withPolicy policy).behind context payload handler found handled?).ComesTo late
            result := by
  obtain ⟨⟨handled?, ahead⟩, lookup⟩ := looksUp
  refine ⟨handled?, ahead, fun policy late result => ?_⟩
  have front : ((guard.withPolicy policy).ahead context payload handler).ComesTo early handled? :=
    ahead
  have middle : (guard.withPolicy policy).permissions.tryGetAll.toRoutine.ComesTo look found :=
    lookup
  rw [intercept_eq, Routine.comesTo_append_iff front, Routine.comesTo_append_iff middle]

/-- Every call that has come to a result has looked the rules up on its way. -/
theorem looksUp_of_comesTo
    (comes : (guard.intercept context payload handler).ComesTo states result) :
    ∃ early look late found, states = early ++ (look ++ late) ∧
      guard.LooksUp context payload handler early look found := by
  rw [intercept_eq] at comes
  obtain ⟨early, _, handled?, rfl, ahead, comes⟩ := Routine.comesTo_bind_iff.mp comes
  obtain ⟨look, late, found, rfl, lookup, -⟩ := Routine.comesTo_bind_iff.mp comes
  exact ⟨early, look, late, found, rfl, ⟨handled?, ahead⟩, lookup⟩

/-! ## The two policies -/

/-- Where a map is obtained, the policies agree on what a call comes to. -/
theorem LooksUp.agrees {map : RuleMap}
    (looksUp : guard.LooksUp context payload handler early look (.ok map))
    (policy other : LookupFailurePolicy) :
    ((guard.withPolicy policy).intercept context payload handler).ComesTo
        (early ++ (look ++ late)) result ↔
      ((guard.withPolicy other).intercept context payload handler).ComesTo
        (early ++ (look ++ late)) result := by
  obtain ⟨handled?, -, comes⟩ := looksUp.comesTo_intercept
  rw [comes, comes]
  rfl

/-- Where no map is obtained, one policy lets every call through: it comes to what its
handler comes to. -/
theorem LooksUp.opens (looksUp : guard.LooksUp context payload handler early look (.error fault)) :
    ((guard.withPolicy .failOpen).intercept context payload handler).ComesTo
        (early ++ (look ++ late)) result ↔
      ∃ handling closing, early ++ late = handling ++ closing ∧
        (handler context payload).toRoutine.ComesTo handling result ∧
          closing.length = if guard.audits then 1 else 0 := by
  obtain ⟨handled?, front, comes⟩ := looksUp.comesTo_intercept
  rw [comes, ← comesTo_handler_close_iff]
  rw [Guard.ahead] at front
  -- The handler has been carried out ahead of the lookup, or it is all that is left to do.
  cases order : guard.order with
  | executeThenAuthorize =>
      rw [order] at front
      obtain ⟨handling, _, handled, rfl, handles, ends⟩ := Routine.comesTo_bind_iff.mp front
      obtain ⟨rfl, rfl⟩ := Routine.comesTo_done_iff.mp ends
      rw [List.append_nil, Routine.comesTo_append_iff handles]
      rfl
  | authorizeThenExecute =>
      rw [order] at front
      obtain ⟨rfl, rfl⟩ := Routine.comesTo_done_iff.mp front
      rfl

/-- Where no map is obtained, the other policy refuses every call. -/
theorem LooksUp.closes
    (looksUp : guard.LooksUp context payload handler early look (.error fault)) :
    ((guard.withPolicy .failClosed).intercept context payload handler).ComesTo
        (early ++ (look ++ late)) result ↔
      late.length = (if guard.audits then 1 else 0) ∧ result = .error (unavailable fault) := by
  obtain ⟨handled?, -, comes⟩ := looksUp.comesTo_intercept
  rw [comes]
  exact comesTo_close_iff

/-! ## Who is let through -/

/-- A call passes the check of its credential if one that counts and is granted is presented. -/
theorem vouched_of_authenticate (gives : (guard.authenticate context).Gives states ()) :
    guard.Vouched context states := by
  obtain ⟨_, _, token, rfl, presents, gives⟩ := Task.gives_bind_iff.mp gives
  obtain ⟨_, _, claims, rfl, decodes, gives⟩ := Task.gives_bind_iff.mp gives
  obtain ⟨_, _, current, rfl, looks, decides⟩ := Task.gives_bind_iff.mp gives
  obtain ⟨rfl, presented⟩ := Task.gives_known_iff.mp presents
  obtain ⟨checking, rfl, verified⟩ := Task.gives_observe_iff.mp (Task.gives_mapFault_iff.mp decodes)
  obtain ⟨granting, rfl, rfl⟩ := Routine.comesTo_observe_iff.mp (Task.gives_lift_iff.mp looks)
  split at decides
  · next granted =>
      obtain ⟨rfl, -⟩ := Task.gives_pure_iff.mp decides
      exact ⟨[], checking, granting, [], token, claims, rfl, Task.mapError_eq_ok_iff.mp
        presented, verified, granted⟩
  · exact absurd decides Task.not_gives_throw

theorem Vouched.within {front back : List Site} (vouched : guard.Vouched context states) :
    guard.Vouched context (front ++ (states ++ back)) := by
  obtain ⟨before, checking, granting, after, token, claims, rfl, presented, verified, granted⟩ :=
    vouched
  refine ⟨front ++ before, checking, granting, after ++ back, token, claims, ?_, presented,
    verified, granted⟩
  simp only [List.append_assoc, List.cons_append]

/-- A call passes its rule if it is vouched for, or if the rule does not ask for that. -/
theorem vouched_or_unasked_of_judge {rule? passed : Option Rule}
    (judges : (guard.judge context (.ok rule?)).ComesTo states (.ok passed)) :
    guard.Vouched context states ∨ ∀ rule, rule? = some rule → rule.requireAuth = false := by
  cases rule? with
  | none => exact .inr fun rule same => by contradiction
  | some rule =>
      rw [judge] at judges
      split at judges
      · left
        obtain ⟨checks, _, outcome, rfl, authenticates, ends⟩ :=
          Routine.comesTo_bind_iff.mp judges
        obtain ⟨rfl, same⟩ := Routine.comesTo_done_iff.mp ends
        rw [List.append_nil]
        cases outcome with
        | error status => injection same
        | ok _ => exact vouched_of_authenticate authenticates
      · next unasked =>
          right
          intro other same
          rw [← Option.some.inj same]
          exact Bool.eq_false_iff.mpr unasked

/-- Behind its lookup a call comes to a response only if it has passed its rule. -/
theorem passed_of_behind {handled? : Option CallResult} {response : Json}
    (comes : (guard.behind context payload handler found handled?).ComesTo late (.ok response)) :
    ∃ judging rest passed, late = judging ++ rest ∧
      (guard.judge context (guard.ruled context.procedure found)).ComesTo judging (.ok passed) := by
  obtain ⟨judging, rest, judged, rfl, judges, ends⟩ := Routine.comesTo_bind_iff.mp comes
  cases judged with
  | error status =>
      have refused := (comesTo_close_iff.mp ends).2
      injection refused
  | ok passed => exact ⟨judging, rest, passed, rfl, judges⟩

/-- Where the rules have to be had, a call is answered with a response only if it presents a
credential that counts and is granted, or if a map is obtained in which no rule of its
procedure asks for one. -/
theorem vouched_or_unasked {response : Json}
    (comes : ((guard.withPolicy .failClosed).intercept context payload handler).ComesTo states
      (.ok response)) :
    guard.Vouched context states ∨ ∃ early look late map, states = early ++ (look ++ late) ∧
      guard.LooksUp context payload handler early look (.ok map) ∧
        ∀ rule, map.get? context.procedure = some rule → rule.requireAuth = false := by
  obtain ⟨early, look, late, found, rfl, ⟨ahead, lookup⟩⟩ := looksUp_of_comesTo comes
  have looksUp : guard.LooksUp context payload handler early look found := ⟨ahead, lookup⟩
  cases found with
  | error fault =>
      have refused := (looksUp.closes.mp comes).2
      injection refused
  | ok map =>
      obtain ⟨handled?, -, goesOn⟩ := looksUp.comesTo_intercept
      obtain ⟨judging, rest, passed, rfl, judges⟩ :=
        passed_of_behind ((goesOn .failClosed late _).mp comes)
      rcases vouched_or_unasked_of_judge judges with vouched | unasked
      · left
        have seen : guard.Vouched context judging := vouched
        rw [← List.append_assoc]
        exact seen.within
      · exact .inr ⟨early, look, judging ++ rest, map, rfl, looksUp, unasked⟩

/-! ## Lookups and guarded calls together -/

/-- How lookups and guarded calls bear the faults of the cache and of the store of the rules,
in a run of lookups that goes by the trace. -/
structure BearsFaults (guard : Guard) (trace : Trace PermissionCall)
    (threads : List guard.permissions.openWorkload.Thread) : Prop where
  /-- An answered lookup shows what it was served by the cache, or else by a load. -/
  fetched : ∀ number lookup answer,
    guard.permissions.openWorkload.Answered threads number (.look lookup) answer →
      ∃ outcome, Fetched guard.permissions trace number outcome ∧ answer = lookup.shown outcome
  /-- A lookup that has failed got no map from the cache, and the query of its load failed. -/
  failed : ∀ number fault,
    guard.permissions.openWorkload.Answered threads number (.look .tryAll) (.error fault) →
      trace.Fails guard.permissions number fault
  /-- A look into the cache comes to the map that the cache answers with the text of; an
  answer that is late or a fault, that is nothing or another text, is no map. -/
  looked : ∀ looks found?, guard.permissions.readCached.ComesTo looks found? ↔
    ∃ asking answering, looks = [asking, answering] ∧
      asking.clock + min (asking.conditions .cacheGet).delay.nanos
          guard.permissions.timeout.nanos ≤ answering.clock ∧
        found? = Permissions.yielded? (guard.permissions.cacheAnswer asking answering)
  /-- A lookup ends with the map that the cache yields. -/
  hit : ∀ looks map rest outcome, guard.permissions.readCached.ComesTo looks (some map) →
    (guard.permissions.tryGetAll.toRoutine.ComesTo (looks ++ rest) outcome ↔
      rest = [] ∧ outcome = .ok map)
  /-- A lookup goes on alike whatever the cache does instead of yielding a map. -/
  missed : ∀ faulty empty rest outcome, guard.permissions.readCached.ComesTo faulty none →
    guard.permissions.readCached.ComesTo empty none →
      (guard.permissions.tryGetAll.toRoutine.ComesTo (faulty ++ rest) outcome ↔
        guard.permissions.tryGetAll.toRoutine.ComesTo (empty ++ rest) outcome)
  /-- Every call that has come to a result has looked the rules up. -/
  looksUp : ∀ policy context payload handler states result,
    ((guard.withPolicy policy).intercept context payload handler).ComesTo states result →
      ∃ early look late found, states = early ++ (look ++ late) ∧
        guard.LooksUp context payload handler early look found
  /-- The policies agree where a map is obtained. -/
  agrees : ∀ context payload handler early look late map result,
    guard.LooksUp context payload handler early look (.ok map) →
      (((guard.withPolicy .failOpen).intercept context payload handler).ComesTo
          (early ++ (look ++ late)) result ↔
        ((guard.withPolicy .failClosed).intercept context payload handler).ComesTo
          (early ++ (look ++ late)) result)
  /-- Where none is obtained, the one policy gives what the handler gives. -/
  opens : ∀ context payload handler early look late fault result,
    guard.LooksUp context payload handler early look (.error fault) →
      (((guard.withPolicy .failOpen).intercept context payload handler).ComesTo
          (early ++ (look ++ late)) result ↔
        ∃ handling closing, early ++ late = handling ++ closing ∧
          (handler context payload).toRoutine.ComesTo handling result ∧
            closing.length = if guard.audits then 1 else 0)
  /-- Where none is obtained, the other policy refuses, whatever the procedure. -/
  closes : ∀ context payload handler early look late fault result,
    guard.LooksUp context payload handler early look (.error fault) →
      (((guard.withPolicy .failClosed).intercept context payload handler).ComesTo
          (early ++ (look ++ late)) result ↔
        late.length = (if guard.audits then 1 else 0) ∧ result = .error (unavailable fault))
  /-- A call with a response that nobody vouches for had a map without a rule against it. -/
  unasked : ∀ context payload handler states response,
    ((guard.withPolicy .failClosed).intercept context payload handler).ComesTo states
        (.ok response) →
      ¬ guard.Vouched context states →
        ∃ early look late map, states = early ++ (look ++ late) ∧
          guard.LooksUp context payload handler early look (.ok map) ∧
            ∀ rule, map.get? context.procedure = some rule → rule.requireAuth = false

/-- Faults of the cache are as good as misses, and faults of the store are passed on; one
policy lets calls through where no map is obtained, and the other one never does. -/
theorem bears_faults {start site : Site} {trace : Trace PermissionCall}
    {threads : List guard.permissions.openWorkload.Thread} (idle : start.flight.IsIdle)
    (run : guard.permissions.openWorkload.Run start trace site threads) :
    guard.BearsFaults trace threads where
  fetched _ _ _ answered := Permissions.fetched_of_answered idle run answered
  failed number fault answered := by
    obtain ⟨outcome, fetched, shown⟩ := Permissions.fetched_of_answered idle run answered
    have same : outcome = .error fault := shown.symm
    subst same
    cases fetched with
    | missed misses obtains => exact obtains.fails misses
  looked _ _ := Permissions.comesTo_readCached_iff
  hit _ _ _ _ hit := Permissions.comesTo_tryGetAll_of_hit hit
  missed _ _ _ _ fault empty := by
    rw [Permissions.comesTo_tryGetAll_of_miss fault, Permissions.comesTo_tryGetAll_of_miss empty]
  looksUp _ _ _ _ _ _ comes := by
    obtain ⟨early, look, late, found, split, ⟨ahead, lookup⟩⟩ := looksUp_of_comesTo comes
    exact ⟨early, look, late, found, split, ahead, lookup⟩
  agrees _ _ _ _ _ _ _ _ looksUp := looksUp.agrees .failOpen .failClosed
  opens _ _ _ _ _ _ _ _ looksUp := looksUp.opens
  closes _ _ _ _ _ _ _ _ looksUp := looksUp.closes
  unasked _ _ _ _ _ comes unvouched := (vouched_or_unasked comes).resolve_left unvouched

/-! ## A store that is down -/

/-- A guard whose lookups share their loads. -/
def sharing : Guard where
  permissions := ⟨.ofSeconds 60, .ofSeconds 2, true⟩
  tokens := .ofSigner (TokenCodec.signer ⟨[], 0⟩)
  transform := passthrough
  audits := false
  order := .authorizeThenExecute
  onLookupFailure := .failClosed

/-- A state in which the cache is empty and the store of the rules is down. -/
def bereft : Site :=
  (Site.initial 0 ⟨0, 0⟩ [] [] []).setCondition .rules ⟨⟨0⟩, some (.store "down")⟩

theorem settle_bereft : ∃ after,
    (sharing.permissions.openWorkload.program (.look .tryAll)).settle bereft =
      (.done (.error (.store "down")), after) := ⟨_, rfl⟩

/-- Whatever the call, its lookup fails with what the store says. -/
theorem looksUp_bereft (context : CallContext) (payload : Json) (handler : Handler) :
    ∃ look, sharing.LooksUp context payload handler [] look (.error (.store "down")) := by
  obtain ⟨after, settled⟩ := settle_bereft
  exact ⟨_, ⟨none, .done none⟩,
    @Routine.comesTo_of_settle PermissionCall _ 0 (.look .tryAll) _ _ _ _ settled⟩

/-- A lookup fails with what the store says, and so does that of any guarded call. -/
theorem bears_faults_of_bereft : bereft.flight.IsIdle ∧ ∃ trace site threads,
    sharing.permissions.openWorkload.Run bereft trace site threads ∧
      sharing.permissions.openWorkload.Answered threads 0 (.look .tryAll)
        (.error (.store "down")) ∧
          (∀ context payload handler,
            ∃ look, sharing.LooksUp context payload handler [] look (.error (.store "down"))) ∧
              sharing.BearsFaults trace threads := by
  have idle : bereft.flight.IsIdle := ⟨rfl, by simp [bereft, Site.setCondition, Site.initial]⟩
  obtain ⟨after, settled⟩ := settle_bereft
  have begun : sharing.permissions.openWorkload.Run bereft _ bereft _ :=
    .begins .start (.look .tryAll) rfl
  have ended := begun.settle_answered 0 rfl settled
  exact ⟨idle, _, _, _, ended, rfl, looksUp_bereft, bears_faults idle ended⟩

end Guard

end Gatehouse
