import Gatehouse.Proofs.Guard.Decision
import Gatehouse.Proofs.Guard.Failures
import Gatehouse.Proofs.Token.Audience
import Gatehouse.Proofs.Token.Presented

/-!
# Calls without a role

A credential that names no role opens no procedure whose rule asks for a credential. The
grants do not enter into it, not even where they hold tuples without a role, and neither
does what the handler has done. Which of two refusals a call meets with depends on whether
the credential counts when it is checked.
-/

namespace Gatehouse

/-- The role without a name may invoke nothing, even where there is a tuple for it. -/
theorem Grants.enforce_unnamed (grants : Grants) (procedure : String) :
    grants.enforce "" procedure = false := rfl

namespace Guard

variable {guard : Guard} {codec : TokenCodec} {token : String} {context : CallContext}
  {payload : Json} {handler : Handler} {rule : Rule} {early look late states : List Site}
  {map : RuleMap} {result : CallResult}

/-! ## What a credential without a role comes to -/

/-- How a call is refused behind its lookup, its steps finding these states: it checks its
credential, looks at the grants if the credential counts, and is recorded. -/
inductive Refuses (guard : Guard) (token : String) : List Site → CallResult → Prop where
  | denied {checking granting : Site} {closing : List Site} {claims : Claims}
      (counts : guard.tokens.signer.verify checking.wall.seconds token = .ok claims)
      (recorded : closing.length = if guard.audits then 1 else 0) :
      Refuses guard token (checking :: granting :: closing) (.error ⟨.permissionDenied, denied⟩)
  | invalid {checking : Site} {closing : List Site} {reason : String}
      (refused : guard.tokens.signer.verify checking.wall.seconds token =
        .error (.invalidToken reason))
      (recorded : closing.length = if guard.audits then 1 else 0) :
      Refuses guard token (checking :: closing) (.error ⟨.invalidArgument, reason⟩)

/-- No refusal is a response. -/
theorem Refuses.not_ok {response : Json} : ¬ guard.Refuses token states (.ok response) := nofun

/-- A call that presents a credential checks it, and looks at the grants if it counts. -/
theorem authenticate_eq (presented : Credential.ofHeaders context.headers = .ok token) :
    (guard.authenticate context).toRoutine =
      (guard.tokens.decode token).toRoutine.bind fun outcome => match outcome with
        | .error fault => .done (.error fault.toStatus)
        | .ok claims => PolicyEngine.snapshot.bind fun current =>
            .done (if current.grants.enforce claims.role.name context.procedure then .ok ()
              else .error ⟨.permissionDenied, denied⟩) := by
  rw [authenticate, presented]
  change ((guard.tokens.decode token).toRoutine.bind fun outcome =>
    .done (outcome.mapError AuthFault.toStatus)).bind (ExceptT.bindCont _) = _
  rw [Routine.bind_assoc]
  apply congrArg
  funext outcome
  cases outcome with
  | error fault => rfl
  | ok claims =>
      change (PolicyEngine.snapshot.bind fun current => .done (Except.ok current)).bind
        (ExceptT.bindCont _) = _
      rw [Routine.bind_assoc]
      apply congrArg
      funext current
      simp only [Routine.bind, ExceptT.bindCont]
      split <;> rfl

/-- What the check of a credential comes to that names no role whenever it counts. -/
theorem comesTo_authenticate_iff {passed : Except Status Unit}
    (presented : Credential.ofHeaders context.headers = .ok token)
    (unnamed : ∀ now claims, guard.tokens.signer.verify now token = .ok claims →
      claims.role.name = "") :
    (guard.authenticate context).toRoutine.ComesTo states passed ↔
      (∃ checking fault, states = [checking] ∧
        guard.tokens.signer.verify checking.wall.seconds token = .error fault ∧
          passed = .error fault.toStatus) ∨
      ∃ checking granting claims, states = [checking, granting] ∧
        guard.tokens.signer.verify checking.wall.seconds token = .ok claims ∧
          passed = .error ⟨.permissionDenied, denied⟩ := by
  rw [authenticate_eq presented, Routine.comesTo_bind_iff]
  constructor
  · rintro ⟨_, _, outcome, rfl, decodes, ends⟩
    obtain ⟨checking, rfl, rfl⟩ := Routine.comesTo_observe_iff.mp decodes
    cases verified : guard.tokens.signer.verify checking.wall.seconds token with
    | error fault =>
        rw [verified] at ends
        obtain ⟨rfl, rfl⟩ := Routine.comesTo_done_iff.mp ends
        exact .inl ⟨checking, fault, rfl, verified, rfl⟩
    | ok claims =>
        rw [verified] at ends
        obtain ⟨_, _, current, rfl, looks, ends⟩ := Routine.comesTo_bind_iff.mp ends
        obtain ⟨granting, rfl, rfl⟩ := Routine.comesTo_observe_iff.mp looks
        obtain ⟨rfl, rfl⟩ := Routine.comesTo_done_iff.mp ends
        -- Whatever grants were found there, the name that they were asked for is empty.
        rw [unnamed _ claims verified, Grants.enforce_unnamed]
        exact .inr ⟨checking, granting, claims, rfl, verified, rfl⟩
  · rintro (⟨checking, fault, rfl, verified, rfl⟩ |
      ⟨checking, granting, claims, rfl, verified, rfl⟩)
    · refine ⟨[checking], [], .error fault, rfl, ?_, .done _⟩
      exact Routine.comesTo_observe_iff.mpr ⟨checking, rfl, verified.symm⟩
    · refine ⟨[checking], [granting], .ok claims, rfl, ?_, ?_⟩
      · exact Routine.comesTo_observe_iff.mpr ⟨checking, rfl, verified.symm⟩
      · refine Routine.comesTo_bind_iff.mpr ⟨[granting], [], _, rfl,
          Routine.comesTo_observe_iff.mpr ⟨granting, rfl, rfl⟩, ?_⟩
        rw [unnamed _ claims verified, Grants.enforce_unnamed]
        exact .done _

/-- Behind its lookup a call whose rule asks for a credential goes on with the check of it, and
what is left is to record a refusal. -/
theorem behind_eq (ruled : map.get? context.procedure = some rule)
    (guarded : rule.requireAuth = true) (handled? : Option CallResult) :
    ∃ rest, guard.behind context payload handler (.ok map) handled? =
        (guard.authenticate context).toRoutine.bind rest ∧
      ∀ status, rest (.error status) = guard.close context payload (.error status) := by
  have judged : guard.judge context (guard.ruled context.procedure (.ok map)) =
      (guard.authenticate context).toRoutine.bind fun passed =>
        .done (passed.map fun _ => some rule) := by
    rw [Guard.ruled, ruled, judge, if_pos guarded]
  rw [behind, judged, Routine.bind_assoc]
  exact ⟨_, rfl, fun _ => rfl⟩

/-- Behind its lookup a call comes to a refusal and to nothing else. -/
theorem comesTo_behind_iff_refuses (signs : guard.tokens.signer = codec.signer)
    (roleless : codec.IsRoleless token)
    (presented : Credential.ofHeaders context.headers = .ok token)
    (ruled : map.get? context.procedure = some rule) (guarded : rule.requireAuth = true)
    {handled? : Option CallResult} :
    (guard.behind context payload handler (.ok map) handled?).ComesTo late result ↔
      guard.Refuses token late result := by
  have unnamed : ∀ now claims, guard.tokens.signer.verify now token = .ok claims →
      claims.role.name = "" := by
    intro now claims verified
    rw [signs] at verified
    exact (roleless.of_verify verified).name
  obtain ⟨rest, goesOn, closes⟩ :=
    @behind_eq guard context payload handler rule map ruled guarded handled?
  rw [goesOn, Routine.comesTo_bind_iff]
  constructor
  · rintro ⟨checks, closing, passed, rfl, authenticates, ends⟩
    rcases (comesTo_authenticate_iff presented unnamed).mp authenticates with
      ⟨checking, fault, rfl, refused, rfl⟩ | ⟨checking, granting, claims, rfl, counts, rfl⟩
    · rw [closes] at ends
      obtain ⟨recorded, rfl⟩ := comesTo_close_iff.mp ends
      obtain ⟨reason, rfl⟩ := TokenCodec.invalid_of_verify signs refused
      exact .invalid refused recorded
    · rw [closes] at ends
      obtain ⟨recorded, rfl⟩ := comesTo_close_iff.mp ends
      exact .denied counts recorded
  · intro refuses
    cases refuses with
    | @denied checking granting closing claims counts recorded =>
        refine ⟨[checking, granting], closing, _, rfl, (comesTo_authenticate_iff presented
          unnamed).mpr (.inr ⟨checking, granting, claims, rfl, counts, rfl⟩), ?_⟩
        rw [closes]
        exact comesTo_close_iff.mpr ⟨recorded, rfl⟩
    | @invalid checking closing reason refused recorded =>
        refine ⟨[checking], closing, _, rfl, (comesTo_authenticate_iff presented
          unnamed).mpr (.inl ⟨checking, _, rfl, refused, rfl⟩), ?_⟩
        rw [closes]
        exact comesTo_close_iff.mpr ⟨recorded, rfl⟩

/-- Whatever states the steps behind a lookup find, one of the refusals is what they come to. -/
theorem exists_refuses (signs : guard.tokens.signer = codec.signer) (checking granting : Site)
    {closing : List Site} (recorded : closing.length = if guard.audits then 1 else 0) :
    ∃ result, guard.Refuses token (checking :: granting :: closing) result ∨
      guard.Refuses token (checking :: closing) result := by
  cases verified : guard.tokens.signer.verify checking.wall.seconds token with
  | ok claims => exact ⟨_, .inl (.denied verified recorded)⟩
  | error fault =>
      obtain ⟨reason, rfl⟩ := TokenCodec.invalid_of_verify signs verified
      exact ⟨_, .inr (.invalid verified recorded)⟩

/-! ## What calls with such a credential come to -/

/-- A credential is of no use with a guard: no procedure whose rule, as a call has looked it
up, asks for a credential gives the call a response. -/
structure ShutsOut (guard : Guard) (token : String) : Prop where
  /-- Every call that has come to a result has looked the rules up. -/
  looksUp : ∀ context payload handler states result,
    (guard.intercept context payload handler).ComesTo states result →
      ∃ early look late found, states = early ++ (look ++ late) ∧
        guard.LooksUp context payload handler early look found
  /-- Whatever it finds behind its lookup, the call is refused, and only that. -/
  refused : ∀ context payload handler early look late map rule result,
    Credential.ofHeaders context.headers = .ok token →
      guard.LooksUp context payload handler early look (.ok map) →
        map.get? context.procedure = some rule → rule.requireAuth = true →
          ((guard.intercept context payload handler).ComesTo (early ++ (look ++ late)) result ↔
            guard.Refuses token late result)
  /-- No state that the call can find keeps it from its refusal. -/
  answered : ∀ context payload handler early look checking granting closing map rule,
    Credential.ofHeaders context.headers = .ok token →
      guard.LooksUp context payload handler early look (.ok map) →
        map.get? context.procedure = some rule → rule.requireAuth = true →
          closing.length = (if guard.audits then 1 else 0) →
            ∃ late result, (late = checking :: granting :: closing ∨ late = checking :: closing) ∧
              (guard.intercept context payload handler).ComesTo (early ++ (look ++ late)) result
  /-- A call with a response has fallen under no rule, or under one that asks for nothing. -/
  unasked : ∀ context payload handler states response,
    Credential.ofHeaders context.headers = .ok token →
      (guard.intercept context payload handler).ComesTo states (.ok response) →
        ∃ early look late found, states = early ++ (look ++ late) ∧
          guard.LooksUp context payload handler early look found ∧
            ∀ map rule, found = .ok map → map.get? context.procedure = some rule →
              rule.requireAuth = false

theorem LooksUp.refused (signs : guard.tokens.signer = codec.signer)
    (roleless : codec.IsRoleless token)
    (presented : Credential.ofHeaders context.headers = .ok token)
    (looksUp : guard.LooksUp context payload handler early look (.ok map))
    (ruled : map.get? context.procedure = some rule) (guarded : rule.requireAuth = true) :
    (guard.intercept context payload handler).ComesTo (early ++ (look ++ late)) result ↔
      guard.Refuses token late result := by
  obtain ⟨handled?, -, comes⟩ := looksUp.comesTo_intercept
  exact (comes guard.onLookupFailure late result).trans
    (comesTo_behind_iff_refuses signs roleless presented ruled guarded)

/-- Credentials that name no role are of no use, whoever has made them. -/
theorem shuts_out_roleless (signs : guard.tokens.signer = codec.signer)
    (roleless : codec.IsRoleless token) : guard.ShutsOut token where
  looksUp _ _ _ _ _ comes := looksUp_of_comesTo comes
  refused _ _ _ _ _ _ _ _ _ presented looksUp ruled guarded :=
    looksUp.refused signs roleless presented ruled guarded
  answered context payload handler early look checking granting closing map rule presented looksUp
      ruled guarded recorded := by
    have refused : ∀ late result, (guard.intercept context payload handler).ComesTo
        (early ++ (look ++ late)) result ↔ guard.Refuses token late result :=
      fun _ _ => looksUp.refused signs roleless presented ruled guarded
    obtain ⟨result, denied | invalid⟩ := exists_refuses signs checking granting recorded
    · exact ⟨_, result, .inl rfl, (refused _ _).mpr denied⟩
    · exact ⟨_, result, .inr rfl, (refused _ _).mpr invalid⟩
  unasked context payload handler states response presented comes := by
    obtain ⟨early, look, late, found, rfl, looksUp⟩ := looksUp_of_comesTo comes
    refine ⟨early, look, late, found, rfl, looksUp, ?_⟩
    rintro map rule rfl ruled
    refine Bool.eq_false_iff.mpr fun guarded => ?_
    exact ((looksUp.refused signs roleless presented ruled guarded).mp comes).not_ok

/-- A guard that runs handlers first and records calls. -/
def hasty : Guard := { sharing with order := .executeThenAuthorize, audits := true }

/-- A handler that grants the procedure to calls without a role. -/
def unlocking : Handler := fun context _ =>
  .ofRoutine ((Routine.change fun site =>
    { site with grants := site.grants.insert ⟨⟨""⟩, context.procedure⟩ }).bind fun _ =>
      .done (.ok .null))

/-- The credential of a renewal. -/
def renewed : String := (TokenService.issued 1).refreshToken

/-- A call that presents it. -/
def entering : CallContext := ⟨sampleRule.procedure, Credential.headers renewed, ⟨0, 0⟩⟩

/-- The state behind the handler: its tuple is among the grants. -/
def unlocked : Site := { sampleSite with grants := .ofTuples [⟨⟨""⟩, sampleRule.procedure⟩] }

theorem settle_unlocked : ∃ after,
    (hasty.permissions.openWorkload.program (.look .tryAll)).settle unlocked =
      (.done (.ok (.ofRules unlocked.rules.active)), after) := ⟨_, rfl⟩

theorem ruled_entering :
    (RuleMap.ofRules unlocked.rules.active).get? entering.procedure = some sampleRule := by
  have active : unlocked.rules.active = [sampleRule] := List.mergeSort_singleton sampleRule
  have inForce : sampleRule.isDeleted = false := rfl
  rw [active]
  simp [RuleMap.ofRules, inForce, entering]

theorem roleless_renewed : TokenCodec.IsRoleless ⟨[], 0⟩ renewed := by
  have comes : (TokenService.tracking.workload.program TokenService.renewing).ComesTo
      TokenService.foundByRenewal (.ok (TokenService.issued 1)) :=
    Routine.comesTo_of_settle TokenService.settle_renewing.1
  exact .issued rfl comes rfl

/-- The credential of a renewal is denied what its handler has just granted it. -/
theorem shuts_out_roleless_of_renewed : hasty.tokens.signer = TokenCodec.signer ⟨[], 0⟩ ∧
    TokenCodec.IsRoleless ⟨[], 0⟩ renewed ∧ hasty.ShutsOut renewed ∧
      unlocked.grants.contains ⟨⟨""⟩, entering.procedure⟩ = true ∧
        ∃ states, (hasty.intercept entering .null unlocking).ComesTo states
          (.error ⟨.permissionDenied, "Permission denied"⟩) := by
  have shut : hasty.ShutsOut renewed := shuts_out_roleless rfl roleless_renewed
  obtain ⟨after, settled⟩ := settle_unlocked
  have looksUp : hasty.LooksUp entering .null unlocking [sampleSite] _
      (.ok (.ofRules unlocked.rules.active)) :=
    ⟨⟨some (.ok .null), .step rfl (.done _)⟩,
      @Routine.comesTo_of_settle PermissionCall _ 0 (.look .tryAll) _ _ _ _ settled⟩
  have counts : hasty.tokens.signer.verify unlocked.wall.seconds renewed =
      .ok (TokenService.renewal 1) :=
    TokenCodec.verify_sign_of_current ⟨by decide, by decide⟩ (by decide) (by decide)
  have refuses : hasty.Refuses renewed [unlocked, unlocked, unlocked]
      (.error ⟨.permissionDenied, denied⟩) := .denied counts rfl
  exact ⟨rfl, roleless_renewed, shut, by decide, _,
    (shut.refused _ _ _ _ _ _ _ _ _ (TokenCodec.presented_sign _ _) looksUp ruled_entering
      rfl).mpr refuses⟩

end Guard

end Gatehouse
