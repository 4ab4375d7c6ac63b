import Gatehouse.Proofs.Execution.Courses
import Gatehouse.Proofs.Guard.Roleless

/-!
# The course of a guarded call

A guarded call names its procedure once. Its handler is run for it, its rule is looked up
under it, a grant is asked for it and it is what the record says. This module lists the
moves of a call with the procedure as the only one they know, for either order and for
every handler, whatever happens between two moves.
-/

namespace Gatehouse.Guard

/-! ## Stages -/

section

variable (guard : Guard) (procedure : String) (headers : Headers)

/-- The moves in which the credential of a call is checked, and what they come to. Nothing
is changed by them. -/
inductive Checks : List (Site × Site) → Except Status Unit → Prop where
  | unpresented {fault : AuthFault} (absent : Credential.ofHeaders headers = .error fault) :
      Checks [] (.error fault.toStatus)
  | invalid {token : String} {fault : AuthFault} {checking : Site}
      (presented : Credential.ofHeaders headers = .ok token)
      (refused : guard.tokens.signer.verify checking.wall.seconds token = .error fault) :
      Checks [(checking, checking)] (.error fault.toStatus)
  | denied {token : String} {claims : Claims} {checking granting : Site}
      (presented : Credential.ofHeaders headers = .ok token)
      (counts : guard.tokens.signer.verify checking.wall.seconds token = .ok claims)
      (ungranted : granting.grants.enforce claims.role.name procedure = false) :
      Checks [(checking, checking), (granting, granting)]
        (.error ⟨.permissionDenied, Guard.denied⟩)
  | granted {token : String} {claims : Claims} {checking granting : Site}
      (presented : Credential.ofHeaders headers = .ok token)
      (counts : guard.tokens.signer.verify checking.wall.seconds token = .ok claims)
      (granted : granting.grants.enforce claims.role.name procedure = true) :
      Checks [(checking, checking), (granting, granting)] (.ok ())

/-- The moves in which it is decided on a call, and the rule or the refusal that they come
to. -/
inductive Decides : List (Site × Site) → Except Status (Option Rule) → Prop where
  | unavailable {look : List (Site × Site)} {fault : StoreFault}
      (lookup : guard.permissions.tryGetAll.toRoutine.Goes look (.error fault))
      (closed : guard.onLookupFailure = .failClosed) :
      Decides look (.error (Guard.unavailable fault))
  | passedOver {look : List (Site × Site)} {fault : StoreFault}
      (lookup : guard.permissions.tryGetAll.toRoutine.Goes look (.error fault))
      (opened : guard.onLookupFailure = .failOpen) : Decides look (.ok none)
  | unruled {look : List (Site × Site)} {map : RuleMap}
      (lookup : guard.permissions.tryGetAll.toRoutine.Goes look (.ok map))
      (free : map.get? procedure = none) : Decides look (.ok none)
  | unasked {look : List (Site × Site)} {map : RuleMap} {rule : Rule}
      (lookup : guard.permissions.tryGetAll.toRoutine.Goes look (.ok map))
      (ruled : map.get? procedure = some rule) (unguarded : rule.requireAuth = false) :
      Decides look (.ok (some rule))
  | asked {look check : List (Site × Site)} {map : RuleMap} {rule : Rule}
      {passed : Except Status Unit}
      (lookup : guard.permissions.tryGetAll.toRoutine.Goes look (.ok map))
      (ruled : map.get? procedure = some rule) (guarded : rule.requireAuth = true)
      (checks : Checks guard procedure headers check passed) :
      Decides (look ++ check) (passed.map fun _ => some rule)

variable (received : Moment) (payload : Json)

/-- The moves in which a call is recorded: a guard that keeps a trail offers one record. -/
def Records (result : CallResult) (moves : List (Site × Site)) : Prop :=
  if guard.audits then
    ∃ site : Site, moves = [(site, { site with
      trail := site.trail.offer ⟨procedure, received,
        AuditRecord.millisBetween received site.wall, payload, result,
        AuditRecord.shownHeaders headers⟩ })]
  else moves = []

/-- The moves of a call, and the result that they come to. -/
inductive Serves (handler : Handler) : List (Site × Site) → CallResult → Prop where
  | refusedLate {handling deciding closing : List (Site × Site)} {handled : CallResult}
      {status : Status} (order : guard.order = .executeThenAuthorize)
      (handles : (handler ⟨procedure, headers, received⟩ payload).toRoutine.Goes handling handled)
      (decides : Decides guard procedure headers deciding (.error status))
      (records : Records guard procedure headers received payload (.error status) closing) :
      Serves handler (handling ++ (deciding ++ closing)) (.error status)
  | passedLate {handling deciding closing : List (Site × Site)} {handled : CallResult}
      {rule : Option Rule} (order : guard.order = .executeThenAuthorize)
      (handles : (handler ⟨procedure, headers, received⟩ payload).toRoutine.Goes handling handled)
      (decides : Decides guard procedure headers deciding (.ok rule))
      (records : Records guard procedure headers received payload
        (guard.finish ⟨procedure, headers, received⟩ rule handled) closing) :
      Serves handler (handling ++ (deciding ++ closing))
        (guard.finish ⟨procedure, headers, received⟩ rule handled)
  | refused {deciding closing : List (Site × Site)} {status : Status}
      (order : guard.order = .authorizeThenExecute)
      (decides : Decides guard procedure headers deciding (.error status))
      (records : Records guard procedure headers received payload (.error status) closing) :
      Serves handler (deciding ++ closing) (.error status)
  | passed {deciding handling closing : List (Site × Site)} {handled : CallResult}
      {rule : Option Rule} (order : guard.order = .authorizeThenExecute)
      (decides : Decides guard procedure headers deciding (.ok rule))
      (handles : (handler ⟨procedure, headers, received⟩ payload).toRoutine.Goes handling handled)
      (records : Records guard procedure headers received payload
        (guard.finish ⟨procedure, headers, received⟩ rule handled) closing) :
      Serves handler (deciding ++ (handling ++ closing))
        (guard.finish ⟨procedure, headers, received⟩ rule handled)

end

variable {guard : Guard} {context : CallContext} {payload : Json} {handler : Handler}
  {moves : List (Site × Site)}

/-! ## The stages are those of the guard -/

/-- A credential that counts is weighed against the grants, whichever way that ends. -/
theorem goes_authenticate_of_counts {token : String} {claims : Claims} {checking : Site}
    (presented : Credential.ofHeaders context.headers = .ok token)
    (counts : guard.tokens.signer.verify checking.wall.seconds token = .ok claims)
    (granting : Site) : (guard.authenticate context).toRoutine.Goes
      [(checking, checking), (granting, granting)]
        (if granting.grants.enforce claims.role.name context.procedure then .ok ()
          else .error ⟨.permissionDenied, denied⟩) := by
  rw [authenticate_eq presented]
  refine Routine.goes_bind_iff.mpr ⟨[(checking, checking)], _, .ok claims, rfl,
    Routine.goes_observe_iff.mpr ⟨checking, rfl, counts.symm⟩, ?_⟩
  exact Routine.goes_bind_iff.mpr ⟨[(granting, granting)], [], _, rfl,
    Routine.goes_observe_iff.mpr ⟨granting, rfl, rfl⟩, .done _⟩

/-- The check of a credential makes its moves and no others. -/
theorem goes_authenticate_iff {passed : Except Status Unit} :
    (guard.authenticate context).toRoutine.Goes moves passed ↔
      guard.Checks context.procedure context.headers moves passed := by
  constructor
  · intro goes
    cases presented : Credential.ofHeaders context.headers with
    | error fault =>
        rw [authenticate, presented] at goes
        obtain ⟨rfl, rfl⟩ := Routine.goes_done_iff.mp goes
        exact .unpresented presented
    | ok token =>
        rw [authenticate_eq presented] at goes
        obtain ⟨_, _, outcome, rfl, decodes, ends⟩ := Routine.goes_bind_iff.mp goes
        obtain ⟨checking, rfl, rfl⟩ := Routine.goes_observe_iff.mp decodes
        cases verified : guard.tokens.signer.verify checking.wall.seconds token with
        | error fault =>
            rw [verified] at ends
            obtain ⟨rfl, rfl⟩ := Routine.goes_done_iff.mp ends
            exact .invalid presented verified
        | ok claims =>
            rw [verified] at ends
            obtain ⟨_, _, current, rfl, looks, ends⟩ := Routine.goes_bind_iff.mp ends
            obtain ⟨granting, rfl, rfl⟩ := Routine.goes_observe_iff.mp looks
            obtain ⟨rfl, rfl⟩ := Routine.goes_done_iff.mp ends
            split
            · next granted => exact .granted presented verified granted
            · next ungranted => exact .denied presented verified (Bool.eq_false_iff.mpr ungranted)
  · intro checks
    cases checks with
    | unpresented absent =>
        rw [authenticate, absent]
        exact .done _
    | @invalid token fault checking presented refused =>
        rw [authenticate_eq presented]
        exact Routine.goes_bind_iff.mpr ⟨[(checking, checking)], [], .error fault, rfl,
          Routine.goes_observe_iff.mpr ⟨checking, rfl, refused.symm⟩, .done _⟩
    | @denied token claims checking granting presented counts ungranted =>
        simpa [ungranted] using goes_authenticate_of_counts presented counts granting
    | @granted token claims checking granting presented counts granted =>
        simpa [granted] using goes_authenticate_of_counts presented counts granting

section

variable {map : RuleMap} {rule : Rule} {fault : StoreFault} {procedure : String}

theorem judge_unavailable (closed : guard.onLookupFailure = .failClosed) :
    guard.judge context (guard.ruled procedure (.error fault)) =
      .done (.error (unavailable fault)) := by simp [Guard.ruled, closed, judge]

theorem judge_passedOver (opened : guard.onLookupFailure = .failOpen) :
    guard.judge context (guard.ruled procedure (.error fault)) = .done (.ok none) := by
  simp [Guard.ruled, opened, judge]

theorem judge_unruled (free : map.get? procedure = none) :
    guard.judge context (guard.ruled procedure (.ok map)) = .done (.ok none) := by
  simp [Guard.ruled, free, judge]

theorem judge_unasked (ruled : map.get? procedure = some rule)
    (unguarded : rule.requireAuth = false) :
    guard.judge context (guard.ruled procedure (.ok map)) = .done (.ok (some rule)) := by
  simp [Guard.ruled, ruled, judge, unguarded]

theorem judge_asked (ruled : map.get? procedure = some rule) (guarded : rule.requireAuth = true) :
    guard.judge context (guard.ruled procedure (.ok map)) =
      (guard.authenticate context).toRoutine.bind fun passed =>
        .done (passed.map fun _ => some rule) := by
  simp [Guard.ruled, ruled, judge, guarded]

end

/-- Where nothing is left to do behind a lookup, its moves are all that are made. -/
theorem goes_of_judged {look : List (Site × Site)} {found : Except StoreFault RuleMap}
    {decision : Except Status (Option Rule)}
    (lookup : guard.permissions.tryGetAll.toRoutine.Goes look found)
    (judged : guard.judge context (guard.ruled context.procedure found) = .done decision) :
    (guard.authorize context).toRoutine.Goes look decision := by
  rw [authorize_eq]
  refine Routine.goes_bind_iff.mpr ⟨look, [], found, (List.append_nil look).symm, lookup, ?_⟩
  rw [judged]
  exact .done decision

/-- It is decided on a call in the moves of a decision and in no others. -/
theorem goes_authorize_iff {decision : Except Status (Option Rule)} :
    (guard.authorize context).toRoutine.Goes moves decision ↔
      guard.Decides context.procedure context.headers moves decision := by
  constructor
  · intro goes
    rw [authorize_eq] at goes
    obtain ⟨look, check, found, rfl, lookup, judges⟩ := Routine.goes_bind_iff.mp goes
    -- Unless a rule asks for a credential, nothing is done behind the lookup.
    have settled {known : Except Status (Option Rule)}
        (judged : guard.judge context (guard.ruled context.procedure found) = .done known) :
        look ++ check = look ∧ decision = known := by
      rw [judged] at judges
      obtain ⟨rfl, same⟩ := Routine.goes_done_iff.mp judges
      exact ⟨List.append_nil look, same⟩
    cases found with
    | error fault =>
        cases policy : guard.onLookupFailure with
        | failOpen =>
            obtain ⟨alone, rfl⟩ := settled (judge_passedOver policy)
            rw [alone]
            exact .passedOver lookup policy
        | failClosed =>
            obtain ⟨alone, rfl⟩ := settled (judge_unavailable policy)
            rw [alone]
            exact .unavailable lookup policy
    | ok map =>
        cases listed : map.get? context.procedure with
        | none =>
            obtain ⟨alone, rfl⟩ := settled (judge_unruled listed)
            rw [alone]
            exact .unruled lookup listed
        | some rule =>
            cases asked : rule.requireAuth with
            | false =>
                obtain ⟨alone, rfl⟩ := settled (judge_unasked listed asked)
                rw [alone]
                exact .unasked lookup listed asked
            | true =>
                rw [judge_asked listed asked] at judges
                obtain ⟨check, _, passed, rfl, checks, ends⟩ := Routine.goes_bind_iff.mp judges
                obtain ⟨rfl, rfl⟩ := Routine.goes_done_iff.mp ends
                rw [List.append_nil]
                exact .asked lookup listed asked (goes_authenticate_iff.mp checks)
  · intro decides
    cases decides with
    | unavailable lookup closed => exact goes_of_judged lookup (judge_unavailable closed)
    | passedOver lookup opened => exact goes_of_judged lookup (judge_passedOver opened)
    | unruled lookup free => exact goes_of_judged lookup (judge_unruled free)
    | unasked lookup ruled unguarded => exact goes_of_judged lookup (judge_unasked ruled unguarded)
    | @asked look check map rule passed lookup ruled guarded checks =>
        rw [authorize_eq]
        refine Routine.goes_bind_iff.mpr ⟨look, check, .ok map, rfl, lookup, ?_⟩
        rw [judge_asked ruled guarded]
        exact Routine.goes_bind_iff.mpr ⟨check, [], passed, (List.append_nil check).symm,
          goes_authenticate_iff.mpr checks, .done _⟩

/-- A call is recorded in the moves of its record and in no others. -/
theorem goes_close_iff {recorded result : CallResult} :
    (guard.close context payload recorded).Goes moves result ↔
      guard.Records context.procedure context.headers context.receivedAt payload recorded moves ∧
        result = recorded := by
  rw [close, Records]
  cases guard.audits with
  | false => exact Routine.goes_done_iff
  | true =>
      simp only [if_true]
      rw [Routine.goes_bind_iff]
      constructor
      · rintro ⟨_, _, _, rfl, changes, ends⟩
        obtain ⟨site, rfl⟩ := Routine.goes_change_iff.mp changes
        obtain ⟨rfl, rfl⟩ := Routine.goes_done_iff.mp ends
        exact ⟨⟨site, rfl⟩, rfl⟩
      · rintro ⟨⟨site, rfl⟩, rfl⟩
        exact ⟨[_], [], (), rfl, Routine.goes_change_iff.mpr ⟨site, rfl⟩, .done _⟩

/-! ## The whole call -/

theorem intercept_of_executeThenAuthorize (order : guard.order = .executeThenAuthorize) :
    guard.intercept context payload handler =
      (handler context payload).toRoutine.bind fun handled =>
        (guard.authorize context).toRoutine.bind fun decision => match decision with
          | .error status => guard.close context payload (.error status)
          | .ok rule => guard.close context payload (guard.finish context rule handled) := by
  rw [intercept_eq, ahead, order, authorize_eq]
  simp only [Routine.bind_assoc]
  apply congrArg
  funext handled
  change guard.permissions.tryGetAll.toRoutine.bind _ = _
  apply congrArg
  funext found
  rw [behind]
  apply congrArg
  funext decision
  cases decision <;> rfl

theorem intercept_of_authorizeThenExecute (order : guard.order = .authorizeThenExecute) :
    guard.intercept context payload handler =
      (guard.authorize context).toRoutine.bind fun decision => match decision with
        | .error status => guard.close context payload (.error status)
        | .ok rule => (handler context payload).toRoutine.bind fun handled =>
            guard.close context payload (guard.finish context rule handled) := by
  rw [intercept_eq, ahead, order, authorize_eq, Routine.bind_assoc]
  change guard.permissions.tryGetAll.toRoutine.bind _ = _
  apply congrArg
  funext found
  rw [behind]
  apply congrArg
  funext decision
  cases decision <;> rfl

/-- A guarded call makes the moves of its procedure and no others. -/
theorem goes_intercept_iff {result : CallResult} :
    (guard.intercept context payload handler).Goes moves result ↔
      guard.Serves context.procedure context.headers context.receivedAt payload handler moves
        result := by
  constructor
  · intro goes
    cases order : guard.order with
    | executeThenAuthorize =>
        rw [intercept_of_executeThenAuthorize order] at goes
        obtain ⟨handling, _, handled, rfl, handles, goes⟩ := Routine.goes_bind_iff.mp goes
        obtain ⟨deciding, closing, decision, rfl, decides, closes⟩ := Routine.goes_bind_iff.mp goes
        cases decision with
        | error status =>
            obtain ⟨records, rfl⟩ := goes_close_iff.mp closes
            exact .refusedLate order handles (goes_authorize_iff.mp decides) records
        | ok rule =>
            obtain ⟨records, rfl⟩ := goes_close_iff.mp closes
            exact .passedLate order handles (goes_authorize_iff.mp decides) records
    | authorizeThenExecute =>
        rw [intercept_of_authorizeThenExecute order] at goes
        obtain ⟨deciding, _, decision, rfl, decides, goes⟩ := Routine.goes_bind_iff.mp goes
        cases decision with
        | error status =>
            obtain ⟨records, rfl⟩ := goes_close_iff.mp goes
            exact .refused order (goes_authorize_iff.mp decides) records
        | ok rule =>
            obtain ⟨handling, closing, handled, rfl, handles, closes⟩ :=
              Routine.goes_bind_iff.mp goes
            obtain ⟨records, rfl⟩ := goes_close_iff.mp closes
            exact .passed order (goes_authorize_iff.mp decides) handles records
  · intro serves
    cases serves with
    | @refusedLate handling deciding closing handled status order handles decides records =>
        rw [intercept_of_executeThenAuthorize order]
        refine Routine.goes_bind_iff.mpr ⟨handling, _, handled, rfl, handles, ?_⟩
        exact Routine.goes_bind_iff.mpr ⟨deciding, closing, .error status, rfl,
          goes_authorize_iff.mpr decides, goes_close_iff.mpr ⟨records, rfl⟩⟩
    | @passedLate handling deciding closing handled rule order handles decides records =>
        rw [intercept_of_executeThenAuthorize order]
        refine Routine.goes_bind_iff.mpr ⟨handling, _, handled, rfl, handles, ?_⟩
        exact Routine.goes_bind_iff.mpr ⟨deciding, closing, .ok rule, rfl,
          goes_authorize_iff.mpr decides, goes_close_iff.mpr ⟨records, rfl⟩⟩
    | @refused deciding closing status order decides records =>
        rw [intercept_of_authorizeThenExecute order]
        exact Routine.goes_bind_iff.mpr ⟨deciding, closing, .error status, rfl,
          goes_authorize_iff.mpr decides, goes_close_iff.mpr ⟨records, rfl⟩⟩
    | @passed deciding handling closing handled rule order decides handles records =>
        rw [intercept_of_authorizeThenExecute order]
        refine Routine.goes_bind_iff.mpr ⟨deciding, _, .ok rule, rfl,
          goes_authorize_iff.mpr decides, ?_⟩
        exact Routine.goes_bind_iff.mpr ⟨handling, closing, handled, rfl, handles,
          goes_close_iff.mpr ⟨records, rfl⟩⟩

end Gatehouse.Guard
