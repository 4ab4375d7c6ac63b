import Gatehouse.Proofs.Audit.Recording
import Gatehouse.Proofs.Execution.Courses

/-!
# Passwords in the audit trail

The headers of a call are recorded without the credentials in them, but its payload is
recorded as it came. So the records of two logins that are refused alike tell their
passwords apart, and by nothing but the requests.
-/

namespace Gatehouse

/-- In the last of these moves a record is offered to the trail, which the others leave
alone. -/
def OffersOnly (moves : List (Site × Site)) (record : AuditRecord) : Prop :=
  ∃ front site left, moves = front ++ [(site, left)] ∧
    (∀ move ∈ front, move.2.trail = move.1.trail) ∧ left.trail = site.trail.offer record

/-- A routine that ends with the record of a call offers the record of its result, whatever
happens between its moves. -/
theorem Routine.Closes.offersOnly {call : GuardedCall} {routine : Routine Site CallResult}
    {moves : List (Site × Site)} {result : CallResult} (closes : routine.Closes call)
    (goes : routine.Goes moves result) :
    ∃ now, OffersOnly moves (.ofCall call.context now call.payload result) := by
  induction goes with
  | done value => exact closes.elim
  | @step wait act next state moves value ready rest ih =>
      rcases closes state ready with ⟨same, further⟩ | ⟨final, ends, offered⟩
      · obtain ⟨now, front, site, left, rfl, quiet, offered⟩ := ih further
        exact ⟨now, (state, act state) :: front, site, left, rfl,
          List.forall_mem_cons.mpr ⟨same, quiet⟩, offered⟩
      · rw [ends] at rest
        obtain ⟨rfl, rfl⟩ := Routine.goes_done_iff.mp rest
        exact ⟨state.wall, [], state, act state, rfl, by simp, offered⟩

namespace AuditRecord

/-- Records agree in what they say of a call beside its times and its request. -/
structure Matches (record other : AuditRecord) : Prop where
  procedure : record.procedure = other.procedure
  result : record.result = other.result
  headers : record.headers = other.headers

/-- Records are equal apart from their times. -/
structure Equals (record other : AuditRecord) : Prop extends record.Matches other where
  request : record.request = other.request

end AuditRecord

/-- A login of a guarded call. -/
def TokenService.guarded (tokens : TokenService) (context : CallContext) (payload : Json) :
    GuardedCall :=
  ⟨context, payload, AuthService.login tokens, fun context payload =>
    (tokens.allows_fixed.handler List.mem_cons_self context payload).fixed.quiet⟩

/-- The refusal of a login with another password than that of the account. -/
def incorrect : Status := ⟨.invalidArgument, "password is incorrect"⟩

/-- Two records show the payloads of their calls and are told apart by nothing else. -/
structure TellsApart (payload other : Json) (record twin : AuditRecord) : Prop where
  alike : record.Matches twin
  shown : record.toJson.get? "request" = some payload
  shownToo : twin.toJson.get? "request" = some other
  equal : record.Equals twin ↔ payload = other

/-- Two logins with an e-mail address that are refused for their passwords are recorded once
each. Apart from the times the records are equal only if the payloads are, and never if the
passwords differ. -/
theorem logins_told_apart {guard : Guard} (audits : guard.audits = true) {tokens : TokenService}
    {procedure : String} {headers : Headers} {received receivedToo : Moment}
    {payload other : Json} {email password wrong : String}
    (reads : LoginRequest.codec.read payload = .ok ⟨email, password⟩)
    (readsToo : LoginRequest.codec.read other = .ok ⟨email, wrong⟩)
    {moves others : List (Site × Site)}
    (goes : (guard.intercept ⟨procedure, headers, received⟩ payload
      (AuthService.login tokens)).Goes moves (.error incorrect))
    (goesToo : (guard.intercept ⟨procedure, headers, receivedToo⟩ other
      (AuthService.login tokens)).Goes others (.error incorrect)) :
    ∃ record twin, OffersOnly moves record ∧ OffersOnly others twin ∧
      TellsApart payload other record twin ∧
        (password ≠ wrong → ¬ record.Equals twin) := by
  obtain ⟨now, offers⟩ := (Guard.closes_intercept audits
    (tokens.guarded ⟨procedure, headers, received⟩ payload)).offersOnly goes
  obtain ⟨nowToo, offersToo⟩ := (Guard.closes_intercept audits
    (tokens.guarded ⟨procedure, headers, receivedToo⟩ other)).offersOnly goesToo
  refine ⟨_, _, offers, offersToo, ⟨⟨rfl, rfl, rfl⟩, rfl, rfl, ?_⟩, ?_⟩
  · constructor
    · intro equal
      exact equal.request
    · intro same
      exact ⟨⟨rfl, rfl, rfl⟩, same⟩
  · intro differ equal
    have same : payload = other := equal.request
    rw [same, readsToo] at reads
    exact differ (congrArg LoginRequest.password (Except.ok.inj reads)).symm

/-- A guard that keeps a trail, and lets calls through where the rules cannot be had. -/
def watching : Guard where
  permissions := ⟨.ofSeconds 60, .ofSeconds 2, false⟩
  tokens := .ofSigner (TokenCodec.signer ⟨[], 0⟩)
  transform := Guard.passthrough
  audits := true
  order := .executeThenAuthorize
  onLookupFailure := .failOpen

/-- A state with one account, to whose hash no password belongs. The rules cannot be had. -/
def lockedSite : Site :=
  (Site.initial 0 ⟨0, 0⟩ [] []
    [{ (default : Account) with email := "a@b.c", passwordHash := "" }]).setCondition .rules
      ⟨⟨0⟩, some (.store "down")⟩

/-- The payload of a login with a password. -/
def loginWith (password : String) : Json :=
  .object [("email", .string "a@b.c"), ("password", .string password)]

/-- A login with a password, in front of the guard. -/
def guardedLogin (password : String) : Routine Site CallResult :=
  watching.intercept ⟨"auth.v1.AuthService/Login", .empty, ⟨0, 0⟩⟩ (loginWith password)
    (AuthService.login watching.tokens)

theorem settle_guardedLogin (password : String) : ∃ after,
    (guardedLogin password).settle lockedSite = (.done (.error incorrect), after) := ⟨_, rfl⟩

theorem exists_goes_guardedLogin (password : String) :
    ∃ moves, (guardedLogin password).Goes moves (.error incorrect) := by
  obtain ⟨after, settled⟩ := settle_guardedLogin password
  have comes := @Routine.comesTo_of_settle Unit _ 0 () _ _ _ _ settled
  obtain ⟨moves, goes, -⟩ := Routine.comesTo_iff_goes.mp comes
  exact ⟨moves, goes⟩

/-- The passwords of two logins that are refused are told apart. -/
theorem logins_told_apart_of_guesses :
    ∃ moves others, (guardedLogin "hunter2").Goes moves (.error incorrect) ∧
      (guardedLogin "letmein").Goes others (.error incorrect) ∧
        ∃ record twin, OffersOnly moves record ∧ OffersOnly others twin ∧
          ¬ record.Equals twin := by
  obtain ⟨moves, goes⟩ := exists_goes_guardedLogin "hunter2"
  obtain ⟨others, goesToo⟩ := exists_goes_guardedLogin "letmein"
  have reads : LoginRequest.codec.read (loginWith "hunter2") = .ok ⟨"a@b.c", "hunter2"⟩ := rfl
  have readsToo : LoginRequest.codec.read (loginWith "letmein") = .ok ⟨"a@b.c", "letmein"⟩ := rfl
  obtain ⟨record, twin, offers, offersToo, -, apart⟩ :=
    logins_told_apart rfl reads readsToo goes goesToo
  exact ⟨moves, others, goes, goesToo, record, twin, offers, offersToo, apart (by decide)⟩

/-- The record of a login that is refused in this state. -/
def guessRecord (password : String) : AuditRecord :=
  .ofCall ⟨"auth.v1.AuthService/Login", .empty, ⟨0, 0⟩⟩ ⟨0, 0⟩ (loginWith password)
    (.error incorrect)

/-- Where nobody interferes both logins are refused, and the trail holds both passwords. -/
theorem guesses_recorded :
    ((guardedLogin "hunter2").run lockedSite).1 = .error incorrect ∧
      ((guardedLogin "letmein").run lockedSite).1 = .error incorrect ∧
        ((guardedLogin "hunter2").run lockedSite).2.trail.queued = [guessRecord "hunter2"] ∧
          ((guardedLogin "letmein").run lockedSite).2.trail.queued = [guessRecord "letmein"] ∧
            (guessRecord "hunter2").toJson.get? "request" = some (loginWith "hunter2") ∧
              ¬ (guessRecord "hunter2").Equals (guessRecord "letmein") := by
  refine ⟨rfl, rfl, rfl, rfl, rfl, fun equal => ?_⟩
  have same : loginWith "hunter2" = loginWith "letmein" := equal.request
  simp [loginWith] at same

end Gatehouse
