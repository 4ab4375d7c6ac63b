import Gatehouse.Proofs.Account.Standing
import Gatehouse.Proofs.Execution.Interference
import Gatehouse.Proofs.Token.Issuing

/-!
# No pair for an account that is gone

A call is given a pair for an account that stands when the call looks for it: the first
one inserted with the address, or the one that the credential names. So from the deletion
of an account on, every call that has not begun is given a pair for another account or
none, whatever credentials it presents and whoever else has the address.
-/

namespace Gatehouse

/-- The first account that a store goes by is the first one that stands. -/
theorem Reflects.firstWith {trace : Trace AccountCall} {site : Site} {email : String}
    {account : Account} (reflects : Reflects trace site)
    (found : site.accounts.findByEmail? email = some account) : trace.FirstWith email account := by
  rw [AccountStore.findByEmail?_eq, reflects.live, List.find?_eq_some_iff_append] at found
  obtain ⟨same, front, back, split, others⟩ := found
  refine ⟨front, back, split, eq_of_beq same, ?_⟩
  intro other member also
  have apart := others other member
  rw [also, beq_self_eq_true] at apart
  contradiction

theorem Reflects.mem_standing {trace : Trace AccountCall} {site : Site} {id : AccountId}
    {account : Account} (reflects : Reflects trace site)
    (found : site.accounts.findById? id = some account) :
    account ∈ trace.standing ∧ account.id = id := by
  rw [AccountStore.findById?_eq, reflects.live] at found
  have same := List.find?_some found
  exact ⟨List.mem_of_find?_eq_some found, eq_of_beq same⟩

namespace TokenService

variable {service : TokenService} {start site : Site} {trace : Trace AccountCall}
  {threads : List service.accountWorkload.Thread} {pair : TokenPair}

/-! ## Runs -/

theorem fixed_program (call : SessionCall) : (service.workload.program call).Fixed := by
  cases call with
  | login email password => exact (service.allows_fixed.login email password).fixed
  | refresh token => exact (service.allows_fixed.refresh token).fixed
  | revoke token => exact (service.allows_fixed.revoke token).fixed

/-- In every run the store reflects the history. -/
theorem sustains_reflects (empty : start.accounts.accounts = []) :
    service.accountWorkload.Sustains start Trace.Distinct Reflects (fun _ _ _ _ => True) where
  start := ⟨by rw [AccountStore.live, empty]; rfl, nofun⟩
  outside := fun _ _ _ reflects same _ => reflects.same rfl rfl same
  begins := by
    intro trace site number call other _ reflects admitted _
    obtain rfl : other = site := admitted
    refine ⟨reflects.same rfl rfl rfl, ?_⟩
    cases call with
    | insert account =>
        exact Routine.follows_change fun later site _ held distinct =>
          ⟨held.inserted account distinct, trivial⟩
    | delete id =>
        exact Routine.follows_atomically fun later site _ held distinct =>
          ⟨held.deleted distinct.of_append id, trivial⟩
    | session call =>
        apply Routine.Confined.follows (service.fixed_program call)
        intro trace site other held same
        exact held.same rfl rfl (congrArg Fixtures.accounts same)

/-- What an event finds reflects what lies in front of it. -/
theorem reflects_in_front (empty : start.accounts.accounts = [])
    (run : service.accountWorkload.Run start trace site threads) (distinct : trace.Distinct)
    {early late : Trace AccountCall} {event : Event AccountCall}
    (split : trace = early ++ event :: late) : Reflects early event.before := by
  obtain ⟨before, front⟩ := run.in_front split
  rw [split] at distinct
  exact (front.sustained (sustains_reflects empty) (fun _ _ => Trace.Distinct.of_append)
    distinct.of_append).1

/-- What a call has found, it has found at a step of its own, behind a history that the
state reflects. -/
theorem step_of_found (empty : start.accounts.accounts = [])
    (run : service.accountWorkload.Run start trace site threads) (distinct : trace.Distinct)
    {number : Nat} {thread : service.accountWorkload.Thread}
    (begun : threads[number]? = some thread) {state : Site}
    (found : state ∈ Workload.found trace number) :
    ∃ early step late, trace = early ++ step :: late ∧ step.act = .takes number thread.call ∧
      step.before = state ∧ Reflects early state := by
  obtain ⟨step, own, rfl⟩ := List.mem_map.mp found
  obtain ⟨early, late, split⟩ := List.append_of_mem (Trace.mem_steps.mp own).1
  exact ⟨early, step, late, split, run.act_of_mem_steps begun own, rfl,
    reflects_in_front empty run distinct split⟩

/-! ## Pairs -/

/-- A pair belongs to an account: it is signed for the account, and whoever reads one of
its credentials is told so. -/
structure BelongsTo (service : TokenService) (pair : TokenPair) (account : Account) : Prop where
  signed : ∃ session wall, service.signPair account session wall = .ok pair
  named : ∀ token now claims, pair.Holds token → service.signer.verify now token = .ok claims →
    claims.subject = account.id

theorem belongsTo_of_signPair {account : Account} {session : SessionId} {wall : Moment}
    (faithful : service.signer.IsFaithful)
    (signed : service.signPair account session wall = .ok pair) :
    service.BelongsTo pair account where
  signed := ⟨session, wall, signed⟩
  named := fun _ _ _ among verified => (names_of_signPair faithful signed among verified).1

/-- What a call has found when it was given a pair: behind a history it looked for the
account that the pair belongs to. A login looks for the first account with the address,
whose password it proves to know; a renewal looks for the account that its credential
names, which it has verified before. -/
inductive Deserves (service : TokenService) (early : Trace AccountCall) (found : List Site)
    (account : Account) : SessionCall → Prop where
  | login {email password : String} (first : early.FirstWith email account)
      (proves : Password.verify account.passwordHash password = true) :
      Deserves service early found account (.login email password)
  | refresh {token : String} {decoded : Site} {claims : Claims} (read : decoded ∈ found)
      (verifies : service.signer.verify decoded.wall.seconds token = .ok claims)
      (stands : account ∈ early.standing) (named : account.id = claims.subject) :
      Deserves service early found account (.refresh token)

theorem Deserves.mem_standing {early : Trace AccountCall} {found : List Site} {account : Account}
    {call : SessionCall} (deserves : service.Deserves early found account call) :
    account ∈ early.standing := by
  cases deserves with
  | login first => exact first.mem
  | refresh _ _ stands => exact stands

/-- A call that is entitled to a pair for an account has found the account standing. -/
theorem deserves_of_entitles (empty : start.accounts.accounts = [])
    (run : service.accountWorkload.Run start trace site threads) (distinct : trace.Distinct)
    {number : Nat} {call : SessionCall} {left : Routine Site call.Answer}
    (begun : threads[number]? = some ⟨.session call, left⟩) {account : Account} {made timed : Site}
    (entitles : service.Entitles (Workload.found trace number) account made timed call) :
    ∃ early step late, trace = early ++ step :: late ∧
      step.act = .takes number (.session call) ∧
        service.Deserves early (Workload.found trace number) account call := by
  cases entitles with
  | @login email password found inOrder holds proves =>
      obtain ⟨early, step, late, split, own, -, reflects⟩ :=
        step_of_found empty run distinct begun (inOrder.subset (by simp : found ∈ _))
      exact ⟨early, step, late, split, own, .login (reflects.firstWith holds) proves⟩
  | @refresh token claims decoded found inOrder verifies holds =>
      obtain ⟨early, step, late, split, own, -, reflects⟩ :=
        step_of_found empty run distinct begun (inOrder.subset (by simp : found ∈ _))
      obtain ⟨stands, named⟩ := reflects.mem_standing holds
      exact ⟨early, step, late, split, own,
        .refresh (inOrder.subset (by simp)) verifies stands named⟩

/-- A call that is answered with a pair has looked for the account of the pair and has
found it standing. -/
theorem deserves_of_answered (faithful : service.signer.IsFaithful)
    (empty : start.accounts.accounts = [])
    (run : service.accountWorkload.Run start trace site threads) (distinct : trace.Distinct)
    {number : Nat} {call : SessionCall} {answer : call.Answer}
    (answered : service.accountWorkload.Answered threads number (.session call) answer)
    (given : call.pair? answer = some pair) :
    ∃ early step late account, trace = early ++ step :: late ∧
      step.act = .takes number (.session call) ∧
        service.Deserves early (Workload.found trace number) account call ∧
          service.BelongsTo pair account := by
  have comes : (service.workload.program call).ComesTo (Workload.found trace number) answer :=
    run.comesTo answered
  obtain ⟨account, made, timed, entitles, signed⟩ := entitles_of_given comes given
  obtain ⟨early, step, late, split, own, deserves⟩ :=
    deserves_of_entitles empty run distinct answered entitles
  exact ⟨early, step, late, account, split, own, deserves, belongsTo_of_signPair faithful signed⟩

/-! ## Deletions -/

/-- A deletion that tells of an account has deleted its identifier. -/
theorem deleted?_of_answered (run : service.accountWorkload.Run start trace site threads)
    {number : Nat} {id : AccountId} {event : Event AccountCall} (member : event ∈ trace)
    (own : event.act = .takes number (.delete id))
    (answered : service.accountWorkload.Answered threads number (.delete id) true) :
    event.deleted? = some id := by
  obtain ⟨state, single, told⟩ := Routine.comesTo_atomically_iff.mp (run.comesTo answered)
  have step : event ∈ trace.steps number := Trace.mem_steps.mpr ⟨member, by rw [own]; rfl⟩
  have found : event.before ∈ Workload.found trace number := List.mem_map_of_mem step
  rw [single, List.mem_singleton] at found
  rw [Event.deleted?, own, found]
  exact if_pos told.symm

/-- Who is given pairs while accounts come and go. -/
structure Serves (service : TokenService) (trace : Trace AccountCall)
    (threads : List service.accountWorkload.Thread) : Prop where
  /-- A pair is given for an account that stands when the call looks for it. -/
  deserved : ∀ number call answer pair,
    service.accountWorkload.Answered threads number (.session call) answer →
      call.pair? answer = some pair →
        ∃ early step late account, trace = early ++ step :: late ∧
          step.act = .takes number (.session call) ∧
            service.Deserves early (Workload.found trace number) account call ∧
              service.BelongsTo pair account
  /-- Once an account is deleted, a call that begins is given no pair for it. -/
  spared : ∀ (early : Trace AccountCall) deletion late number id,
    trace = early ++ deletion :: late → deletion.act = .takes number (.delete id) →
      service.accountWorkload.Answered threads number (.delete id) true →
        ∀ other call answer pair, early.steps other = [] →
          service.accountWorkload.Answered threads other (.session call) answer →
            call.pair? answer = some pair →
              ∃ account, service.BelongsTo pair account ∧ account.id ≠ id

/-- However insertions, deletions and calls are interleaved, whether or not sessions are
tracked, pairs are given for accounts that stand, and none for one that was deleted. -/
theorem accounts_served (faithful : service.signer.IsFaithful)
    (empty : start.accounts.accounts = [])
    (run : service.accountWorkload.Run start trace site threads) (distinct : trace.Distinct) :
    service.Serves trace threads where
  deserved := fun _ _ _ _ answered given =>
    deserves_of_answered faithful empty run distinct answered given
  spared := by
    intro early deletion late number id split own told other call answer pair unbegun answered given
    obtain ⟨front, step, back, account, again, also, deserves, belongs⟩ :=
      deserves_of_answered faithful empty run distinct answered given
    refine ⟨account, belongs, ?_⟩
    rintro rfl
    have gone : deletion.deleted? = some account.id := by
      apply deleted?_of_answered run _ own told
      rw [split]
      exact List.mem_append_right _ List.mem_cons_self
    obtain ⟨-, -, kept⟩ := Trace.mem_standing.mp deserves.mem_standing
    -- The call looks for the account behind the deletion, where the account does not stand.
    rcases Trace.place_cases (split.symm.trans again) with
      ⟨-, rfl, -⟩ | ⟨between, rfl, -⟩ | ⟨between, rfl, -⟩
    · rw [own] at also
      cases also
    · apply kept
      rw [Trace.deleted_append]
      exact List.mem_append_right _ (List.mem_filterMap.mpr ⟨deletion, by simp, gone⟩)
    · have stepped : step ∈ Trace.steps other (front ++ step :: between) :=
        Trace.mem_steps.mpr ⟨by simp, by rw [also]; rfl⟩
      rw [unbegun] at stepped
      contradiction

/-! ## A deletion -/

/-- A state without accounts. -/
def vacant : Site := .initial 0 ⟨0, 0⟩ [] [] []

/-- Another account with the address and the password of the member. -/
def twin : Account := { member with id := .ofTime .account 0 1 }

/-- The state behind the login of the member in which the twin has an account instead. -/
def replaced : Site :=
  { entered with accounts := (entered.accounts.insert twin).delete member.id entered.wall }

theorem settle_findTwin :
    (tracking.findAccount "accounts.find_by_email" (·.findByEmail? "a@b.c")).toRoutine.settle
      replaced = (.done (.ok twin), replaced.countCall .accounts) := rfl

/-- The pair of the twin. -/
def reissued : TokenPair :=
  let access := Claims.access twin.id (.ofTime .session 0 1) ⟨3600, 0⟩ twin.role
  let refresh := Claims.refresh twin.id (.ofTime .session 0 1) ⟨86400, 0⟩
  ⟨TokenPair.bearer, TokenCodec.sign ⟨[], 0⟩ access, TokenCodec.sign ⟨[], 0⟩ refresh,
    access.expires, refresh.expires⟩

/-- The state behind the login of the twin. -/
def reentered : Site := ((tracking.issue twin).toRoutine.settle (replaced.countCall .accounts)).2

/-- The same address and password are now those of the twin. -/
theorem settle_reentering : (tracking.workload.program entering).settle replaced =
    (.done (.ok reissued), reentered) := by
  refine (Routine.settle_bind settle_findTwin _).trans ?_
  change Routine.settle
    (if Password.verify member.passwordHash "secret" = true
      then tracking.issue twin else _ : Task AuthFault TokenPair).toRoutine _ = _
  rw [if_pos verify_member]
  rfl

/-- The credential of the member is verified, but there is no account for it. -/
theorem settle_renewing_reentered : ∃ after,
    (tracking.workload.program renewing).settle reentered =
      (.done (.error (.validation "account not found")), after) := by
  have decoded := @settle_decode _ _ reentered verify_renewal rfl
  exact ⟨_, Routine.settle_bind decoded _⟩

/-- Calls of the service insert nothing. -/
theorem inserted_events {α : Type} (number : Nat) (call : SessionCall) (routine : Routine Site α)
    (site : Site) : Trace.inserted (routine.events number (.session call) site) = [] := by
  rw [Trace.inserted, List.filterMap_eq_nil_iff]
  intro event member
  rw [Event.inserted?, Routine.act_of_mem_events member]

/-- The member logs in, gets a twin and is deleted; then somebody logs in with the same
address and password, and the credential of the member is presented. -/
theorem run_vacant : ∃ trace site threads,
    tracking.accountWorkload.Run vacant trace site threads ∧ trace.Distinct ∧
      tracking.accountWorkload.Answered threads 1 (.session entering) (.ok (issued 0)) ∧
        tracking.accountWorkload.Answered threads 3 (.delete member.id) true ∧
          tracking.accountWorkload.Answered threads 4 (.session entering) (.ok reissued) ∧
            tracking.accountWorkload.Answered threads 5 (.session renewing)
              (.error (.validation "account not found")) := by
  have begun : tracking.accountWorkload.Run vacant _ vacant _ := .begins .start (.insert member) rfl
  have first : tracking.accountWorkload.Run vacant _ joined _ := begun.settle_answered 0 rfl rfl
  have login := (first.begins (.session entering) rfl).settle_answered 1 rfl settle_entering.1
  have second : tracking.accountWorkload.Run vacant _
      { entered with accounts := entered.accounts.insert twin } _ :=
    (login.begins (.insert twin) rfl).settle_answered 2 rfl rfl
  have deletion : tracking.accountWorkload.Run vacant _ replaced _ :=
    (second.begins (.delete member.id) rfl).settle_answered 3 rfl rfl
  have again := (deletion.begins (.session entering) rfl).settle_answered 4 rfl settle_reentering
  obtain ⟨after, refused⟩ := settle_renewing_reentered
  have ended := (again.begins (.session renewing) rfl).settle_answered 5 rfl refused
  refine ⟨_, _, _, ended, ?_, rfl, rfl, rfl, rfl⟩
  rw [Trace.Distinct]
  simp only [Trace.inserted_append, inserted_events]
  decide

/-- After the deletion of the member the same login is given a pair of the twin. -/
theorem accounts_served_of_vacant : tracking.signer.IsFaithful ∧ vacant.accounts.accounts = [] ∧
    ∃ trace site threads, tracking.accountWorkload.Run vacant trace site threads ∧
      trace.Distinct ∧
        tracking.accountWorkload.Answered threads 1 (.session entering) (.ok (issued 0)) ∧
          tracking.accountWorkload.Answered threads 3 (.delete member.id) true ∧
            tracking.accountWorkload.Answered threads 4 (.session entering) (.ok reissued) ∧
              tracking.accountWorkload.Answered threads 5 (.session renewing)
                (.error (.validation "account not found")) ∧
                tracking.Serves trace threads := by
  have faithful : tracking.signer.IsFaithful := TokenCodec.isFaithful_signer _
  obtain ⟨trace, site, threads, run, distinct, first, gone, second, refused⟩ := run_vacant
  exact ⟨faithful, rfl, trace, site, threads, run, distinct, first, gone, second, refused,
    accounts_served faithful rfl run distinct⟩

end TokenService

end Gatehouse
