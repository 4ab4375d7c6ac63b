import Gatehouse.Proofs.Cache.Entries
import Gatehouse.Proofs.Execution.Interleaving
import Gatehouse.Proofs.Identifier.Text
import Gatehouse.Token.Service

/-!
# Logins, renewals and revocations side by side

Each pair of credentials belongs to a session that is recorded in the cache and ended
there. What becomes of the sessions is said in terms of the trace: which call recorded
a session, and when, and at which step a call checked the session of its credential.
-/

namespace Gatehouse

/-! ## The calls -/

/-- The calls of a token service. -/
inductive SessionCall where
  | login (email password : String)
  | refresh (token : String)
  | revoke (token : String)

namespace SessionCall

/-- What a call is answered with. -/
def Answer : SessionCall → Type
  | .login _ _ => Except AuthFault TokenPair
  | .refresh _ => Except AuthFault TokenPair
  | .revoke _ => Except AuthFault String

/-- The credential that a call presents. -/
def token? : SessionCall → Option String
  | .login _ _ => none
  | .refresh token => some token
  | .revoke token => some token

/-- The pair that a call is answered with. -/
def pair? : (call : SessionCall) → call.Answer → Option TokenPair
  | .login _ _, answer => answer.toOption
  | .refresh _, answer => answer.toOption
  | .revoke _, _ => none

/-- Why a call is refused. -/
def failure? : (call : SessionCall) → call.Answer → Option AuthFault
  | .login _ _, .error fault => some fault
  | .refresh _, .error fault => some fault
  | .revoke _, .error fault => some fault
  | _, _ => none

end SessionCall

/-- A credential is one of the two of a pair. -/
def TokenPair.Holds (pair : TokenPair) (token : String) : Prop :=
  token = pair.accessToken ∨ token = pair.refreshToken

/-- The session of an account shows in the cache. -/
def Site.HasSession (site : Site) (subject : AccountId) (session : SessionId) : Prop :=
  (site.cache.get? site.clock (Session.key subject session)).isSome = true

/-- What is read of a signed credential are the claims that it was signed for. -/
def Signer.IsFaithful (signer : Signer) : Prop :=
  ∀ claims token, signer.sign claims = .ok token →
    ∀ now shown, signer.verify now token = .ok shown → shown = claims

namespace TokenService

variable (service : TokenService)

/-- The cache does in time what it is asked for. -/
structure CacheAnswers (site : Site) : Prop where
  set : (site.conditions .cacheSet).Answers service.timeout
  delete : (site.conditions .cacheDelete).Answers service.timeout

/-- What the world outside may do: the time passes, accounts come and go, and their
store may fail. The cache goes on to show the same under the keys of sessions. -/
structure Drifts (site other : Site) : Prop where
  clock : site.clock ≤ other.clock
  cacheAnswers : service.CacheAnswers other
  sessions : ∀ subject session,
    TtlCache.ShowsSame (Session.key subject session) other.clock site.cache other.cache

/-- Logins, renewals and revocations over one state. -/
def workload : Workload SessionCall where
  Answer := SessionCall.Answer
  program
    | .login email password => (service.login email password).toRoutine
    | .refresh token => (service.refresh token).toRoutine
    | .revoke token => (service.revoke token).toRoutine
  admits _ site other := other = site
  outside := service.Drifts

/-- A state without sessions. -/
structure Fresh (start : Site) : Prop where
  cacheAnswers : service.CacheAnswers start
  empty : ∀ subject session, start.cache.entries.get? (Session.key subject session) = none

end TokenService

/-- Sessions of accounts have keys of their own. -/
theorem Session.key_inj {subject other : AccountId} {session elsewhere : SessionId}
    (same : Session.key subject session = Session.key other elsewhere) :
    subject = other ∧ session = elsewhere := by
  have lists := congrArg String.toList same
  simp only [Session.key, String.toList_append, List.append_assoc, Identifier.text,
    String.toList_ofList, List.append_cancel_left_eq] at lists
  obtain ⟨subjects, rest⟩ := List.append_inj lists (by simp)
  rw [List.append_cancel_left_eq] at rest
  exact ⟨Identifier.text_injective (congrArg String.ofList subjects),
    Identifier.text_injective (congrArg String.ofList rest)⟩

/-! ## What happens to the sessions -/

namespace Event

variable (event : Event SessionCall)

/-- The identifier that a step makes. -/
def made? : Option SessionId :=
  if event.act.stepOf?.isSome ∧ event.after.serial = event.before.serial + 1 then
    some (event.before.freshIdentifier .session).1
  else none

/-- A call ends a session. -/
structure Ends (subject : AccountId) (session : SessionId) : Prop where
  step : event.act.stepOf?.isSome = true
  before : event.before.HasSession subject session
  after : ¬ event.after.HasSession subject session

end Event

namespace Trace

variable (service : TokenService) (trace : Trace SessionCall)

/-- The identifiers of sessions that were made. -/
def made : List SessionId := trace.filterMap Event.made?

/-- A call has not asked the cache to keep anything. -/
def Quiet (number : Nat) : Prop := ∀ shown ∈ trace.steps number, ¬ shown.Asks .cacheSet

/-- An event records a session: a call has made its identifier, has had a pair signed
for it and has asked the cache, which now keeps the session. -/
structure Records (event : Event SessionCall) (number : Nat) (subject : AccountId)
    (session : SessionId) : Prop where
  own : ∃ call, event.act = .takes number call
  signed : ∃ front making reading asking account pair,
    trace.steps number = front ++ [making, reading, asking] ∧ making.made? = some session ∧
      asking.Asks .cacheSet ∧ account.id = subject ∧
        service.signPair account session reading.before.wall = .ok pair
  calls : event.after.calls = event.before.calls
  done : event.before.cache.set event.before.clock (Session.key subject session) session.text
    service.refreshTtl = .ok event.after.cache

/-- A session was recorded at a time and has not been ended since. -/
def Standing (subject : AccountId) (session : SessionId) (time : Nat) : Prop :=
  ∃ number early event late, trace = early ++ event :: late ∧
    Records service early event number subject session ∧ event.before.clock = time ∧
      ∀ later ∈ late, ¬ later.Ends subject session

/-- At an event a call checks the session of its credential, which it has verified. -/
structure Checks (check : Event SessionCall) (number : Nat) (token : String) (claims : Claims) :
    Prop where
  own : ∃ call : SessionCall, call.token? = some token ∧ check.act = .takes number call
  verified : ∃ decoding asking, trace.steps number = [decoding, asking] ∧
    service.signer.verify decoding.before.wall.seconds token = .ok claims

/-- A call has checked the session of its credential, and this is what came of it. -/
def Checked (number : Nat) (token : String) (came : Event SessionCall → Claims → Prop) : Prop :=
  ∃ early check late claims, trace = early ++ check :: late ∧
    Checks service early check number token claims ∧ came check claims

/-- The credential of a call has passed the check of its session, which is over then. -/
def Passes (number : Nat) (token : String) : Prop :=
  Checked service trace number token fun check claims => check.Ends claims.subject claims.session

/-- The credential of a call has been checked when its session did not show. -/
def Misses (number : Nat) (token : String) : Prop :=
  Checked service trace number token fun check claims =>
    ¬ check.before.HasSession claims.subject claims.session

/-- A call has recorded no session. -/
def Unrecorded (number : Nat) : Prop :=
  ∀ early event late subject session, trace = early ++ event :: late →
    ¬ Records service early event number subject session

/-- A call has recorded exactly one session, a new one, for which a pair was signed. -/
def RecordsOnce (number : Nat) (pair : TokenPair) : Prop :=
  ∃ early event late account session wall, trace = early ++ event :: late ∧
    Records service early event number account.id session ∧
      service.signPair account session wall = .ok pair ∧
        ¬ event.before.HasSession account.id session ∧
          ∀ front other back subject another, trace = front ++ other :: back →
            Records service front other number subject another →
              front = early ∧ other = event ∧ subject = account.id ∧ another = session

/-- A call has recorded a session exactly if there is a pair to answer with. -/
def Issued (number : Nat) : Option TokenPair → Prop
  | some pair => RecordsOnce service trace number pair
  | none => Unrecorded service trace number

/-- A call has begun by verifying its credential, which came to an outcome. -/
def Verified (number : Nat) (token : String) (outcome : Except AuthFault Claims) : Prop :=
  ∃ decoding rest, trace.steps number = decoding :: rest ∧
    service.signer.verify decoding.before.wall.seconds token = outcome

/-- What has come of a credential by the outcome of its verification: its session was
checked, or the call is refused. -/
def Judged (number : Nat) (token : String) (failure? : Option AuthFault) :
    Except AuthFault Claims → Prop
  | .ok _ => Passes service trace number token ∨
      Misses service trace number token ∧ failure? = some (.invalidToken "token is not found")
  | .error fault => failure? = some fault

/-- What an answered call has done: it has verified its credential and checked the
session of it, and it has recorded a session exactly if it is answered with a pair. -/
structure Settles (number : Nat) (call : SessionCall) (answer : call.Answer) : Prop where
  judged : ∀ token, call.token? = some token → ∃ outcome,
    Verified service trace number token outcome ∧
      Judged service trace number token (call.failure? answer) outcome
  issued : Issued service trace number (call.pair? answer)

end Trace

/-! ## What the trace tells -/

namespace Trace

variable {service : TokenService} {trace now later : Trace SessionCall}
  {event : Event SessionCall} {number : Nat} {subject : AccountId} {session : SessionId}
  {time : Nat}

/-- An identifier that is made once is made at one place. -/
theorem place_of_made {early late front back : Trace SessionCall} {other : Event SessionCall}
    (distinct : (early ++ event :: late).made.Nodup)
    (split : early ++ event :: late = front ++ other :: back)
    (makes : event.made? = some session) (remakes : other.made? = some session) :
    front = early ∧ other = event ∧ back = late := by
  have twice : ∀ a b c : List SessionId, ¬ (a ++ session :: (b ++ session :: c)).Nodup := by
    intro a b c nodup
    exact (List.nodup_cons.mp (List.nodup_append.mp nodup).2.1).1 (by simp)
  rcases place_cases split with same | ⟨between, -, rfl⟩ | ⟨between, rfl, -⟩
  · exact same
  · simp only [made, List.filterMap_append, List.filterMap_cons, makes, remakes] at distinct
    exact absurd distinct (twice _ _ _)
  · simp only [made, List.append_assoc, List.cons_append, List.filterMap_append,
      List.filterMap_cons, makes, remakes] at distinct
    exact absurd distinct (twice _ _ _)

theorem Quiet.of_steps_eq_nil (unstepped : trace.steps number = []) : trace.Quiet number := by
  intro shown member
  rw [unstepped] at member
  contradiction

theorem Quiet.waits (quiet : now.Quiet number) (waits : now.Waits number later) :
    later.Quiet number := by
  intro shown member
  rw [waits.steps_eq] at member
  exact quiet shown member

theorem Quiet.takes (quiet : trace.Quiet number) {call : SessionCall} {before after : Site}
    (unasked : ¬ Event.Asks ⟨.takes number call, before, after⟩ .cacheSet) :
    Quiet (trace ++ [⟨.takes number call, before, after⟩]) number := by
  intro shown member
  rw [steps_append, steps_takes] at member
  rcases List.mem_append.mp member with early | last
  · exact quiet shown early
  · rw [List.mem_singleton.mp last]
    exact unasked

/-- In front of a step of its own a call was quiet, if all its steps but the last are. -/
theorem Quiet.of_snoc {asking other : Event SessionCall} {front back : Trace SessionCall}
    (quiet : now.Quiet number) (steps_eq : later.steps number = now.steps number ++ [asking])
    (split : later = front ++ other :: back) (own : other.act.stepOf? = some number) :
    front.Quiet number := by
  have whole : now.steps number ++ [asking] = front.steps number ++ other :: back.steps number := by
    rw [← steps_eq, split, steps_append]
    simp [steps, own]
  intro shown member
  apply quiet shown
  rcases snoc_cases whole with ⟨same, -, -⟩ | ⟨more, -, same⟩
  · rwa [← same]
  · rw [same]
    exact List.mem_append_left _ member

/-- A call that has not asked the cache to keep something records nothing. -/
theorem not_records_of_quiet (quiet : trace.Quiet number) :
    ¬ Records service trace event number subject session := by
  intro records
  obtain ⟨front, making, reading, asking, account, pair, steps, -, asks, -⟩ := records.signed
  exact quiet asking (by simp [steps]) asks

theorem unrecorded_of_quiet (quiet : trace.Quiet number) :
    trace.Unrecorded service number := by
  rintro early event late subject session rfl records
  apply not_records_of_quiet (fun shown member => ?_) records
  exact quiet shown (by rw [steps_append]; exact List.mem_append_left _ member)

@[simp] theorem made_append (early late : Trace SessionCall) :
    (early ++ late).made = early.made ++ late.made :=
  List.filterMap_append ..

@[simp] theorem made_begins (number : Nat) (call : SessionCall) (before after : Site) :
    made [⟨.begins number call, before, after⟩] = [] := rfl

@[simp] theorem made_drifts (before after : Site) : made [⟨.drifts, before, after⟩] = [] := rfl

theorem made_nodup_of_append {early late : Trace SessionCall}
    (distinct : (early ++ late).made.Nodup) : early.made.Nodup := by
  rw [made_append] at distinct
  exact (List.nodup_append.mp distinct).1

/-- Identifiers of different sessions are made at one step each. -/
theorem eq_of_made {first second : Event SessionCall} (distinct : trace.made.Nodup)
    (inside : first ∈ trace) (also : second ∈ trace) (makes : first.made? = some session)
    (remakes : second.made? = some session) : second = first := by
  obtain ⟨front, back, rfl⟩ := List.append_of_mem inside
  obtain ⟨early, late, same⟩ := List.append_of_mem also
  exact (place_of_made distinct same makes remakes).2.1

/-- A session whose identifier is made once is recorded once. -/
theorem records_unique {other : Event SessionCall} {elsewhere : Nat} {owner : AccountId}
    {early late front back : Trace SessionCall} (distinct : trace.made.Nodup)
    (split : trace = early ++ event :: late) (again : trace = front ++ other :: back)
    (records : Records service early event number subject session)
    (rerecords : Records service front other elsewhere owner session) :
    elsewhere = number ∧ front = early ∧ other = event := by
  obtain ⟨front₁, making₁, reading₁, asking₁, _, _, steps₁, makes₁, -⟩ := records.signed
  obtain ⟨front₂, making₂, reading₂, asking₂, _, _, steps₂, makes₂, -⟩ := rerecords.signed
  obtain ⟨_, own⟩ := records.own
  obtain ⟨_, also⟩ := rerecords.own
  have stepped : event.act.stepOf? = some number := by rw [own]; rfl
  have restepped : other.act.stepOf? = some elsewhere := by rw [also]; rfl
  have first : making₁ ∈ steps number early := by simp [steps₁]
  have second : making₂ ∈ steps elsewhere front := by simp [steps₂]
  rw [mem_steps] at first second
  have same : making₂ = making₁ := by
    apply eq_of_made distinct _ _ makes₁ makes₂
    · rw [split]
      exact List.mem_append_left _ first.1
    · rw [again]
      exact List.mem_append_left _ second.1
  subst same
  obtain rfl : elsewhere = number := Option.some.inj (second.2.symm.trans first.2)
  have whole : steps elsewhere trace =
      front₁ ++ making₂ :: (reading₁ :: asking₁ :: steps elsewhere (event :: late)) := by
    rw [split, steps_append, steps₁]
    simp
  have rewhole : steps elsewhere trace =
      front₂ ++ making₂ :: (reading₂ :: asking₂ :: steps elsewhere (other :: back)) := by
    rw [again, steps_append, steps₂]
    simp
  have once : (made (steps elsewhere trace)).Nodup :=
    distinct.sublist (List.filter_sublist.filterMap _)
  rw [whole] at once
  obtain ⟨rfl, -, rest⟩ := place_of_made once (whole.symm.trans rewhole) makes₁ makes₂
  injection rest with sameReading rest
  injection rest with sameAsking _
  obtain ⟨rfl, rfl⟩ := split_eq_of_steps (split.symm.trans again) stepped restepped
    (by rw [steps₁, steps₂, sameReading, sameAsking])
  exact ⟨rfl, rfl, rfl⟩

/-- What stands after an event stood before and was not ended, or is recorded by it. -/
theorem standing_snoc_iff : Standing service (trace ++ [event]) subject session time ↔
    Standing service trace subject session time ∧ ¬ event.Ends subject session ∨
      ∃ number, Records service trace event number subject session ∧
        event.before.clock = time := by
  constructor
  · rintro ⟨number, early, shown, late, split, records, at_, kept⟩
    rcases snoc_cases split with ⟨rfl, rfl, -⟩ | ⟨front, rfl, rfl⟩
    · exact .inr ⟨number, records, at_⟩
    · refine .inl ⟨⟨number, early, shown, front, rfl, records, at_, fun other member => ?_⟩, ?_⟩
      · exact kept other (List.mem_append_left _ member)
      · exact kept event (by simp)
  · rintro (⟨⟨number, early, shown, late, rfl, records, at_, kept⟩, lasts⟩ | ⟨number, records, at_⟩)
    · refine ⟨number, early, shown, late ++ [event], by simp, records, at_, ?_⟩
      intro other member
      rcases List.mem_append.mp member with among | last
      · exact kept other among
      · rw [List.mem_singleton.mp last]
        exact lasts
    · exact ⟨number, trace, event, [], rfl, records, at_, by simp⟩

/-- A session that was ended does not stand again. -/
theorem not_standing_of_ends {early between : Trace SessionCall} {before : Nat}
    (distinct : (early ++ event :: between).made.Nodup)
    (stood : early.Standing service subject session before) (ends : event.Ends subject session) :
    ¬ Standing service (early ++ event :: between) subject session time := by
  obtain ⟨number, front, record, back, rfl, records, -⟩ := stood
  rintro ⟨elsewhere, early, other, late, split, rerecords, -, kept⟩
  rw [List.append_assoc, List.cons_append] at distinct split
  obtain ⟨-, rfl, rfl⟩ := records_unique distinct rfl split records rerecords
  obtain ⟨-, rfl⟩ := List.cons.inj (List.append_cancel_left split)
  exact kept event (by simp) ends

/-- A session that stood is ended once. -/
theorem ends_unique {other : Event SessionCall} {before : Nat}
    {early late front back : Trace SessionCall} (distinct : trace.made.Nodup)
    (split : trace = early ++ event :: late) (again : trace = front ++ other :: back)
    (stood : early.Standing service subject session time) (ends : event.Ends subject session)
    (restood : front.Standing service subject session before)
    (reends : other.Ends subject session) : front = early ∧ other = event := by
  rcases place_cases (split.symm.trans again) with ⟨rfl, rfl, -⟩ | ⟨between, rfl, -⟩ |
    ⟨between, rfl, -⟩
  · exact ⟨rfl, rfl⟩
  · rw [again] at distinct
    exact absurd restood (not_standing_of_ends (made_nodup_of_append distinct) stood ends)
  · rw [split] at distinct
    exact absurd stood (not_standing_of_ends (made_nodup_of_append distinct) restood reends)

/-! ## Calls that have been answered -/

theorem Records.stepOf_eq (records : Records service trace event number subject session) :
    event.act.stepOf? = some number := by
  obtain ⟨call, own⟩ := records.own
  rw [own]
  rfl

/-- A call whose last step records nothing, and that was quiet in front of it. -/
theorem unrecorded_snoc
    (early : ∀ front shown back, trace = front ++ shown :: back →
      shown.act.stepOf? = some number → Quiet front number)
    (last : ∀ subject session, ¬ Records service trace event number subject session) :
    Unrecorded service (trace ++ [event]) number := by
  intro front shown back subject session split records
  rcases snoc_cases split with ⟨rfl, rfl, -⟩ | ⟨more, -, split⟩
  · exact last subject session records
  · exact not_records_of_quiet (early front shown more split records.stepOf_eq) records

/-- A step records one session only. -/
theorem Records.session_eq {owner : AccountId} {another : SessionId}
    (records : Records service trace event number subject session)
    (also : Records service trace event number owner another) : another = session := by
  obtain ⟨front, making, reading, asking, _, _, steps, makes, -⟩ := records.signed
  obtain ⟨before, remaking, rereading, reasking, _, _, resteps, remakes, -⟩ := also.signed
  obtain ⟨-, same⟩ := List.append_inj' (steps.symm.trans resteps) rfl
  obtain ⟨rfl, -⟩ := List.cons.inj same
  exact Option.some.inj (remakes.symm.trans makes)

theorem Unrecorded.waits (unrecorded : now.Unrecorded service number)
    (waits : now.Waits number later) : later.Unrecorded service number := by
  intro early event late subject session split records
  obtain ⟨more, split⟩ := waits.split split records.stepOf_eq
  exact unrecorded early event more subject session split records

theorem RecordsOnce.waits {pair : TokenPair} (once : now.RecordsOnce service number pair)
    (waits : now.Waits number later) : later.RecordsOnce service number pair := by
  obtain ⟨early, event, late, account, session, wall, rfl, records, signed, new, only⟩ := once
  obtain ⟨others, rfl, -⟩ := id waits
  refine ⟨early, event, late ++ others, account, session, wall, by simp, records, signed, new, ?_⟩
  intro front other back subject another split rerecords
  obtain ⟨more, split⟩ := waits.split split rerecords.stepOf_eq
  exact only front other more subject another split rerecords

theorem Issued.waits {pair? : Option TokenPair} (issued : now.Issued service number pair?)
    (waits : now.Waits number later) : later.Issued service number pair? := by
  cases pair? with
  | some pair => exact RecordsOnce.waits issued waits
  | none => exact Unrecorded.waits issued waits

theorem Checked.mono {token : String} {came : Event SessionCall → Claims → Prop}
    (checked : now.Checked service number token came) (grows : now <+: later) :
    later.Checked service number token came := by
  obtain ⟨early, check, late, claims, rfl, checks, known⟩ := checked
  obtain ⟨more, rfl⟩ := grows
  exact ⟨early, check, late ++ more, claims, by simp, checks, known⟩

theorem Verified.mono {token : String} {outcome : Except AuthFault Claims}
    (verified : now.Verified service number token outcome) (grows : now <+: later) :
    later.Verified service number token outcome := by
  obtain ⟨decoding, rest, steps, outcome⟩ := verified
  obtain ⟨more, whole⟩ := @steps_mono _ number _ _ grows
  rw [steps] at whole
  exact ⟨decoding, rest ++ more, whole.symm, outcome⟩

theorem Judged.mono {token : String} {failure? : Option AuthFault}
    {outcome : Except AuthFault Claims} (judged : now.Judged service number token failure? outcome)
    (grows : now <+: later) : later.Judged service number token failure? outcome := by
  cases outcome with
  | ok claims => exact judged.imp (·.mono grows) (And.imp_left (·.mono grows))
  | error fault => exact judged

theorem Settles.waits {call : SessionCall} {answer : call.Answer}
    (settles : now.Settles service number call answer) (waits : now.Waits number later) :
    later.Settles service number call answer where
  judged := by
    intro token presents
    obtain ⟨outcome, verified, known⟩ := settles.judged token presents
    exact ⟨outcome, verified.mono waits.isPrefix, known.mono waits.isPrefix⟩
  issued := settles.issued.waits waits

end Trace

end Gatehouse
