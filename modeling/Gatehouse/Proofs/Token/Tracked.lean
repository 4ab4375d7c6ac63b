import Gatehouse.Proofs.Token.Calls

/-!
# Sessions as the trace has them

Each step of a login, a renewal or a revocation keeps the cache in agreement with the
trace: the sessions that show are those that were recorded, are not ended and have not
expired. A step does so if it leaves the stores alone, checks the session of a credential
or records the session of a pair, and there are no other steps.
-/

namespace Gatehouse

variable {service : TokenService} {start site other : Site} {trace now : Trace SessionCall}
  {event : Event SessionCall} {call : SessionCall} {number : Nat} {subject : AccountId}
  {session : SessionId}

/-! ## The invariant -/

/-- The cache shows the sessions that stand. -/
structure Mirrors (service : TokenService) (trace : Trace SessionCall) (site : Site) : Prop where
  cacheAnswers : service.CacheAnswers site
  past : ∀ event ∈ trace, event.before.clock ≤ site.clock
  sessions : ∀ subject session instant, site.clock ≤ instant →
    ((site.cache.get? instant (Session.key subject session)).isSome = true ↔
      ∃ time, trace.Standing service subject session time ∧
        instant < time + service.refreshTtl.nanos)
  ends : ∀ early event late subject session, trace = early ++ event :: late →
    event.Ends subject session →
      (∃ time, early.Standing service subject session time) ∧ ∃ number token claims,
        Trace.Checks service early event number token claims ∧ subject = claims.subject ∧
          session = claims.session

theorem TokenService.Fresh.mirrors (fresh : service.Fresh start) : Mirrors service [] start where
  cacheAnswers := fresh.cacheAnswers
  past := by simp
  sessions := by
    intro subject session instant _
    rw [TtlCache.get?_of_absent (fresh.empty subject session)]
    constructor
    · nofun
    · rintro ⟨time, ⟨number, early, event, late, split, -⟩, -⟩
      simp at split
  ends := by simp

/-- A session shows the same where the clock and its entry are the same. -/
theorem Site.hasSession_iff_of_same (clock : other.clock = site.clock)
    (same : TtlCache.ShowsSame (Session.key subject session) other.clock site.cache other.cache) :
    other.HasSession subject session ↔ site.HasSession subject session := by
  rw [HasSession, HasSession, same other.clock (Nat.le_refl _), clock]

theorem not_ends_of_same {act : Act SessionCall}
    (clock : act.stepOf?.isSome = true → other.clock = site.clock)
    (same : TtlCache.ShowsSame (Session.key subject session) other.clock site.cache other.cache) :
    ¬ Event.Ends ⟨act, site, other⟩ subject session := fun ends =>
  ends.after ((Site.hasSession_iff_of_same (clock ends.step) same).mpr ends.before)

namespace Mirrors

theorem past_snoc (mirrors : Mirrors service trace site) (act : Act SessionCall)
    (later : site.clock ≤ other.clock) :
    ∀ event ∈ trace ++ [⟨act, site, other⟩], event.before.clock ≤ other.clock := by
  intro event member
  rcases List.mem_append.mp member with early | last
  · exact Nat.le_trans (mirrors.past event early) later
  · rw [List.mem_singleton.mp last]
    exact later

/-- What stands was recorded no later than now. -/
theorem time_le {time : Nat} (mirrors : Mirrors service trace site)
    (stands : trace.Standing service subject session time) : time ≤ site.clock := by
  obtain ⟨_, front, event, back, rfl, -, rfl, -⟩ := stands
  exact mirrors.past event (by simp)

/-- Events that end no session but that of a credential they check keep to that. -/
theorem ends_snoc (mirrors : Mirrors service trace site) {act : Act SessionCall}
    (named : ∀ subject session, Event.Ends ⟨act, site, other⟩ subject session →
      ∃ number token claims, Trace.Checks service trace ⟨act, site, other⟩ number token claims ∧
        subject = claims.subject ∧ session = claims.session) :
    ∀ early shown late subject session,
      trace ++ [⟨act, site, other⟩] = early ++ shown :: late → shown.Ends subject session →
        (∃ time, early.Standing service subject session time) ∧ ∃ number token claims,
          Trace.Checks service early shown number token claims ∧ subject = claims.subject ∧
            session = claims.session := by
  intro early shown late subject session split ends
  rcases Trace.snoc_cases split with ⟨rfl, rfl, -⟩ | ⟨front, -, rfl⟩
  · obtain ⟨time, stands, -⟩ :=
      (mirrors.sessions subject session site.clock (Nat.le_refl _)).mp ends.before
    exact ⟨⟨time, stands⟩, named subject session ends⟩
  · exact mirrors.ends early shown front subject session rfl ends

/-- What shows of a session that an event neither records nor touches. -/
theorem shows_iff_of_same (mirrors : Mirrors service trace site) {act : Act SessionCall}
    {instant : Nat} (later : site.clock ≤ other.clock) (after : other.clock ≤ instant)
    (clock : act.stepOf?.isSome = true → other.clock = site.clock)
    (same : TtlCache.ShowsSame (Session.key subject session) other.clock site.cache other.cache)
    (unrecorded : ∀ number, ¬ trace.Records service ⟨act, site, other⟩ number subject session) :
    (other.cache.get? instant (Session.key subject session)).isSome = true ↔
      ∃ time, Trace.Standing service (trace ++ [⟨act, site, other⟩]) subject session time ∧
        instant < time + service.refreshTtl.nanos := by
  rw [same instant after, mirrors.sessions subject session instant (Nat.le_trans later after)]
  apply exists_congr
  intro time
  rw [Trace.standing_snoc_iff]
  simp [not_ends_of_same clock same, unrecorded]

/-- Events that neither record a session nor touch the entry of one. -/
theorem untouched (mirrors : Mirrors service trace site) {act : Act SessionCall}
    (later : site.clock ≤ other.clock) (answers : service.CacheAnswers other)
    (clock : act.stepOf?.isSome = true → other.clock = site.clock)
    (same : ∀ subject session,
      TtlCache.ShowsSame (Session.key subject session) other.clock site.cache other.cache)
    (unrecorded : ∀ number subject session,
      ¬ trace.Records service ⟨act, site, other⟩ number subject session) :
    Mirrors service (trace ++ [⟨act, site, other⟩]) other where
  cacheAnswers := answers
  past := mirrors.past_snoc act later
  sessions := fun subject session _ after =>
    mirrors.shows_iff_of_same later after clock (same subject session) fun number =>
      unrecorded number subject session
  ends := mirrors.ends_snoc fun subject session ends =>
    absurd ends (not_ends_of_same clock (same subject session))

/-- Steps that leave the stores alone and record no session. -/
theorem stepped (mirrors : Mirrors service trace site) (same : SameStores site other)
    (unrecorded : ∀ subject session,
      ¬ trace.Records service ⟨.takes number call, site, other⟩ number subject session) :
    Mirrors service (trace ++ [⟨.takes number call, site, other⟩]) other := by
  apply mirrors.untouched (Nat.le_of_eq same.clock.symm)
  · constructor
    · rw [same.conditions]
      exact mirrors.cacheAnswers.set
    · rw [same.conditions]
      exact mirrors.cacheAnswers.delete
  · intro _
    exact same.clock
  · intro subject session
    rw [same.cache]
    exact .refl _ _ _
  · intro elsewhere subject session records
    obtain ⟨_, own⟩ := records.own
    obtain ⟨rfl, -⟩ := Act.takes.inj own
    exact unrecorded subject session records

/-- A store is asked for something. -/
theorem countCall (mirrors : Mirrors service trace site) (number : Nat) (call : SessionCall)
    (backend : Backend) :
    Mirrors service (trace ++ [⟨.takes number call, site, site.countCall backend⟩])
      (site.countCall backend) := by
  have same : SameStores site (site.countCall backend) := ⟨rfl, rfl, rfl, rfl⟩
  apply mirrors.stepped same
  intro subject session records
  have counted : Event.Asks ⟨.takes number call, site, site.countCall backend⟩ backend := by simp
  exact Event.not_asks_of_same records.calls counted

/-- A call that has not asked the cache to keep something acts on no store. -/
theorem quietly (mirrors : Mirrors service trace site) (call : SessionCall)
    (same : SameStores site other) (calls : other.calls = site.calls)
    (quiet : trace.Quiet number) :
    Mirrors service (trace ++ [⟨.takes number call, site, other⟩]) other ∧
      Trace.Quiet (trace ++ [⟨.takes number call, site, other⟩]) number :=
  ⟨mirrors.stepped same fun _ _ => Trace.not_records_of_quiet quiet,
    quiet.takes (Event.not_asks_of_same calls)⟩

/-- A call checks the session of its credential, which is over then. -/
theorem checked (mirrors : Mirrors service trace site) {token : String} {claims : Claims}
    {cache : TtlCache}
    (taken : cache = site.cache.delete (Session.key claims.subject claims.session))
    (checks : trace.Checks service ⟨.takes number call, site, { site with cache := cache }⟩ number
      token claims) (quiet : trace.Quiet number) :
    Mirrors service (trace ++ [⟨.takes number call, site, { site with cache := cache }⟩])
      { site with cache := cache } := by
  subst taken
  have others : ∀ {subject session}, Session.key claims.subject claims.session ≠
      Session.key subject session → TtlCache.ShowsSame (Session.key subject session) site.clock
        site.cache (site.cache.delete (Session.key claims.subject claims.session)) :=
    fun apart => TtlCache.showsSame_delete apart _ _
  have unrecorded : ∀ elsewhere subject session, ¬ trace.Records service ⟨.takes number call, site,
      { site with cache := site.cache.delete (Session.key claims.subject claims.session) }⟩
        elsewhere subject session := by
    intro elsewhere subject session records
    obtain ⟨_, own⟩ := records.own
    obtain ⟨rfl, -⟩ := Act.takes.inj own
    exact Trace.not_records_of_quiet quiet records
  constructor
  · exact ⟨mirrors.cacheAnswers.set, mirrors.cacheAnswers.delete⟩
  · exact mirrors.past_snoc _ (Nat.le_refl _)
  · intro subject session instant after
    by_cases same : Session.key claims.subject claims.session = Session.key subject session
    · obtain ⟨rfl, rfl⟩ := Session.key_inj same
      rw [TtlCache.get?_delete]
      constructor
      · nofun
      · rintro ⟨time, stands, fresh⟩
        rcases Trace.standing_snoc_iff.mp stands with ⟨stands, lasts⟩ | ⟨elsewhere, records, -⟩
        · have shows := (mirrors.sessions _ _ site.clock (Nat.le_refl _)).mpr
            ⟨time, stands, Nat.lt_of_le_of_lt after fresh⟩
          exact absurd ⟨rfl, shows, by simp [Site.HasSession]⟩ lasts
        · exact absurd records (unrecorded _ _ _)
    · exact mirrors.shows_iff_of_same (Nat.le_refl _) after (fun _ => rfl) (others same)
        fun elsewhere => unrecorded elsewhere subject session
  · apply mirrors.ends_snoc
    intro subject session ends
    by_cases same : Session.key claims.subject claims.session = Session.key subject session
    · obtain ⟨rfl, rfl⟩ := Session.key_inj same
      exact ⟨number, token, claims, checks, rfl, rfl⟩
    · exact absurd ends (not_ends_of_same (fun _ => rfl) (others same))

/-- What is recorded stands from then on, and shows for its time. -/
theorem shows_iff_of_recorded (mirrors : Mirrors service trace site) {instant : Nat}
    {act : Act SessionCall}
    (records : trace.Records service ⟨act, site, other⟩ number subject session) :
    (other.cache.get? instant (Session.key subject session)).isSome = true ↔
      ∃ time, Trace.Standing service (trace ++ [⟨act, site, other⟩]) subject session time ∧
        instant < time + service.refreshTtl.nanos := by
  have shown : other.cache.get? instant (Session.key subject session) =
      if instant < site.clock + service.refreshTtl.nanos then some session.text else none :=
    TtlCache.get?_of_set records.done
  rw [shown]
  constructor
  · intro shows
    refine ⟨site.clock, Trace.standing_snoc_iff.mpr (.inr ⟨number, records, rfl⟩), ?_⟩
    refine Decidable.byContradiction fun expired => ?_
    rw [if_neg expired] at shows
    contradiction
  · rintro ⟨time, stands, fresh⟩
    have early : time ≤ site.clock := by
      rcases Trace.standing_snoc_iff.mp stands with ⟨stands, -⟩ | ⟨_, -, rfl⟩
      · exact mirrors.time_le stands
      · exact Nat.le_refl _
    rw [if_pos (by omega)]
    rfl

/-- A session that is recorded ends none, not even itself where it was recorded before. -/
theorem not_ends_of_recorded (mirrors : Mirrors service trace site) {act : Act SessionCall}
    (clock : other.clock = site.clock)
    (records : trace.Records service ⟨act, site, other⟩ number subject session) :
    ¬ Event.Ends ⟨act, site, other⟩ subject session := by
  intro ends
  obtain ⟨time, stands, fresh⟩ :=
    (mirrors.sessions subject session site.clock (Nat.le_refl _)).mp ends.before
  have early := mirrors.time_le stands
  apply ends.after
  rw [Site.HasSession, TtlCache.get?_of_set records.done, if_pos]
  · rfl
  · change other.clock < site.clock + _
    omega

/-- A call records the session of a pair that was signed. -/
theorem recorded (mirrors : Mirrors service trace site) {cache : TtlCache}
    (records : trace.Records service ⟨.takes number call, site, { site with cache := cache }⟩ number
      subject session) :
    Mirrors service (trace ++ [⟨.takes number call, site, { site with cache := cache }⟩])
      { site with cache := cache } := by
  -- An entry that is not set is left alone.
  have others : ∀ {owner another}, (∀ elsewhere, ¬ trace.Records service
      ⟨.takes number call, site, { site with cache := cache }⟩ elsewhere owner another) →
        TtlCache.ShowsSame (Session.key owner another) site.clock site.cache cache := by
    intro owner another unrecorded
    refine TtlCache.showsSame_of_set (fun same => ?_) records.done
    obtain ⟨rfl, rfl⟩ := Session.key_inj same
    exact unrecorded number records
  constructor
  · exact ⟨mirrors.cacheAnswers.set, mirrors.cacheAnswers.delete⟩
  · exact mirrors.past_snoc _ (Nat.le_refl _)
  · intro owner another instant after
    by_cases unrecorded : ∃ elsewhere, trace.Records service
        ⟨.takes number call, site, { site with cache := cache }⟩ elsewhere owner another
    · obtain ⟨elsewhere, also⟩ := unrecorded
      exact mirrors.shows_iff_of_recorded also
    · have none := not_exists.mp unrecorded
      exact mirrors.shows_iff_of_same (Nat.le_refl _) after (fun _ => rfl) (others none) none
  · apply mirrors.ends_snoc
    intro owner another ends
    by_cases unrecorded : ∃ elsewhere, trace.Records service
        ⟨.takes number call, site, { site with cache := cache }⟩ elsewhere owner another
    · obtain ⟨elsewhere, also⟩ := unrecorded
      exact absurd ends (mirrors.not_ends_of_recorded rfl also)
    · exact absurd ends
        (not_ends_of_same (fun _ => rfl) (others (not_exists.mp unrecorded)))

/-- A session that is recorded did not show before, whoever it may be of. -/
theorem new_of_records {owner : AccountId} (mirrors : Mirrors service trace site)
    (distinct : (trace ++ [event]).made.Nodup)
    (records : trace.Records service event number owner session) :
    ¬ site.HasSession subject session := by
  intro shows
  obtain ⟨time, ⟨elsewhere, front, other, back, rfl, rerecords, -⟩, -⟩ :=
    (mirrors.sessions subject session site.clock (Nat.le_refl _)).mp shows
  have again : front ++ other :: back ++ [event] = front ++ other :: (back ++ [event]) := by simp
  obtain ⟨-, same, -⟩ := Trace.records_unique distinct rfl again records rerecords
  simp at same

/-- A call that asks the cache once records its session and no other one. -/
theorem recordsOnce (mirrors : Mirrors service trace site) {act : Act SessionCall}
    {account : Account} {pair : TokenPair} {wall : Moment}
    (distinct : (Trace.made (trace ++ [⟨act, site, other⟩])).Nodup)
    (records : trace.Records service ⟨act, site, other⟩ number account.id session)
    (signed : service.signPair account session wall = .ok pair)
    (early : ∀ front shown back, trace = front ++ shown :: back →
      shown.act.stepOf? = some number → Trace.Quiet front number) :
    Trace.RecordsOnce service (trace ++ [⟨act, site, other⟩]) number pair := by
  have new := @new_of_records _ _ _ _ _ account.id _ _ mirrors distinct records
  refine ⟨trace, _, [], account, session, wall, rfl, records, signed, new, ?_⟩
  intro front shown back subject another split rerecords
  rcases Trace.snoc_cases split with ⟨rfl, rfl, -⟩ | ⟨more, -, split⟩
  · obtain rfl := records.session_eq rerecords
    refine ⟨rfl, rfl, Decidable.byContradiction fun apart => new ?_, rfl⟩
    -- Recorded for both accounts, the session would have shown for either.
    have keys : Session.key account.id another ≠ Session.key subject another :=
      fun same => apart (Session.key_inj same).1.symm
    rw [Site.HasSession, TtlCache.get?_of_set_elsewhere keys records.done rerecords.done]
    rfl
  · exact absurd rerecords
      (Trace.not_records_of_quiet (early front shown more split rerecords.stepOf_eq))

end Mirrors

/-! ## The parts of a call -/

namespace TokenService

variable {token : String} {claims : Claims} {account : Account} {pair : TokenPair}

theorem follows_decode (begun : now.steps number = []) :
    (service.decode token).toRoutine.Follows number call (·.made.Nodup) (Mirrors service)
      (fun later outcome => later.Quiet number ∧ ∃ decoding, later.steps number = [decoding] ∧
        service.signer.verify decoding.before.wall.seconds token = outcome) now := by
  apply Routine.follows_observe
  intro later site waits mirrors _
  have quiet : later.Quiet number := (Trace.Quiet.of_steps_eq_nil begun).waits waits
  obtain ⟨mirrored, silent⟩ := mirrors.quietly call ⟨rfl, rfl, rfl, rfl⟩ rfl quiet
  refine ⟨mirrored, silent, ⟨.takes number call, site, site⟩, ?_, rfl⟩
  rw [Trace.steps_append, waits.steps_eq, begun, Trace.steps_takes]
  rfl

/-- A call ends the session of its credential, or the session did not show. -/
theorem follows_endSession (tracks : service.sessions.tracks = true)
    (presents : call.token? = some token) (quiet : now.Quiet number)
    {decoding : Event SessionCall} (steps : now.steps number = [decoding])
    (verified : service.signer.verify decoding.before.wall.seconds token = .ok claims) :
    (service.endSession claims).toRoutine.Follows number call (·.made.Nodup) (Mirrors service)
      (fun later outcome => later.Quiet number ∧
        match outcome with
        | .ok _ => later.Passes service number token
        | .error fault => later.Misses service number token ∧
            fault = .invalidToken "token is not found") now := by
  rw [endSession, if_pos tracks]
  apply Task.follows_mapFault_bind
  case post =>
    exact fun later outcome => later.Quiet number ∧ ∃ existed, outcome = .ok existed ∧
      if existed then later.Passes service number token else later.Misses service number token
  case first =>
    apply Routine.follows_callStore_of_answers fun _ _ mirrors => mirrors.cacheAnswers.delete
    · intro later site waits mirrors _
      exact mirrors.countCall number call .cacheDelete
    · intro asking called later site waits further mirrors _
      simp only [Session.Registry.consume, tracks, if_true]
      have still : later.Quiet number :=
        ((quiet.waits waits).takes (by simp)).waits further
      have checks : later.Checks service ⟨.takes number call, site,
          { site with cache := site.cache.delete (Session.key claims.subject claims.session) }⟩
            number token claims := by
        refine ⟨⟨call, presents, rfl⟩, decoding,
          ⟨.takes number call, called, called.countCall .cacheDelete⟩, ?_, verified⟩
        rw [further.steps_eq, Trace.steps_append, waits.steps_eq, steps, Trace.steps_takes]
        rfl
      refine ⟨mirrors.checked rfl checks still, still.takes (Event.not_asks_of_same rfl), _,
        rfl, ?_⟩
      split
      · next shows =>
          exact ⟨later, _, [], claims, rfl, checks, rfl, shows, by simp [Site.HasSession]⟩
      · next hidden => exact ⟨later, _, [], claims, rfl, checks, hidden⟩
  case rest =>
    rintro existed later ⟨still, _, same, known⟩
    obtain rfl := Except.ok.inj same
    cases existed with
    | true => exact ⟨still, known⟩
    | false => exact ⟨still, known, rfl⟩
  case failed =>
    rintro fault later ⟨-, _, same, -⟩
    injection same

/-- A call looks for an account. -/
theorem follows_findAccount (operation : String) (find : AccountStore → Option Account)
    (quiet : now.Quiet number) :
    (service.findAccount operation find).toRoutine.Follows number call (·.made.Nodup)
      (Mirrors service) (fun later _ => later.Quiet number) now := by
  have asked : (callStore operation service.timeout .accounts fun site =>
      (.ok (find site.accounts), site)).toRoutine.Follows number call (·.made.Nodup)
        (Mirrors service) (fun later _ => later.Quiet number) now := by
    apply Routine.follows_callStore
    · intro later site waits mirrors _
      exact mirrors.countCall number call .accounts
    · intro asking called later site waits asked further mirrors woken answer came _
      have still : later.Quiet number :=
        ((quiet.waits waits).takes (by simp)).waits further
      have same : answer.2 = site := by
        rw [came]
        rcases storeAnswer_cases operation service.timeout called.clock
          (called.conditions .accounts) (fun site => (.ok (find site.accounts), site)) site with
          ⟨fault, failed⟩ | answered
        · rw [failed]
        · rw [answered]
      rw [same]
      exact mirrors.quietly call ⟨rfl, rfl, rfl, rfl⟩ rfl still
  apply Task.follows_mapFault_bind asked
  · intro found later still
    cases found with
    | some account => exact still
    | none => exact still
  · intro fault later still
    exact still

/-! ## Issuing a pair -/

theorem follows_freshSession (quiet : now.Quiet number) :
    freshSession.Follows number call (·.made.Nodup) (Mirrors service)
      (fun later session => later.Quiet number ∧ ∃ front making,
        later.steps number = front ++ [making] ∧ making.made? = some session) now := by
  apply Routine.follows_atomically
  intro later site waits mirrors _
  have same : SameStores site (site.freshIdentifier .session).2 := ⟨rfl, rfl, rfl, rfl⟩
  obtain ⟨mirrored, silent⟩ := mirrors.quietly call same rfl (quiet.waits waits)
  refine ⟨mirrored, silent, later.steps number,
    ⟨.takes number call, site, (site.freshIdentifier .session).2⟩, ?_, ?_⟩
  · rw [Trace.steps_append, Trace.steps_takes]
  · exact if_pos ⟨rfl, rfl⟩

theorem follows_wall (quiet : now.Quiet number) {front : List (Event SessionCall)}
    (steps : now.steps number = front) :
    (Routine.observe Site.wall).Follows number call (·.made.Nodup) (Mirrors service)
      (fun later wall => later.Quiet number ∧ ∃ reading,
        later.steps number = front ++ [reading] ∧ reading.before.wall = wall) now := by
  apply Routine.follows_observe
  intro later site waits mirrors _
  obtain ⟨mirrored, silent⟩ :=
    mirrors.quietly call ⟨rfl, rfl, rfl, rfl⟩ rfl (quiet.waits waits)
  refine ⟨mirrored, silent, ⟨.takes number call, site, site⟩, ?_, rfl⟩
  rw [Trace.steps_append, waits.steps_eq, steps, Trace.steps_takes]

/-- A call records the session of a pair that was signed, or nothing. -/
theorem follows_recordSession (tracks : service.sessions.tracks = true)
    (quiet : now.Quiet number) {front : List (Event SessionCall)}
    {making reading : Event SessionCall}
    (steps : now.steps number = front ++ [making, reading]) (makes : making.made? = some session)
    (signed : service.signPair account session reading.before.wall = .ok pair) :
    (service.recordSession account.id session).toRoutine.Follows number call (·.made.Nodup)
      (Mirrors service) (fun later outcome => later.Issued service number
        (outcome.toOption.map fun _ => pair)) now := by
  rw [recordSession, if_pos tracks]
  apply Task.follows_mapFault
  case post =>
    exact fun later outcome => later.Issued service number (outcome.toOption.map fun _ => pair)
  case follows =>
    apply Routine.follows_callStore_of_answers fun _ _ mirrors => mirrors.cacheAnswers.set
    · intro later site waits mirrors _
      exact mirrors.countCall number call .cacheSet
    · intro asking called later site waits further mirrors distinct
      have own : later.steps number = now.steps number ++
          [⟨.takes number call, called, called.countCall .cacheSet⟩] := by
        rw [further.steps_eq, Trace.steps_append, waits.steps_eq, Trace.steps_takes]
      have early : ∀ front shown back, later = front ++ shown :: back →
          shown.act.stepOf? = some number → Trace.Quiet front number :=
        fun front shown back split => quiet.of_snoc own split
      cases done : service.sessions.record site.cache site.clock account.id session
          service.refreshTtl with
      | error fault =>
          rw [Session.Registry.record, if_pos tracks] at done
          have unrecorded : ∀ subject another,
              ¬ later.Records service ⟨.takes number call, site, site⟩ number subject another :=
            fun subject another records => TtlCache.set_ne_ok_of_error done records.done
          exact ⟨mirrors.stepped ⟨rfl, rfl, rfl, rfl⟩ unrecorded,
            Trace.unrecorded_snoc early unrecorded⟩
      | ok cache =>
          simp only [done] at distinct
          rw [Session.Registry.record, if_pos tracks] at done
          have records : later.Records service ⟨.takes number call, site,
              { site with cache := cache }⟩ number account.id session := by
            refine ⟨⟨call, rfl⟩, ?_, rfl, done⟩
            refine ⟨front, making, reading,
              ⟨.takes number call, called, called.countCall .cacheSet⟩, account, pair, ?_, makes,
              by simp, rfl, signed⟩
            rw [own, steps, List.append_assoc]
            rfl
          exact ⟨mirrors.recorded records, mirrors.recordsOnce distinct records signed early⟩
  case implies =>
    intro outcome later issued
    cases outcome with
    | ok value => exact issued
    | error fault => exact issued

/-- A call that issues a pair records one session, and a call that fails to does not. -/
theorem follows_issue (tracks : service.sessions.tracks = true) (quiet : now.Quiet number) :
    (service.issue account).toRoutine.Follows number call (·.made.Nodup) (Mirrors service)
      (fun later outcome => later.Issued service number outcome.toOption) now := by
  apply Task.follows_lift_bind (follows_freshSession quiet)
  rintro session later ⟨still, front, making, steps, makes⟩
  apply Task.follows_lift_bind (follows_wall still steps)
  rintro wall further ⟨silent, reading, steps, rfl⟩
  rw [List.append_assoc] at steps
  have prepared : (Task.ofRoutine (.done (service.signPair account session reading.before.wall)) :
      Task AuthFault TokenPair).toRoutine.Follows number call (·.made.Nodup) (Mirrors service)
        (fun last outcome => last = further ∧
          service.signPair account session reading.before.wall = outcome) further :=
    ⟨rfl, rfl⟩
  apply Task.follows_bind prepared
  · rintro pair _ ⟨rfl, signed⟩
    apply Task.follows_bind (follows_recordSession tracks silent steps makes signed)
    · intro _ last issued
      exact issued
    · intro fault last unrecorded
      exact unrecorded
  · rintro fault _ ⟨rfl, -⟩
    exact Trace.unrecorded_of_quiet silent

end TokenService

end Gatehouse
