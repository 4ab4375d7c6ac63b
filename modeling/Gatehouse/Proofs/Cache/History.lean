import Gatehouse.Proofs.Cache.Entries

/-!
# A cache goes by its history

An entry that has expired stays in the cache until something is set, under whatever key.
None of this shows: what a cache answers depends on what has been asked of it before, and
when, as if no entry were ever dropped. A key shows the value that was last written under
it, unless it was deleted since, up to the instant at which that value expires.
-/

namespace Gatehouse

/-- What a cache can be asked for. -/
inductive CacheCommand where
  | set (key value : String) (ttl : Span)
  | setObject (key : String) (written : Except String Json) (ttl : Span)
  | get (key : String)
  | exists_ (key : String)
  | delete (key : String)
  | size

/-- What a cache answers. -/
inductive CacheReply where
  | done (outcome : Except StoreFault Unit)
  | value (found : Option String)
  | flag (holds : Bool)
  | count (entries : Nat)

/-- A command with the instant at which it is given. -/
structure CacheCall where
  time : Nat
  command : CacheCommand

namespace TtlCache

/-- The reply to a command that sets something, and the cache behind it. -/
def settled (cache : TtlCache) : Except StoreFault TtlCache → CacheReply × TtlCache
  | .ok after => (.done (.ok ()), after)
  | .error fault => (.done (.error fault), cache)

/-- The reply to a call, and the cache behind it. -/
def perform (cache : TtlCache) (call : CacheCall) : CacheReply × TtlCache :=
  match call.command with
  | .set key value ttl => cache.settled (cache.set call.time key value ttl)
  | .setObject key written ttl => cache.settled (cache.setObject call.time key written ttl)
  | .get key => (.value (cache.get? call.time key), cache)
  | .exists_ key => (.flag (cache.exists_ call.time key), cache)
  | .delete key => (.flag (cache.exists_ call.time key), cache.delete key)
  | .size => (.count (cache.size call.time), cache)

/-- The cache behind some calls. -/
def behind (cache : TtlCache) (calls : List CacheCall) : TtlCache :=
  calls.foldl (fun cache call => (cache.perform call).2) cache

end TtlCache

/-! ## What a history shows -/

namespace CacheCommand

/-- The key and the text that a command asks to be kept, and for how long. -/
def puts? : CacheCommand → Option (String × String × Span)
  | .set key value ttl => some (key, value, ttl)
  | .setObject key (.ok json) ttl => some (key, json.encode, ttl)
  | _ => none

end CacheCommand

namespace CacheCall

variable (call : CacheCall) (key : String)

/-- A call writes a value: it asks for that, and the clock can show when it expires. -/
structure Writes (value : String) (ttl : Span) : Prop where
  puts : call.command.puts? = some (key, value, ttl)
  fits : call.time + ttl.nanos < TtlCache.endOfTime

/-- A call decides what there is under a key from then on. -/
def Concerns : Prop := (∃ value ttl, call.Writes key value ttl) ∨ call.command = .delete key

end CacheCall

/-- The calls of a cache, the first one first. -/
abbrev CacheHistory := List CacheCall

namespace CacheHistory

variable (history : CacheHistory)

/-- The last call that concerns a key has written a value under it. -/
def LastWrites (key value : String) (time : Nat) (ttl : Span) : Prop :=
  ∃ early call late, history = early ++ call :: late ∧ call.Writes key value ttl ∧
    call.time = time ∧ ∀ later ∈ late, ¬ later.Concerns key

/-- A key shows a value at an instant: it was the last to be written and has not expired. -/
def Shows (now : Nat) (key value : String) : Prop :=
  ∃ time ttl, history.LastWrites key value time ttl ∧ now < time + ttl.nanos

/-- How a call is answered behind a history. -/
def Answers (now : Nat) : CacheCommand → CacheReply → Prop
  | .setObject _ (.error text) _, reply => reply = .done (.error (.serialization text))
  | .set _ _ ttl, reply | .setObject _ (.ok _) ttl, reply =>
      reply = .done (if now + ttl.nanos < TtlCache.endOfTime then .ok ()
        else .error (.cache ("ttl " ++ ttl.text ++ " out of range")))
  | .get key, reply => ∃ found, reply = .value found ∧
      ∀ value, found = some value ↔ history.Shows now key value
  | .exists_ key, reply | .delete key, reply => ∃ holds, reply = .flag holds ∧
      (holds = true ↔ ∃ value, history.Shows now key value)
  | .size, reply => ∃ keys : List String, reply = .count keys.length ∧ keys.Nodup ∧
      ∀ key, key ∈ keys ↔ ∃ value, history.Shows now key value

variable {history} {call : CacheCall} {key value : String} {ttl : Span} {now : Nat}

/-- A place in a history that has just grown is that of the last call or an earlier one. -/
theorem snoc_cases {early late : CacheHistory} {shown : CacheCall}
    (split : history ++ [call] = early ++ shown :: late) :
    (shown = call ∧ late = []) ∨
      ∃ front, late = front ++ [call] ∧ history = early ++ shown :: front := by
  rcases late.eq_nil_or_concat with rfl | ⟨front, last, rfl⟩
  · have final := (List.append_inj' split rfl).2
    exact .inl ⟨(List.singleton_inj.mp final).symm, rfl⟩
  · rw [List.concat_eq_append, ← List.cons_append, ← List.append_assoc] at split
    obtain ⟨same, final⟩ := List.append_inj' split rfl
    exact .inr ⟨front, by rw [List.concat_eq_append, List.singleton_inj.mp final], same⟩

/-- What is written is shown until it expires. -/
theorem shows_snoc_of_writes (writes : call.Writes key value ttl) {other : String} :
    Shows (history ++ [call]) now key other ↔ other = value ∧ now < call.time + ttl.nanos := by
  constructor
  · rintro ⟨_, lasting, ⟨early, shown, late, split, rewrites, rfl, quiet⟩, live⟩
    rcases snoc_cases split with ⟨rfl, -⟩ | ⟨front, rfl, -⟩
    · have same := rewrites.puts
      rw [writes.puts] at same
      cases same
      exact ⟨rfl, live⟩
    · exact absurd (.inl ⟨value, ttl, writes⟩) (quiet call (by simp))
  · rintro ⟨rfl, live⟩
    exact ⟨call.time, ttl, ⟨history, call, [], rfl, writes, rfl, by simp⟩, live⟩

/-- What is deleted is not shown. -/
theorem not_shows_snoc_of_deletes (deletes : call.command = .delete key) :
    ¬ Shows (history ++ [call]) now key value := by
  rintro ⟨_, _, ⟨early, shown, late, split, writes, rfl, quiet⟩, -⟩
  rcases snoc_cases split with ⟨rfl, -⟩ | ⟨front, rfl, -⟩
  · have puts := writes.puts
    rw [deletes] at puts
    contradiction
  · exact quiet call (by simp) (.inr deletes)

/-- A call that does not concern a key leaves what it shows. -/
theorem shows_snoc_iff (apart : ¬ call.Concerns key) :
    Shows (history ++ [call]) now key value ↔ history.Shows now key value := by
  constructor
  · rintro ⟨time, ttl, ⟨early, shown, late, split, writes, at_, quiet⟩, live⟩
    rcases snoc_cases split with ⟨rfl, -⟩ | ⟨front, rfl, rfl⟩
    · exact absurd (.inl ⟨value, ttl, writes⟩) apart
    · exact ⟨time, ttl, ⟨early, shown, front, rfl, writes, at_, fun later member =>
        quiet later (List.mem_append_left _ member)⟩, live⟩
  · rintro ⟨time, ttl, ⟨early, shown, late, rfl, writes, at_, quiet⟩, live⟩
    refine ⟨time, ttl, ⟨early, shown, late ++ [call], by simp, writes, at_, ?_⟩, live⟩
    intro later member
    rcases List.mem_append.mp member with before | last
    · exact quiet later before
    · rw [List.mem_singleton.mp last]
      exact apart

theorem not_shows_nil : ¬ Shows [] now key value := by
  rintro ⟨_, _, ⟨early, call, late, split, -⟩, -⟩
  simp at split

end CacheHistory

/-! ## What a call does to the cache -/

namespace TtlCache

variable {cache after : TtlCache} {history : CacheHistory} {call : CacheCall}
  {key value : String} {ttl : Span} {now instant : Nat}

/-- From an instant on, the cache shows what the history shows. -/
def Reflects (cache : TtlCache) (now : Nat) (history : CacheHistory) : Prop :=
  ∀ key instant value, now ≤ instant →
    (cache.get? instant key = some value ↔ history.Shows instant key value)

theorem Reflects.later (reflects : cache.Reflects now history) (passes : now ≤ instant) :
    cache.Reflects instant history :=
  fun key elsewhen value since => reflects key elsewhen value (Nat.le_trans passes since)

theorem reflects_empty : empty.Reflects now [] := by
  intro key instant value _
  rw [get?_of_absent rfl]
  exact iff_of_false nofun CacheHistory.not_shows_nil

theorem set_eq_ok_iff : (∃ after, cache.set now key value ttl = .ok after) ↔
    now + ttl.nanos < endOfTime := by
  rw [set]
  split
  · next fits => exact iff_of_true ⟨_, rfl⟩ fits
  · next late =>
      refine iff_of_false ?_ late
      rintro ⟨after, same⟩
      injection same

/-- A call that fails leaves the cache as it was. -/
theorem perform_of_failed {fault : StoreFault}
    (failed : (cache.perform call).1 = .done (.error fault)) : (cache.perform call).2 = cache := by
  have put : ∀ outcome, (cache.settled outcome).1 = .done (.error fault) →
      (cache.settled outcome).2 = cache := by
    intro outcome refused
    cases outcome with
    | ok after => cases refused
    | error other => rfl
  rcases call with ⟨time, command⟩
  cases command with
  | set key value ttl => exact put _ failed
  | setObject key written ttl => exact put _ failed
  | get | exists_ | delete | size => cases failed

/-- What is set or deleted, or dropped on the occasion, shows under no other key. -/
theorem showsSame_perform (apart : ¬ call.Concerns key) :
    ShowsSame key call.time cache (cache.perform call).2 := by
  have put : ∀ elsewhere value ttl, call.command.puts? = some (elsewhere, value, ttl) →
      ShowsSame key call.time cache
        (cache.settled (cache.set call.time elsewhere value ttl)).2 := by
    intro elsewhere value ttl puts
    cases done : cache.set call.time elsewhere value ttl with
    | error fault => exact .refl _ _ _
    | ok after =>
        refine showsSame_of_set ?_ done
        rintro rfl
        exact apart (.inl ⟨value, ttl, puts, set_eq_ok_iff.mp ⟨after, done⟩⟩)
  rcases call with ⟨time, command⟩
  cases command with
  | set elsewhere value ttl => exact put elsewhere value ttl rfl
  | setObject elsewhere written ttl =>
      cases written with
      | ok json => exact put elsewhere json.encode ttl rfl
      | error text => exact .refl _ _ _
  | get elsewhere => exact .refl _ _ _
  | exists_ elsewhere => exact .refl _ _ _
  | delete elsewhere =>
      refine showsSame_delete ?_ time cache
      rintro rfl
      exact apart (.inr rfl)
  | size => exact .refl _ _ _

/-- A call that writes sets the value. -/
theorem set_of_writes (writes : call.Writes key value ttl) :
    cache.set call.time key value ttl = .ok (cache.perform call).2 := by
  have settles : (cache.perform call).2 =
      (cache.settled (cache.set call.time key value ttl)).2 := by
    have puts := writes.puts
    rcases call with ⟨time, command⟩
    cases command with
    | set other text lasting =>
        cases puts
        rfl
    | setObject other written lasting =>
        cases written with
        | ok json =>
            cases puts
            rfl
        | error text => contradiction
    | get | exists_ | delete | size => contradiction
  obtain ⟨after, done⟩ := set_eq_ok_iff.mpr writes.fits
  rw [settles, done]
  rfl

/-- Every call keeps the cache to its history. -/
theorem Reflects.perform (reflects : cache.Reflects now history) (passes : now ≤ call.time) :
    (cache.perform call).2.Reflects call.time (history ++ [call]) := by
  intro key instant value since
  by_cases concerned : call.Concerns key
  · rcases concerned with ⟨written, ttl, writes⟩ | deletes
    · rw [CacheHistory.shows_snoc_of_writes writes, get?_of_set (set_of_writes writes)]
      split
      · next live =>
          constructor
          · intro same
            exact ⟨(Option.some.inj same).symm, live⟩
          · rintro ⟨rfl, -⟩
            rfl
      · next expired => exact iff_of_false nofun fun shows => expired shows.2
    · rcases call with ⟨time, command⟩
      obtain rfl : command = .delete key := deletes
      have gone : (cache.delete key).get? instant key = none := get?_delete key instant cache
      refine iff_of_false ?_ (CacheHistory.not_shows_snoc_of_deletes rfl)
      intro found
      rw [show (cache.delete key).get? instant key = some value from found] at gone
      contradiction
  · rw [CacheHistory.shows_snoc_iff concerned, showsSame_perform concerned instant since]
    exact reflects key instant value (Nat.le_trans passes since)

/-- The keys that show something at an instant, each once. -/
theorem mem_keys_live {now : Nat} : key ∈ (cache.entries.filter (·.isLive now)).keys ↔
    ∃ value, cache.get? now key = some value := by
  rw [OrderedMap.mem_keys_iff]
  constructor
  · rintro ⟨entry, found⟩
    obtain ⟨listed, live⟩ := OrderedMap.get?_filter_eq_some.mp found
    refine ⟨entry.value, ?_⟩
    rw [get?, listed, Option.filter_some, if_pos live]
    rfl
  · rintro ⟨value, shown⟩
    obtain ⟨entry, found, rfl⟩ := Option.map_eq_some_iff.mp shown
    exact ⟨entry, OrderedMap.get?_filter_eq_some.mpr (Option.filter_eq_some_iff.mp found)⟩

/-- A cache that reflects its history answers by it. -/
theorem Reflects.answers (reflects : cache.Reflects call.time history) :
    history.Answers call.time call.command (cache.perform call).1 := by
  have shown : ∀ key, cache.exists_ call.time key = true ↔
      ∃ value, history.Shows call.time key value := by
    intro key
    rw [exists_, Option.isSome_iff_exists]
    exact exists_congr fun value => reflects key call.time value (Nat.le_refl _)
  have put : ∀ key value ttl, (cache.settled (cache.set call.time key value ttl)).1 =
      .done (if call.time + ttl.nanos < endOfTime then .ok ()
        else .error (.cache ("ttl " ++ ttl.text ++ " out of range"))) := by
    intro key value ttl
    rw [set]
    split <;> rfl
  rcases call with ⟨time, command⟩
  cases command with
  | set key value ttl => exact put key value ttl
  | setObject key written ttl =>
      cases written with
      | ok json => exact put key json.encode ttl
      | error text => rfl
  | get key => exact ⟨_, rfl, fun value => reflects key time value (Nat.le_refl _)⟩
  | exists_ key => exact ⟨_, rfl, shown key⟩
  | delete key => exact ⟨_, rfl, shown key⟩
  | size =>
      refine ⟨(cache.entries.filter (·.isLive time)).keys, ?_, ?_, ?_⟩
      · rw [OrderedMap.keys, List.length_map]
        rfl
      · exact nodup_of_ascending (OrderedMap.keys_ascending _)
      · intro key
        rw [mem_keys_live]
        exact exists_congr fun value => reflects key time value (Nat.le_refl _)

/-! ## Histories -/

theorem behind_append (cache : TtlCache) (early late : CacheHistory) :
    cache.behind (early ++ late) = (cache.behind early).behind late :=
  List.foldl_append

/-- A cache that reflects a history goes on to do so, call after call. -/
theorem Reflects.behind {calls : CacheHistory} (reflects : cache.Reflects now history)
    (forward : (now :: calls.map CacheCall.time).Pairwise (· ≤ ·)) (last : ∀ call ∈ calls,
      call.time ≤ instant) (passes : now ≤ instant) :
    (cache.behind calls).Reflects instant (history ++ calls) := by
  induction calls generalizing cache history now with
  | nil =>
      rw [List.append_nil]
      exact reflects.later passes
  | cons call rest ih =>
      rw [List.map_cons, List.pairwise_cons] at forward
      have further := ih (reflects.perform (forward.1 _ List.mem_cons_self)) forward.2
        (fun other member => last other (List.mem_cons_of_mem _ member))
        (last call List.mem_cons_self)
      rw [List.append_assoc] at further
      exact further

/-- How a cache that was empty at first keeps to its history. -/
structure KeepsTo (history : CacheHistory) : Prop where
  /-- Each call is answered by what was asked before it. -/
  answers : ∀ early call late, history = early ++ call :: late →
    CacheHistory.Answers early call.time call.command ((empty.behind early).perform call).1
  /-- A call that fails leaves the cache as it was. -/
  refused : ∀ early call late fault, history = early ++ call :: late →
    ((empty.behind early).perform call).1 = .done (.error fault) →
      empty.behind (early ++ [call]) = empty.behind early
  /-- What a call does to other keys, or drops on the occasion, does not show. -/
  apart : ∀ early call late key, history = early ++ call :: late → ¬ call.Concerns key →
    ShowsSame key call.time (empty.behind early) (empty.behind (early ++ [call]))

/-- A cache whose clock does not run backwards keeps to its history, though it drops
entries that have expired whenever something is set. -/
theorem keeps_to_history {history : CacheHistory}
    (forward : history.Pairwise fun call later => call.time ≤ later.time) : KeepsTo history where
  answers := by
    rintro early call late rfl
    obtain ⟨before, -, between⟩ := List.pairwise_append.mp forward
    have start : empty.Reflects 0 [] := reflects_empty
    have reflects : (empty.behind early).Reflects call.time ([] ++ early) := by
      refine start.behind ?_ ?_ (Nat.zero_le _)
      · rw [List.pairwise_cons, List.pairwise_map]
        exact ⟨fun _ _ => Nat.zero_le _, before⟩
      · exact fun other member => between other member call List.mem_cons_self
    exact reflects.answers
  refused := by
    intro early call late fault _ failed
    rw [behind_append]
    exact perform_of_failed failed
  apart := by
    intro early call late key _ apart
    rw [behind_append]
    exact showsSame_perform apart

/-- An entry expires, is dropped when another one is set, and is asked for. -/
def outlived : CacheHistory :=
  [⟨0, .set "a" "1" ⟨5⟩⟩, ⟨5, .set "b" "2" ⟨9⟩⟩, ⟨6, .get "a"⟩, ⟨6, .size⟩]

theorem keeps_to_history_of_outlived :
    (outlived.Pairwise fun call later => call.time ≤ later.time) ∧
      (empty.behind outlived).perform ⟨6, .size⟩ = (.count 1, empty.behind outlived) ∧
        KeepsTo outlived :=
  ⟨by decide, rfl, keeps_to_history (by decide)⟩

end TtlCache

end Gatehouse
