import Gatehouse.Proofs.Permissions.Served

/-!
# Lookups behind an invalidation

An invalidation takes out of the cache what has been written there. It does not reach
maps that were read before it and are written back after it, nor loads that are under
way. A lookup that begins behind an invalidation is served what the store held behind it
unless one of these is in between; and by these an old map can be served.
-/

namespace Gatehouse

variable {permissions : Permissions} {start site : Site}
  {trace early late passed shown : Trace PermissionCall} {deletion event : Event PermissionCall}
  {number : Nat} {map : RuleMap}

namespace Trace

/-- A call that has not acted takes its steps later. -/
theorem mem_late_of_mem_steps (unstepped : passed.steps number = [])
    (own : event ∈ steps number (passed ++ late)) : event ∈ late := by
  rw [steps_append, unstepped, List.nil_append] at own
  exact (mem_steps.mp own).1

/-- What is the last written map behind an invalidation was written behind it. -/
theorem LastWritten.behind {time : Nat}
    (last : LastWritten permissions (early ++ [deletion] ++ late) map time)
    (invalidates : deletion.Invalidates) : ∃ write ∈ late, write.Writes permissions map := by
  obtain ⟨front, write, back, split, writes, -, quiet⟩ := last
  rw [List.append_assoc] at split
  rcases place_cases split with ⟨-, rfl, -⟩ | ⟨between, -, rfl⟩ | ⟨between, -, rfl⟩
  · exact absurd writes invalidates.not_writes
  · exact ⟨write, by simp, writes⟩
  · exact absurd (quiet deletion (by simp)) invalidates.not_spares

/-- A call that has not acted looks into the cache later. -/
theorem Looks.behind {look : Event PermissionCall}
    (looks : Looks (passed ++ late) number shown look) (unstepped : passed.steps number = []) :
    ∃ more, more <+: late ∧ shown = passed ++ more := by
  obtain ⟨asking, rest, split, asked, -⟩ := looks
  have first : shown <+: passed ++ late := ⟨look :: rest, split.symm⟩
  rcases List.prefix_or_prefix_of_prefix first (List.prefix_append passed late) with
    ⟨more, rfl⟩ | ⟨more, rfl⟩
  · rw [steps_append, asked] at unstepped
    simp at unstepped
  · exact ⟨more, (List.prefix_append_right_inj passed).mp first, rfl⟩

/-- A shared load that has landed was begun early or read the store late. -/
theorem Landed.early_or_late {flight : Nat} {outcome : Except StoreFault RuleMap}
    (landed : Landed permissions (passed ++ late) flight outcome) :
    (∃ launch ∈ passed, launch.Launches flight) ∨
      ∃ reader, ∃ read ∈ late, Reads permissions (passed ++ late) reader read outcome := by
  obtain ⟨reader, before, launch, read, launches, reads⟩ := landed
  obtain ⟨query, after, taken, -⟩ := id reads
  rw [steps_append] at taken
  rcases List.append_eq_append_iff.mp taken with ⟨more, -, rest⟩ | ⟨more, own, -⟩
  · right
    have own : read ∈ late.steps reader := by
      rw [rest]
      simp
    exact ⟨reader, read, (mem_steps.mp own).1, _, reads⟩
  · left
    have own : launch ∈ passed.steps reader := by
      rw [own]
      simp
    exact ⟨launch, (mem_steps.mp own).1, launches⟩

end Trace

namespace Permissions

/-- How old what a lookup was served is, compared with an invalidation: it was read
behind it, or written back behind it, or it comes of a load that lookups shared and that
had been begun before. -/
inductive AgeOf (permissions : Permissions) (passed late : Trace PermissionCall)
    (outcome : Except StoreFault RuleMap) : Prop where
  | read {reader : Nat} {read : Event PermissionCall} (behind : read ∈ late)
      (reads : Trace.Reads permissions (passed ++ late) reader read outcome)
  | writtenBack {map : RuleMap} {write : Event PermissionCall} (behind : write ∈ late)
      (writes : write.Writes permissions map) (served : outcome = .ok map)
  | underWay {flight : Nat} {launch : Event PermissionCall}
      (shared : permissions.singleFlight = true) (before : launch ∈ passed)
      (launches : launch.Launches flight)
      (landed : Trace.Landed permissions (passed ++ late) flight outcome)

/-- Behind an invalidation, an old map is served only if it is written back behind it or
comes of a load that was under way. -/
theorem ageOf_served {outcome : Except StoreFault RuleMap}
    (served : Served permissions trace number outcome)
    (grows : trace <+: early ++ [deletion] ++ late) (invalidates : deletion.Invalidates)
    (unstepped : Trace.steps number (early ++ [deletion]) = []) :
    AgeOf permissions (early ++ [deletion]) late outcome := by
  cases served with
  | cached looks live read unasked =>
      obtain ⟨more, among, rfl⟩ := (looks.mono grows).behind unstepped
      obtain ⟨time, last, -⟩ := live
      obtain ⟨write, behind, writes⟩ := last.behind invalidates
      exact .writtenBack (among.subset behind) writes rfl
  | loaded looks stale reads =>
      obtain ⟨before, query, after, taken, known⟩ := reads.mono grows
      refine .read (Trace.mem_late_of_mem_steps unstepped ?_) ⟨before, query, after, taken, known⟩
      rw [taken]
      simp
  | joined looks stale shared joins taken landed =>
      rcases (landed.mono grows).early_or_late with
        ⟨launch, before, launches⟩ | ⟨reader, read, behind, reads⟩
      · exact .underWay shared before launches (landed.mono grows)
      · exact .read behind reads

/-- A lookup that begins to act behind an invalidation is served what the store holds
behind it, unless a map was written back in between or a load had been under way. -/
theorem lookups_behind_invalidation {threads : List permissions.workload.Thread}
    {lookup : Lookup} {answer : lookup.Answer} (fresh : permissions.Fresh start)
    (run : permissions.workload.Run start (early ++ [deletion] ++ late) site threads)
    (invalidates : deletion.Invalidates)
    (unstepped : Trace.steps number (early ++ [deletion]) = [])
    (answered : permissions.workload.Answered threads number (.look lookup) answer) :
    ∃ outcome, AgeOf permissions (early ++ [deletion]) late outcome ∧
      answer = lookup.shown outcome := by
  obtain ⟨now, waits, outcome, served, shown⟩ :=
    run.answered (sustains fresh) (fun _ _ _ => trivial) trivial answered
  exact ⟨outcome, ageOf_served served waits.isPrefix invalidates unstepped, shown⟩

/-- The rule has been deleted, and one that asks for a credential is in its place. -/
def tightened : RuleStore :=
  (ruled.rules.delete "a.S/A" ⟨1, 0⟩).insert
    ⟨.ofTime .rule 1 0, "A", "a.S/A", true, false, ⟨1, 0⟩, none⟩

theorem proper_tightened : tightened.IsProper := by
  have proper : Moment.IsProper ⟨1, 0⟩ := ⟨by decide, by decide, by decide, by decide⟩
  intro rule member
  rcases List.mem_append.mp member with early | last
  · obtain rfl := List.mem_singleton.mp early
    refine ⟨(proper_ruled _ List.mem_cons_self).created, ?_⟩
    rintro moment ⟨⟩
    exact proper
  · obtain rfl := List.mem_singleton.mp last
    exact ⟨proper, nofun⟩

theorem tightened_ne : RuleMap.ofRules ruled.rules.active ≠ .ofRules tightened.active := by
  intro same
  have asks := congrArg (fun map => (map.get? "a.S/A").map Rule.requireAuth) same
  revert asks
  decide +kernel

/-- What happens up to the invalidation and behind it when a map is read before the rules
change and written back behind the invalidation. -/
theorem run_overtaken : ∃ early deletion late site threads, Event.Invalidates deletion ∧
    deletion.after.rules = tightened ∧ (∀ event ∈ late, event.act ≠ .drifts) ∧
      brief.workload.Run ruled (early ++ [deletion] ++ late) site threads ∧
        Trace.steps 3 (early ++ [deletion]) = [] ∧
          brief.workload.Answered threads 1 .invalidate (.ok false) ∧
            brief.workload.Answered threads 3 (.look .all) (.ofRules ruled.rules.active) := by
  have admitted : ∀ (lookup : Lookup) site, brief.workload.admits (.look lookup) site site :=
    fun _ _ => rfl
  have first := Workload.Run.begins .start (PermissionCall.look .all) (admitted .all ruled)
  have loaded := first.settle 0 rfl
  have changed := loaded.drifts (drifts_of_rules tightened
    ⟨⟨Nat.zero_le _, rfl⟩, ⟨Nat.zero_le _, rfl⟩, ⟨Nat.zero_le _, rfl⟩⟩ proper_tightened)
  have asking := changed.begins .invalidate rfl
  have counted := @Workload.Run.takes _ _ _ _ _ _ 1 _ _ _ _ asking rfl rfl
  have deleted := @Workload.Run.takes _ _ _ _ _ _ 1 _ _ _ _ counted rfl rfl
  have unstepped : Trace.steps 3 _ = [] := deleted.steps_eq_nil (by decide)
  have second := deleted.begins (.writeBack (.ofRules ruled.rules.active)) ⟨[], [], rfl, rfl⟩
  have written := second.settle 2 rfl
  have third := written.begins (.look .all) (admitted .all _)
  have looked := third.settle_answered 3 rfl
    (Prod.ext (settle_of_cached proper_ruled.ofRules (by rfl) (by rfl) .all) rfl)
  rw [List.append_assoc, List.append_assoc, List.append_assoc] at looked
  refine ⟨_, _, _, _, _, ⟨⟨1, rfl⟩, rfl⟩, rfl, ?_, looked, unstepped, rfl, rfl⟩
  intro event member
  simp only [List.mem_append, List.mem_singleton] at member
  rcases member with rfl | among | rfl | among
  · nofun
  · rw [Routine.act_of_mem_events among]
    nofun
  · nofun
  · rw [Routine.act_of_mem_events among]
    nofun

theorem lookups_behind_invalidation_of_overtaken : ∃ early deletion late site threads,
    brief.Fresh ruled ∧
      brief.workload.Run ruled (early ++ [deletion] ++ late) site threads ∧
        Event.Invalidates deletion ∧ Trace.steps 3 (early ++ [deletion]) = [] ∧
          brief.workload.Answered threads 3 (.look .all) (.ofRules ruled.rules.active) ∧
            ∃ outcome, AgeOf brief (early ++ [deletion]) late outcome ∧
              RuleMap.ofRules ruled.rules.active = Lookup.all.shown outcome := by
  obtain ⟨early, deletion, late, site, threads, invalidates, -, -, run, unstepped, -, answered⟩ :=
    run_overtaken
  exact ⟨early, deletion, late, site, threads, fresh_ruled, run, invalidates, unstepped, answered,
    lookups_behind_invalidation fresh_ruled run invalidates unstepped answered⟩

/-- The rules change, an invalidation succeeds, and a lookup that begins behind it, with
the store in order, is answered with the map of the former rules. -/
theorem stale_behind_invalidation : ∃ early deletion late site threads,
    Event.Invalidates deletion ∧ deletion.after.rules = tightened ∧
      (∀ event ∈ late, event.act ≠ .drifts) ∧
        brief.workload.Run ruled (early ++ [deletion] ++ late) site threads ∧
          Trace.steps 3 (early ++ [deletion]) = [] ∧
            brief.workload.Answered threads 1 .invalidate (.ok false) ∧
              brief.workload.Answered threads 3 (.look .all) (.ofRules ruled.rules.active) ∧
                RuleMap.ofRules ruled.rules.active ≠ .ofRules tightened.active := by
  obtain ⟨early, deletion, late, site, threads, invalidates, changed, quiet, run, unstepped,
    done, answered⟩ := run_overtaken
  exact ⟨early, deletion, late, site, threads, invalidates, changed, quiet, run, unstepped, done,
    answered, tightened_ne⟩

end Permissions

end Gatehouse
