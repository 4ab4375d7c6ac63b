import Gatehouse.Proofs.Policy.Serial

/-!
# Several creations of one role

Of the operations that create one and the same role, the first one to begin its
change finds the role absent and gives it procedures; the others find these. So
however the calls are interleaved, one of them creates the role, and what the role
ends with is what that one gave it.
-/

namespace Gatehouse.PolicyEngine

variable {engine : PolicyEngine} {start site : Site} {trace : Trace PolicyCall}
  {threads : List engine.workload.Thread} {history : List (Nat × Turn)} {role : Role}
  {procedures : List String}

/-- No tuple of a role is published or stored. -/
def Absent (role : Role) (site : Site) : Prop :=
  ∀ tuple, tuple.role = role → tuple ∉ site.grants ∧ tuple ∉ site.tuples

/-- The tuples of a role, published and stored, are those for some procedures. -/
def HasExactly (role : Role) (procedures : List String) (site : Site) : Prop :=
  ∀ tuple, tuple.role = role → (tuple ∈ site.grants ↔ tuple.procedure ∈ procedures) ∧
    (tuple ∈ site.tuples ↔ tuple.procedure ∈ procedures)

theorem HasExactly.of_same {other : Site} (has : HasExactly role procedures site)
    (same : KeepsPolicy site other) : HasExactly role procedures other := by
  intro tuple named
  rw [same.grants, same.tuples]
  exact has tuple named

theorem filtered_eq_nil (absent : Absent role site) : site.grants.filtered role.name = [] := by
  apply List.eq_nil_iff_forall_not_mem.mpr
  intro tuple listed
  rw [Grants.mem_filtered, Role.name_inj] at listed
  exact (absent tuple listed.1).1 listed.2

theorem filtered_ne_nil (has : HasExactly role procedures site) (given : procedures ≠ []) :
    site.grants.filtered role.name ≠ [] := by
  obtain ⟨procedure, member⟩ := List.exists_mem_of_ne_nil procedures given
  apply List.ne_nil_of_mem (a := ⟨role, procedure⟩)
  rw [Grants.mem_filtered]
  exact ⟨rfl, ((has ⟨role, procedure⟩ rfl).1).mpr member⟩

/-- A creation of an absent role that the store takes in makes the role. -/
theorem created {made : Bool} (absent : Absent role site) (given : procedures ≠ [])
    (succeeded : ((Edit.createRole role procedures).perform engine).outcome site = .ok made) :
    made = true ∧ HasExactly role procedures
      (((Edit.createRole role procedures).perform engine).behind site) := by
  have alone := @alone_perform engine (.createRole role procedures) site
  have outcome : ((Edit.createRole role procedures).perform engine).outcome site = _ :=
    congrArg Prod.fst alone
  have behind : ((Edit.createRole role procedures).perform engine).behind site = _ :=
    congrArg Prod.snd alone
  have listed : (roleTuples role procedures).isEmpty = false := by
    cases procedures with
    | nil => contradiction
    | cons procedure rest => rfl
  have change : (Edit.createRole role procedures).change? site.grants =
      some ⟨"policy.add", [], roleTuples role procedures⟩ := by
    simp [Edit.change?, filtered_eq_nil absent, listed]
  rw [outcome, Edit.result, outcomeOf_eq_ok, change] at succeeded
  obtain ⟨accepted, rfl⟩ := succeeded
  rw [askFault?, Option.bind_some] at accepted
  refine ⟨by simp [Edit.answer, filtered_eq_nil absent], ?_⟩
  rw [behind, Edit.behind, change]
  simp only [asked, accepted]
  intro tuple named
  have none := absent tuple named
  simp [Change.carried, mem_roleTuples, named, Site.answered, Site.countCall, none]

/-- A creation of a role that is there changes nothing. -/
theorem not_created (present : site.grants.filtered role.name ≠ []) :
    ((Edit.createRole role procedures).perform engine).outcome site = .ok false ∧
      KeepsPolicy site (((Edit.createRole role procedures).perform engine).behind site) := by
  have alone := @alone_perform engine (.createRole role procedures) site
  have known : (site.grants.filtered role.name).isEmpty = false := by
    simpa using present
  have outcome : ((Edit.createRole role procedures).perform engine).outcome site = _ :=
    congrArg Prod.fst alone
  have behind : ((Edit.createRole role procedures).perform engine).behind site = _ :=
    congrArg Prod.snd alone
  have change : (Edit.createRole role procedures).change? site.grants = none := by
    simp [Edit.change?, known]
  constructor
  · rw [outcome, Edit.result, change, Edit.answer, known]
    rfl
  · rw [behind, Edit.behind, change]
    exact ⟨rfl, rfl, rfl⟩

/-- A turn at which a role is created. -/
def Creates (role : Role) (turn : Turn) : Prop :=
  ∃ procedures, turn.operation = .edit (.createRole role procedures)

/-- Once a role has been created, further creations change nothing. -/
theorem after_created (has : HasExactly role procedures site) (given : procedures ≠ [])
    (later : ∀ turn ∈ history, Creates role turn.2) :
    KeepsPolicy site (engine.after (history.map Prod.snd) site) := by
  induction history generalizing site with
  | nil => exact .refl site
  | cons entry rest ih =>
      obtain ⟨others, same⟩ := later entry List.mem_cons_self
      have found : HasExactly role procedures (entry.2.found site) := has
      have unchanged : KeepsPolicy site
          ((entry.2.operation.perform engine).behind (entry.2.found site)) := by
        rw [same]
        obtain ⟨tuples, grants, edition⟩ :=
          (@not_created engine _ role others (filtered_ne_nil found given)).2
        exact ⟨tuples, grants, edition⟩
      have further := ih (has.of_same unchanged) fun turn member =>
        later turn (List.mem_cons_of_mem entry member)
      exact unchanged.trans further

/-- Every call looks at the grants, or has created a role without a fault of the
store. -/
def Contends (engine : PolicyEngine) (role : Role) (threads : List engine.workload.Thread) : Prop :=
  ∀ number thread, threads[number]? = some thread → thread.call = .read ∨
    ∃ procedures made, procedures ≠ [] ∧
      engine.workload.Answered threads number (.write (.edit (.createRole role procedures)))
        (.ok made)

/-- A call has created a role, all others have found it there, and its procedures are
those of the role. -/
def Wins (engine : PolicyEngine) (role : Role) (threads : List engine.workload.Thread)
    (site : Site) (winner : Nat) (procedures : List String) : Prop :=
  engine.workload.Answered threads winner (.write (.edit (.createRole role procedures)))
      (.ok true) ∧
    (∀ number others made, engine.workload.Answered threads number
      (.write (.edit (.createRole role others))) (.ok made) → number ≠ winner → made = false) ∧
    HasExactly role procedures site

variable {hold : Hold}

/-- Nobody is in the middle of a change where all creations have been answered. -/
theorem Contends.eq_free (contends : engine.Contends role threads)
    (progress : Progress engine start trace site threads history hold) : hold = .free := by
  cases hold with
  | free => rfl
  | working number operation =>
      obtain ⟨wait, act, next, working⟩ := progress.working number operation rfl
      rcases contends number _ working.found with looks | ⟨procedures, made, -, answered⟩
      · contradiction
      · have same := working.found.symm.trans answered
        cases same
  | leaving number =>
      obtain ⟨operation, outcome, found⟩ := progress.leaving number rfl
      rcases contends number _ found with looks | ⟨procedures, made, -, answered⟩
      · contradiction
      · have same := found.symm.trans answered
        cases same

/-- The operations of the history are the creations, each in its place. -/
theorem Contends.entry (contends : engine.Contends role threads)
    (progress : Progress engine start trace site threads history hold) {entry : Nat × Turn}
    (member : entry ∈ history) : ∃ procedures made, procedures ≠ [] ∧
      entry.2.operation = .edit (.createRole role procedures) ∧
        engine.workload.Answered threads entry.1 (.write (.edit (.createRole role procedures)))
          (.ok made) := by
  have begun : (entry.1, entry.2.operation) ∈ trace.order := by
    rw [progress.order]
    exact List.mem_append_left _ (List.mem_map_of_mem member)
  have bound := progress.begun _ begun
  have nobody := contends.eq_free progress
  subst nobody
  rcases progress.ended entry member with holds | ⟨outcome, ended⟩
  · contradiction
  · rcases contends entry.1 _ ended with looks | ⟨procedures, made, given, answered⟩
    · contradiction
    · have same := Option.some.inj (ended.symm.trans answered)
      injection same with same _
      exact ⟨procedures, made, given, PolicyCall.write.inj same, answered⟩

/-- The first operation of a history finds the policy of the start, each other one the
policy behind some that follow the first. -/
theorem CameOf.first_or_later {first : Nat × Turn} {rest : List (Nat × Turn)} {number : Nat}
    {operation : Operation} {outcome : Except StoreFault operation.Answer}
    (came : engine.CameOf start (first :: rest) number operation outcome)
    (once : ((first :: rest).map Prod.fst).Nodup) :
    number = first.1 ∧ (∃ conditions, first.2 = ⟨conditions, operation⟩ ∧
        outcome = (operation.perform engine).outcome (Turn.found ⟨conditions, operation⟩ start)) ∨
      number ≠ first.1 ∧ ∃ conditions more late, rest = more ++ late ∧
        outcome = (operation.perform engine).outcome (Turn.found ⟨conditions, operation⟩
          (engine.after (more.map Prod.snd)
            ((first.2.operation.perform engine).behind (first.2.found start)))) := by
  obtain ⟨early, conditions, late, split, came⟩ := came
  cases early with
  | nil =>
      obtain ⟨rfl, rfl⟩ := List.cons.inj split
      exact .inl ⟨rfl, conditions, rfl, came⟩
  | cons head more =>
      obtain ⟨rfl, rfl⟩ := List.cons.inj split
      refine .inr ⟨?_, conditions, more, _, rfl, came⟩
      rintro rfl
      simp at once

/-- Of the creations of an absent role one wins. -/
theorem Contends.winner (contends : engine.Contends role threads) (absent : Absent role start)
    (progress : Progress engine start trace site threads history hold) (some : history ≠ []) :
    ∃ winner procedures, Wins engine role threads site winner procedures := by
  cases history with
  | nil => contradiction
  | cons first rest =>
      obtain ⟨procedures, made, given, creation, answered⟩ :=
        contends.entry progress List.mem_cons_self
      have later : ∀ entry ∈ rest, Creates role entry.2 := by
        intro entry member
        obtain ⟨others, -, -, same, -⟩ :=
          contends.entry progress (List.mem_cons_of_mem first member)
        exact ⟨others, same⟩
      obtain ⟨rfl, has⟩ : made = true ∧ HasExactly role procedures
          ((first.2.operation.perform engine).behind (first.2.found start)) := by
        rcases (progress.cameOf answered).first_or_later progress.nodup_history with
          ⟨-, conditions, same, came⟩ | ⟨apart, -⟩
        · rw [same]
          exact created absent given came.symm
        · contradiction
      have kept : ∀ {more late}, rest = more ++ late → HasExactly role procedures
          (engine.after (more.map Prod.snd)
            ((first.2.operation.perform engine).behind (first.2.found start))) := by
        intro more late split
        refine has.of_same (after_created has given ?_)
        intro entry member
        exact later entry (by simp [split, member])
      refine ⟨first.1, procedures, answered, ?_, ?_⟩
      · intro number others made other apart
        rcases (progress.cameOf other).first_or_later progress.nodup_history with
          ⟨same, -⟩ | ⟨-, conditions, more, late, split, came⟩
        · contradiction
        · have found : HasExactly role procedures
              (Turn.found ⟨conditions, .edit (.createRole role others)⟩ _) := kept split
          exact Except.ok.inj (came.trans (not_created (filtered_ne_nil found given)).1)
      · have nobody := contends.eq_free progress
        subst nobody
        exact (kept (List.append_nil rest).symm).of_same (progress.same rfl)

/-- Whatever the interleaving, concurrent operations come out as they do one after the
other, in the order in which they begin to change the policy, and a look at the grants
shows those behind some of them. Of several creations of an absent role one wins. -/
theorem concurrent_eq_serial (engine : PolicyEngine) {start site : Site}
    {trace : Trace PolicyCall} {threads : List engine.workload.Thread}
    (free : start.writing = false) (run : engine.workload.Run start trace site threads) :
    (∃ history pending, Serial engine start trace site threads history pending) ∧
      ∀ role, Absent role start → engine.Contends role threads →
        (∃ number operation outcome,
          engine.workload.Answered threads number (.write operation) outcome) →
          ∃ winner procedures, Wins engine role threads site winner procedures := by
  obtain ⟨history, hold, progress⟩ := progress_of_run free run
  refine ⟨⟨history, hold.pending, progress.serial⟩, ?_⟩
  rintro role absent contends ⟨number, operation, outcome, answered⟩
  refine contends.winner absent progress ?_
  rintro rfl
  obtain ⟨early, conditions, late, split, -⟩ := progress.cameOf answered
  simp at split

/-- An engine that waits two seconds for the store. -/
def patient : PolicyEngine := ⟨.ofSeconds 2⟩

/-- No policy, in stores that take a second to answer. -/
def slowStart : Site :=
  { Site.initial 0 ⟨0, 0⟩ [] [] [] with conditions := fun _ => ⟨.ofSeconds 1, none⟩ }

/-- The creation of a role with one procedure. -/
def creation (procedure : String) : PolicyCall :=
  .write (.edit (.createRole ⟨"editor"⟩ [procedure]))

/-- Two creations of one role, and a look at the grants in the middle of the first. -/
def raced : List patient.workload.Thread :=
  [⟨creation "a.S/A", .done (.ok true)⟩, ⟨creation "a.S/B", .done (.ok false)⟩,
    ⟨.read, .done ⟨0, .empty⟩⟩]

/-- The second creation and the look begin while the first creation waits for the
store. -/
theorem run_raced : ∃ trace site, patient.workload.Run slowStart trace site raced := by
  have first : patient.workload.Run slowStart _ _ _ := .begins .start (creation "a.S/A") rfl
  have waiting := first.settle 0 rfl
  have second := waiting.begins (creation "a.S/B") rfl
  have blocked := second.settle 1 rfl
  have look := blocked.begins .read rfl
  have looked := look.settle 2 rfl
  have later : patient.workload.Run slowStart _ (Clocked.setClock 1000000000 _) _ :=
    looked.drifts ⟨⟨rfl, rfl, rfl⟩, rfl⟩
  have created := later.settle 0 rfl
  have ended := created.settle 1 rfl
  exact ⟨_, _, ended⟩

theorem contends_raced : patient.Contends ⟨"editor"⟩ raced := by
  intro number thread found
  rcases number with _ | _ | _ | number
  · cases found
    exact .inr ⟨["a.S/A"], true, by simp, rfl⟩
  · cases found
    exact .inr ⟨["a.S/B"], false, by simp, rfl⟩
  · cases found
    exact .inl rfl
  · contradiction

theorem concurrent_eq_serial_of_raced : ∃ trace site, slowStart.writing = false ∧
    patient.workload.Run slowStart trace site raced ∧
      (∃ history pending, patient.Serial slowStart trace site raced history pending) ∧
        Absent ⟨"editor"⟩ slowStart ∧ patient.Contends ⟨"editor"⟩ raced ∧
          ∃ winner procedures, patient.Wins ⟨"editor"⟩ raced site winner procedures := by
  obtain ⟨trace, site, run⟩ := run_raced
  have absent : Absent ⟨"editor"⟩ slowStart := fun tuple _ =>
    ⟨Grants.not_mem_empty tuple, OrderedSet.not_mem_empty tuple⟩
  obtain ⟨serial, wins⟩ := concurrent_eq_serial patient rfl run
  exact ⟨trace, site, rfl, run, serial, absent, contends_raced,
    wins _ absent contends_raced ⟨0, _, _, rfl⟩⟩

end Gatehouse.PolicyEngine
