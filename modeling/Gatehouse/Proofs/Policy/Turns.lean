import Gatehouse.Proofs.Execution.Interleaving
import Gatehouse.Proofs.Policy.Agreement

/-!
# A turn at the policy

An operation that has begun to change the policy works on it alone: others may act
between its steps, but leave the policy as it is. Until the operation is done, the
published grants are those that it found. What it then comes to, and the policy that
it leaves, are those of the operation carried out without a pause, in conditions of
the store that it met.
-/

namespace Gatehouse

/-- A state has the policy of another one, in the store and in memory. -/
structure KeepsPolicy (site later : Site) : Prop where
  tuples : later.tuples = site.tuples
  grants : later.grants = site.grants
  edition : later.edition = site.edition

namespace KeepsPolicy

variable {first second third : Site}

theorem refl (site : Site) : KeepsPolicy site site := ⟨rfl, rfl, rfl⟩

theorem trans (early : KeepsPolicy first second) (late : KeepsPolicy second third) :
    KeepsPolicy first third :=
  ⟨late.tuples.trans early.tuples, late.grants.trans early.grants,
    late.edition.trans early.edition⟩

end KeepsPolicy

/-! ## Conditions that a call met -/

/-- The conditions that a call of a store met: those in which it asked, except that an
answer that is there when the call looks for it did not take too long. -/
def conditionsMet (asked answered : Site) (backend : Backend) : Condition :=
  if answered.clock < asked.clock + (asked.conditions backend).delay.nanos then
    asked.conditions backend
  else ⟨⟨0⟩, (asked.conditions backend).failure⟩

/-- A store answers as it does to a call that meets these conditions and runs alone. -/
theorem storeAnswer_eq {α : Type} {operation : String} {limit : Span} {backend : Backend}
    {act : Site → Except StoreFault α × Site} {asked answered : Site}
    (woken : asked.clock + min (asked.conditions backend).delay.nanos limit.nanos ≤
      answered.clock) :
    storeAnswer operation limit asked.clock (asked.conditions backend) act answered =
      match (conditionsMet asked answered backend).fault? operation limit with
      | some fault => (.error fault, answered)
      | none => act answered := by
  rw [storeAnswer, conditionsMet]
  split
  · next late =>
      have tooLong : limit.nanos < (asked.conditions backend).delay.nanos := by omega
      simp only [Condition.fault?, if_pos tooLong]
  · cases (asked.conditions backend).failure <;> rfl

/-- Conditions that a call met in states that it has seen. -/
def MetIn (seen : List Site) (conditions : Backend → Condition) : Prop :=
  ∃ asked ∈ seen, ∃ answered ∈ seen, conditions = conditionsMet asked answered

theorem MetIn.mono {seen more : List Site} {conditions : Backend → Condition}
    (met : MetIn seen conditions) (subset : ∀ site ∈ seen, site ∈ more) :
    MetIn more conditions := by
  obtain ⟨asked, member, answered, other, same⟩ := met
  exact ⟨asked, subset asked member, answered, subset answered other, same⟩

/-! ## Working on the policy alone -/

/-- A routine that works on the policy while others leave it as it is. As long as it
is not done, what is published is what was published on entry. In the end its result
is related to the states in which it took its steps and to the one that it leaves. -/
def Routine.Works {α : Type} (entry : Site) (post : List Site → Site → α → Prop) :
    Routine Site α → List Site → Site → Prop
  | .done value, seen, now => post seen now value
  | .step wait act next, seen, now =>
      (now.grants = entry.grants ∧ now.edition = entry.edition) ∧
        ∀ site, KeepsPolicy now site → site.writing = true → wait.ready site = true →
          (act site).writing = true ∧ (next site).Works entry post (seen ++ [site]) (act site)

namespace Routine

variable {α β : Type} {entry now : Site} {seen : List Site} {post : List Site → Site → α → Prop}

theorem works_bind {routine : Routine Site α} {next : α → Routine Site β}
    {final : List Site → Site → β → Prop} (first : routine.Works entry post seen now)
    (rest : ∀ seen now value, post seen now value → (next value).Works entry final seen now) :
    (routine.bind next).Works entry final seen now := by
  induction routine generalizing seen now with
  | done value => exact rest seen now value first
  | step wait act further ih =>
      refine ⟨first.1, ?_⟩
      intro site same writing ready
      have stepped := first.2 site same writing ready
      exact ⟨stepped.1, ih site stepped.2⟩

theorem works_mono {routine : Routine Site α} {weaker : List Site → Site → α → Prop}
    (works : routine.Works entry post seen now)
    (implies : ∀ seen now value, post seen now value → weaker seen now value) :
    routine.Works entry weaker seen now := by
  induction routine generalizing seen now with
  | done value => exact implies seen now value works
  | step wait act further ih =>
      refine ⟨works.1, ?_⟩
      intro site same writing ready
      have stepped := works.2 site same writing ready
      exact ⟨stepped.1, ih site stepped.2⟩

/-- What a store is asked for while the policy is worked on is done, or fails, as in
the conditions met. -/
theorem works_callStore {operation : String} {limit : Span} {backend : Backend}
    {act : Site → Except StoreFault α × Site} {post : List Site → Site → Except StoreFault α → Prop}
    (unpublished : now.grants = entry.grants ∧ now.edition = entry.edition)
    (failed : ∀ more answered conditions fault, MetIn more conditions →
      KeepsPolicy now answered → (conditions backend).fault? operation limit = some fault →
        post more answered (.error fault))
    (acted : ∀ more answered conditions, MetIn more conditions → KeepsPolicy now answered →
      answered.writing = true → (conditions backend).fault? operation limit = none →
        (act answered).2.writing = true ∧ post more (act answered).2 (act answered).1) :
    (callStore operation limit backend act).toRoutine.Works entry post seen now := by
  refine ⟨unpublished, ?_⟩
  intro asked same writing _
  refine ⟨writing, ?_⟩
  refine ⟨⟨same.grants.trans unpublished.1, same.edition.trans unpublished.2⟩, ?_⟩
  intro answered kept stillWriting ready
  have woken : asked.clock + min (asked.conditions backend).delay.nanos limit.nanos ≤
      answered.clock := of_decide_eq_true ready
  have met : MetIn (seen ++ [asked] ++ [answered]) (conditionsMet asked answered) :=
    ⟨asked, by simp, answered, by simp, rfl⟩
  have unchanged : KeepsPolicy now answered := same.trans ⟨kept.tuples, kept.grants, kept.edition⟩
  change (storeAnswer operation limit asked.clock (asked.conditions backend) act
      answered).2.writing = true ∧ post (seen ++ [asked] ++ [answered])
        (storeAnswer operation limit asked.clock (asked.conditions backend) act answered).2
        (storeAnswer operation limit asked.clock (asked.conditions backend) act answered).1
  rw [storeAnswer_eq woken]
  cases answer : (conditionsMet asked answered backend).fault? operation limit with
  | some fault => exact ⟨stillWriting, failed _ _ _ fault met unchanged answer⟩
  | none => exact acted _ _ _ met unchanged stillWriting answer

end Routine

namespace PolicyEngine

variable {engine : PolicyEngine} {α : Type} {entry now : Site} {seen : List Site}
  {post : List Site → Site → Except StoreFault α → Prop}

/-- A look at the grants shows those that were there on entry. -/
theorem works_snapshot_bind {next : Snapshot → Task StoreFault α} (same : KeepsPolicy entry now)
    (rest : ∀ site, KeepsPolicy entry site →
      (next ⟨entry.edition, entry.grants⟩).toRoutine.Works entry post (seen ++ [site]) site) :
    ((liftM snapshot : Task StoreFault Snapshot) >>= next).toRoutine.Works entry post seen now := by
  refine ⟨⟨same.grants, same.edition⟩, ?_⟩
  intro site kept writing _
  refine ⟨writing, ?_⟩
  have shown : (⟨site.edition, site.grants⟩ : Snapshot) = ⟨entry.edition, entry.grants⟩ := by
    rw [(same.trans kept).edition, (same.trans kept).grants]
  change (next ⟨site.edition, site.grants⟩).toRoutine.Works entry post (seen ++ [site]) site
  rw [shown]
  exact rest site (same.trans kept)

/-- What it comes to that a change, if there is one, was asked for in conditions that
were met, and that the answer is given unless asking failed. -/
def Asked (engine : PolicyEngine) (entry : Site) (change? : Option Change) (answer : α)
    (seen : List Site) (now : Site) (outcome : Except StoreFault α) : Prop :=
  ∃ conditions, MetIn seen conditions ∧
    outcome = outcomeOf (engine.askFault? change? { entry with conditions }) answer ∧
      KeepsPolicy (engine.asked change? { entry with conditions }) now

/-- The grants with a change are published in one step, the last one. -/
theorem works_publishChange {change : Change} {conditions : Backend → Condition} {answer : α}
    (met : MetIn seen conditions)
    (accepted : change.fault? engine { entry with conditions } = none)
    (stored : now.tuples = (entry.tuples.eraseAll change.removed).insertAll change.added)
    (unpublished : now.grants = entry.grants ∧ now.edition = entry.edition) :
    ((liftM (publishChange change.removed change.added) : Task StoreFault Unit) >>=
      fun _ => pure answer).toRoutine.Works entry (Asked engine entry (some change) answer)
        seen now := by
  refine ⟨unpublished, ?_⟩
  intro looked same writing _
  refine ⟨writing, ?_⟩
  refine ⟨⟨same.grants.trans unpublished.1, same.edition.trans unpublished.2⟩, ?_⟩
  intro site kept stillWriting _
  refine ⟨stillWriting, conditions, ?_, ?_, ?_⟩
  · exact met.mono fun shown member => by simp [member]
  · rw [askFault?, Option.bind_some, accepted]
    rfl
  · simp only [asked, accepted]
    have grants := same.grants.trans unpublished.1
    have edition := kept.edition.trans (same.edition.trans unpublished.2)
    constructor
    · exact (kept.tuples.trans same.tuples).trans stored
    · exact congrArg (fun grants => grants.change change.removed change.added) grants
    · exact congrArg (· + 1) edition

/-- What it comes to that a change was asked of the store in conditions that were met,
while nothing was published. -/
def Stored (engine : PolicyEngine) (entry : Site) (change : Change) (seen : List Site)
    (now : Site) (outcome : Except StoreFault Unit) : Prop :=
  ∃ conditions, MetIn seen conditions ∧ (now.grants = entry.grants ∧ now.edition = entry.edition) ∧
    match change.fault? engine { entry with conditions } with
    | some fault => outcome = .error fault ∧ now.tuples = entry.tuples
    | none => outcome = .ok () ∧
        now.tuples = (entry.tuples.eraseAll change.removed).insertAll change.added

theorem works_storeChange (change : Change) (same : KeepsPolicy entry now) :
    (engine.storeChange change.operation change.removed change.added).toRoutine.Works entry
      (engine.Stored entry change) seen now := by
  apply Routine.works_callStore ⟨same.grants, same.edition⟩
  · intro more answered conditions fault met kept failed
    have unchanged := same.trans kept
    refine ⟨conditions, met, ⟨unchanged.grants, unchanged.edition⟩, ?_⟩
    simp only [Change.fault?, failed, true_and]
    exact unchanged.tuples
  · intro more answered conditions met kept writing accepted
    have unchanged := same.trans kept
    refine ⟨writing, conditions, met, ⟨unchanged.grants, unchanged.edition⟩, ?_⟩
    simp only [Change.fault?, accepted, unchanged.tuples, and_self]

/-- Asking for a change leaves the grants of the entry published until the change is
published as a whole. -/
theorem works_ask_then (change? : Option Change) (answer : α) (same : KeepsPolicy entry now)
    (stepped : seen ≠ []) :
    (engine.ask change? >>= fun _ => pure answer).toRoutine.Works entry
      (engine.Asked entry change? answer) seen now := by
  cases change? with
  | none =>
      obtain ⟨site, member⟩ := List.exists_mem_of_ne_nil seen stepped
      exact ⟨conditionsMet site site, ⟨site, member, site, member, rfl⟩, rfl,
        same.tuples, same.grants, same.edition⟩
  | some change =>
      rw [ask, apply, bind_assoc]
      apply Routine.works_bind (works_storeChange change same)
      intro seen now outcome known
      obtain ⟨conditions, met, unpublished, known⟩ := known
      cases answered : change.fault? engine { entry with conditions } with
      | some fault =>
          simp only [answered] at known
          obtain ⟨rfl, kept⟩ := known
          refine ⟨conditions, met, ?_, ?_⟩
          · rw [askFault?, Option.bind_some, answered]
            rfl
          · simp only [asked, answered]
            exact ⟨kept, unpublished.1, unpublished.2⟩
      | none =>
          simp only [answered] at known
          obtain ⟨rfl, stored⟩ := known
          exact works_publishChange met answered stored unpublished

theorem works_ask (change? : Option Change) (same : KeepsPolicy entry now) (stepped : seen ≠ []) :
    (engine.ask change?).toRoutine.Works entry (engine.Asked entry change? ()) seen now := by
  have works : (engine.ask change? >>= fun _ => pure ()).toRoutine.Works entry _ seen now :=
    works_ask_then change? () same stepped
  rwa [bind_pure_unit] at works

/-! ## The operations -/

/-- What it comes to that an operation was carried out in conditions that were met. -/
def Settled (engine : PolicyEngine) (entry : Site) (operation : Operation) (seen : List Site)
    (now : Site) (outcome : Except StoreFault operation.Answer) : Prop :=
  ∃ conditions, MetIn seen conditions ∧
    outcome = (operation.perform engine).outcome (Turn.found ⟨conditions, operation⟩ entry) ∧
      KeepsPolicy ((operation.perform engine).behind (Turn.found ⟨conditions, operation⟩ entry)) now

namespace Operation

/-- What an operation does between beginning and ending a change. -/
def body (engine : PolicyEngine) : (operation : Operation) → Task StoreFault operation.Answer
  | .load => do
      let tuples ← callStore "policy.load" engine.timeout .policyLoad fun site =>
        (.ok site.tuples.toList, site)
      publish (.ofTuples tuples)
  | .edit (.add tuples) => engine.applyAdd tuples
  | .edit (.remove tuples) => engine.applyRemove tuples
  | .edit (.createRole role procedures) => do
      let current ← snapshot
      if (current.grants.filtered role.name).isEmpty then
        engine.applyAdd (roleTuples role procedures)
        return true
      else return false
  | .edit (.replaceRole role procedures) => do
      let current ← snapshot
      let former := current.grants.filtered role.name
      if former.isEmpty then return []
      else
        engine.apply "policy.replace" former (roleTuples role procedures)
        return former
  | .edit (.removeRole role) => do
      let current ← snapshot
      let former := current.grants.filtered role.name
      engine.applyRemove former
      return former

theorem perform_eq (operation : Operation) :
    operation.perform engine = exclusively (operation.body engine) := by
  rcases operation with _ | (_ | _ | _ | _ | _) <;> rfl

/-- An edit works on the policy by asking for its change. -/
theorem settled_of_asked {edit : Edit} {outcome : Except StoreFault edit.Answer}
    (known : engine.Asked entry (edit.change? entry.grants) (edit.answer entry.grants) seen now
      outcome) :
    engine.Settled entry (.edit edit) seen now outcome := by
  obtain ⟨conditions, met, came, left⟩ := known
  have alone := @PolicyEngine.alone_perform engine edit { entry with conditions }
  refine ⟨conditions, met, came.trans (congrArg Prod.fst alone).symm, ?_⟩
  have behind : (edit.perform engine).behind { entry with conditions } =
      edit.behind engine { entry with conditions } := congrArg Prod.snd alone
  change KeepsPolicy ((edit.perform engine).behind { entry with conditions }) now
  rw [behind]
  exact ⟨left.tuples, left.grants, left.edition⟩

theorem works_edit (edit : Edit) (same : KeepsPolicy entry now) (stepped : seen ≠ []) :
    (body engine (.edit edit)).toRoutine.Works entry (engine.Settled entry (.edit edit)) seen
      now := by
  apply Routine.works_mono _ fun seen now outcome => settled_of_asked
  cases edit with
  | add tuples =>
      rw [body, applyAdd_eq_ask]
      exact works_ask _ same stepped
  | remove tuples =>
      rw [body, applyRemove_eq_ask]
      exact works_ask _ same stepped
  | createRole role procedures =>
      apply works_snapshot_bind same
      intro site kept
      simp only [Edit.change?, Edit.answer]
      cases (entry.grants.filtered role.name).isEmpty with
      | true =>
          simp only [if_true]
          rw [applyAdd_eq_ask]
          exact works_ask_then _ true kept (by simp)
      | false => exact works_ask_then none false kept (by simp)
  | replaceRole role procedures =>
      apply works_snapshot_bind same
      intro site kept
      simp only [Edit.change?, Edit.answer]
      split
      · next unknown =>
          rw [List.isEmpty_iff.mp unknown]
          exact works_ask_then none [] kept (by simp)
      · exact works_ask_then
          (some ⟨"policy.replace", entry.grants.filtered role.name, roleTuples role procedures⟩)
          (entry.grants.filtered role.name) kept (by simp)
  | removeRole role =>
      apply works_snapshot_bind same
      intro site kept
      simp only [Edit.change?, Edit.answer]
      rw [applyRemove_eq_ask]
      exact works_ask_then _ (entry.grants.filtered role.name) kept (by simp)

/-- Loading publishes the stored tuples in one step, the last one. -/
theorem works_load (same : KeepsPolicy entry now) :
    (body engine .load).toRoutine.Works entry (engine.Settled entry .load) seen now := by
  have asked : (callStore "policy.load" engine.timeout .policyLoad fun site =>
      (.ok site.tuples.toList, site)).toRoutine.Works entry
        (fun seen now outcome => ∃ conditions, MetIn seen conditions ∧ KeepsPolicy entry now ∧
          outcome = outcomeOf ((conditions .policyLoad).fault? "policy.load" engine.timeout)
            entry.tuples.toList) seen now := by
    apply Routine.works_callStore ⟨same.grants, same.edition⟩
    · intro more answered conditions fault met kept failed
      exact ⟨conditions, met, same.trans kept, by rw [failed]; rfl⟩
    · intro more answered conditions met kept writing accepted
      refine ⟨writing, conditions, met, same.trans kept, ?_⟩
      rw [accepted, (same.trans kept).tuples]
      rfl
  apply Routine.works_bind asked
  intro seen now outcome known
  obtain ⟨conditions, met, kept, came⟩ := known
  have alone := engine.alone_load { entry with conditions }
  have expected : engine.load.outcome { entry with conditions } = _ := congrArg Prod.fst alone
  have behind : engine.load.behind { entry with conditions } = _ := congrArg Prod.snd alone
  cases answered : (conditions .policyLoad).fault? "policy.load" engine.timeout with
  | some fault =>
      rw [answered] at came
      subst came
      refine ⟨conditions, met, ?_, ?_⟩
      · rw [perform, Turn.found, expected, answered]
        rfl
      · rw [perform, Turn.found, behind, reloaded, answered]
        exact ⟨kept.tuples, kept.grants, kept.edition⟩
  | none =>
      rw [answered] at came
      subst came
      refine ⟨⟨kept.grants, kept.edition⟩, ?_⟩
      intro site same writing _
      refine ⟨writing, conditions, met.mono (by simp +contextual), ?_, ?_⟩
      · rw [perform, Turn.found, expected, answered]
        rfl
      · rw [perform, Turn.found, behind, reloaded, answered]
        refine ⟨same.tuples.trans kept.tuples, rfl, ?_⟩
        exact congrArg (· + 1) (same.edition.trans kept.edition)

/-- What an operation does once it has begun a change leaves the published grants as
they are until it comes to what it comes to when it runs alone. -/
theorem works_body (operation : Operation) (same : KeepsPolicy entry now) (stepped : seen ≠ []) :
    (operation.body engine).toRoutine.Works entry (engine.Settled entry operation) seen now := by
  cases operation with
  | load => exact works_load same
  | edit wanted => exact works_edit wanted same stepped

end Operation

end PolicyEngine

end Gatehouse
