import Gatehouse.Proofs.Policy.Edits
import Gatehouse.Proofs.Policy.Grants

/-!
# The enforced policy is the stored policy

The tuples are kept twice: as grants in memory and as a set in the store. An
operation changes both or neither, and both by the same tuples. So whatever the
store held when the policy was first loaded, and whichever operations have been
carried out since then, succeeded or failed, the grants list the stored tuples.
-/

namespace Gatehouse.PolicyEngine

variable {engine : PolicyEngine} {site : Site}

/-- The grants list the stored tuples. -/
def Agrees (site : Site) : Prop := site.grants.tuples = site.tuples.toList

theorem agrees_iff : Agrees site ↔ ∀ tuple, tuple ∈ site.grants ↔ tuple ∈ site.tuples :=
  ⟨fun agrees _ => Grants.mem_iff_of_tuples_eq agrees, Grants.tuples_eq⟩

theorem mem_roleTuples {role : Role} {procedures : List String} {tuple : PolicyTuple} :
    tuple ∈ roleTuples role procedures ↔
      tuple.role = role ∧ tuple.procedure ∈ procedures := by
  rw [roleTuples, List.mem_map]
  constructor
  · intro listed
    rcases listed with ⟨procedure, member, same⟩
    subst same
    exact ⟨rfl, member⟩
  · intro given
    rcases given with ⟨same, member⟩
    subst same
    exact ⟨tuple.procedure, member, rfl⟩

/-- The stored tuples of a role. -/
def ofRole (tuples : OrderedSet PolicyTuple) (role : Role) : List PolicyTuple :=
  tuples.toList.filter fun tuple => tuple.role = role

@[simp] theorem mem_ofRole {tuples : OrderedSet PolicyTuple} {role : Role} {tuple : PolicyTuple} :
    tuple ∈ ofRole tuples role ↔ tuple ∈ tuples ∧ tuple.role = role := by
  simp [ofRole]

/-- The tuples that a role's own leave behind are those of the other roles. -/
theorem mem_not_ofRole {tuples : OrderedSet PolicyTuple} {role : Role} {tuple : PolicyTuple} :
    tuple ∈ tuples ∧ tuple ∉ ofRole tuples role ↔ tuple ∈ tuples ∧ tuple.role ≠ role := by
  rw [mem_ofRole, not_and]
  constructor
  · intro kept
    exact ⟨kept.1, kept.2 kept.1⟩
  · intro kept
    exact ⟨kept.1, fun _ => kept.2⟩

theorem filtered_eq_ofRole (agrees : Agrees site) (role : Role) :
    site.grants.filtered role.name = ofRole site.tuples role := by
  rw [Grants.filtered_eq, agrees, ofRole]
  congr 1
  funext tuple
  simp only [Role.name_inj]

/-! ## What a change keeps -/

/-- Dropping and adding the same tuples on both sides keeps them in agreement. -/
theorem agrees_carried (agrees : Agrees site) (change : Change) :
    Agrees (change.carried site) := by
  rw [agrees_iff] at agrees ⊢
  intro tuple
  simp only [Change.carried, Grants.mem_change, OrderedSet.mem_insertAll,
    OrderedSet.mem_eraseAll, agrees]

theorem agrees_asked (agrees : Agrees site) (change? : Option Change) :
    Agrees (engine.asked change? site) := by
  cases change? with
  | none => exact agrees
  | some change =>
      simp only [asked]
      cases change.fault? engine site with
      | some fault => exact agrees
      | none => exact agrees_carried agrees change

/-- Where asking for a change fails, nothing has changed. -/
theorem asked_of_fault {change? : Option Change} {fault : StoreFault}
    (failed : engine.askFault? change? site = some fault) :
    engine.asked change? site = site.answered .policyWrite engine.timeout := by
  cases change? with
  | none => contradiction
  | some change =>
      simp only [askFault?, Option.bind_some] at failed
      simp only [asked, failed]

/-- Whether a tuple is there once a change, if there is one, has been made. -/
def Change.Leaves (change? : Option Change) (before : OrderedSet PolicyTuple)
    (tuple : PolicyTuple) : Prop :=
  match change? with
  | none => tuple ∈ before
  | some change => tuple ∈ change.added ∨ tuple ∈ before ∧ tuple ∉ change.removed

theorem mem_asked {change? : Option Change} (succeeded : engine.askFault? change? site = none)
    (tuple : PolicyTuple) :
    tuple ∈ (engine.asked change? site).tuples ↔ Change.Leaves change? site.tuples tuple := by
  cases change? with
  | none => rfl
  | some change =>
      simp only [askFault?, Option.bind_some] at succeeded
      simp only [asked, succeeded, Change.carried, OrderedSet.mem_insertAll,
        OrderedSet.mem_eraseAll]
      rfl

/-! ## What an edit makes of the stored tuples -/

/-- Whether a tuple is there after a successful edit of a set of tuples. -/
def Edit.Leaves (before : OrderedSet PolicyTuple) (tuple : PolicyTuple) : Edit → Prop
  | .add tuples => tuple ∈ before ∨ tuple ∈ tuples
  | .remove tuples => tuple ∈ before ∧ tuple ∉ tuples
  | .createRole role procedures =>
      tuple ∈ before ∨ ofRole before role = [] ∧ tuple ∈ roleTuples role procedures
  | .replaceRole role procedures =>
      if ofRole before role = [] then tuple ∈ before
      else tuple ∈ before ∧ tuple.role ≠ role ∨ tuple ∈ roleTuples role procedures
  | .removeRole role => tuple ∈ before ∧ tuple.role ≠ role

/-- What a successful edit of a set of tuples is answered with. -/
def Edit.answerFor (before : OrderedSet PolicyTuple) : (edit : Edit) → edit.Answer
  | .add _ => ()
  | .remove _ => ()
  | .createRole role _ => decide (ofRole before role = [])
  | .replaceRole role _ => ofRole before role
  | .removeRole role => ofRole before role

theorem answer_eq_answerFor (agrees : Agrees site) (edit : Edit) :
    edit.answer site.grants = edit.answerFor site.tuples := by
  cases edit with
  | add tuples => rfl
  | remove tuples => rfl
  | createRole role procedures =>
      simp only [Edit.answer, Edit.answerFor, filtered_eq_ofRole agrees]
      cases ofRole site.tuples role <;> rfl
  | replaceRole role procedures => exact filtered_eq_ofRole agrees role
  | removeRole role => exact filtered_eq_ofRole agrees role

/-- The change that an edit asks for leaves exactly what the edit is to leave. -/
theorem mem_edited (agrees : Agrees site) {edit : Edit}
    (succeeded : engine.askFault? (edit.change? site.grants) site = none) (tuple : PolicyTuple) :
    tuple ∈ (engine.asked (edit.change? site.grants) site).tuples ↔
      edit.Leaves site.tuples tuple := by
  rw [mem_asked succeeded]
  cases edit with
  | add tuples =>
      simp only [Edit.change?, Edit.Leaves]
      cases tuples with
      | nil => simp [Change.Leaves]
      | cons head rest => simp [Change.Leaves, or_comm]
  | remove tuples =>
      simp only [Edit.change?, Edit.Leaves]
      cases tuples with
      | nil => simp [Change.Leaves]
      | cons head rest => simp [Change.Leaves]
  | createRole role procedures =>
      simp only [Edit.change?, Edit.Leaves, filtered_eq_ofRole agrees]
      cases ofRole site.tuples role with
      | nil =>
          cases roleTuples role procedures with
          | nil => simp [Change.Leaves]
          | cons head rest => simp [Change.Leaves, or_comm]
      | cons head rest => simp [Change.Leaves]
  | replaceRole role procedures =>
      simp only [Edit.change?, Edit.Leaves, filtered_eq_ofRole agrees, List.isEmpty_iff]
      split
      · rfl
      · simp only [Change.Leaves]
        rw [mem_not_ofRole, or_comm]
  | removeRole role =>
      simp only [Edit.change?, Edit.Leaves, filtered_eq_ofRole agrees, List.isEmpty_iff]
      split
      · next missing =>
          rw [← mem_not_ofRole, missing]
          simp [Change.Leaves]
      · simp only [Change.Leaves]
        rw [mem_not_ofRole]
        simp

/-! ## Operations -/

/-- What can be done with the policy: load it, or edit it. -/
inductive Operation where
  | load
  | edit (edit : Edit)

/-- The state behind loading the policy: the store failed, or what it holds was
published. -/
def reloaded (engine : PolicyEngine) (site : Site) : Site :=
  let answered := { site.answered .policyLoad engine.timeout with writing := false }
  match (site.conditions .policyLoad).fault? "policy.load" engine.timeout with
  | some _ => answered
  | none =>
      { answered with grants := .ofTuples site.tuples.toList, edition := site.edition + 1 }

/-- Loading the policy publishes the stored tuples, unless the store fails. -/
theorem alone_load (site : Site) :
    engine.load.alone site =
      (outcomeOf ((site.conditions .policyLoad).fault? "policy.load" engine.timeout) (),
        engine.reloaded site) := by
  rw [load, alone_exclusively, Task.alone_bind, alone_callStore, reloaded]
  cases (site.conditions .policyLoad).fault? "policy.load" engine.timeout with
  | some fault => rfl
  | none => rfl

/-- A load that does not fail publishes what is stored, whatever the grants were. -/
theorem agrees_of_loaded
    (loaded : (site.conditions .policyLoad).fault? "policy.load" engine.timeout = none) :
    Agrees (engine.reloaded site) := by
  rw [agrees_iff, reloaded, loaded]
  intro tuple
  exact Grants.mem_ofTuples

theorem agrees_reloaded (agrees : Agrees site) : Agrees (engine.reloaded site) := by
  cases failed : (site.conditions .policyLoad).fault? "policy.load" engine.timeout with
  | some fault =>
      rw [reloaded, failed]
      exact agrees
  | none => exact agrees_of_loaded failed

theorem tuples_reloaded (site : Site) : (engine.reloaded site).tuples = site.tuples := by
  rw [reloaded]
  cases (site.conditions .policyLoad).fault? "policy.load" engine.timeout <;> rfl

theorem writing_reloaded (site : Site) : (engine.reloaded site).writing = false := by
  rw [reloaded]
  cases (site.conditions .policyLoad).fault? "policy.load" engine.timeout <;> rfl

namespace Operation

/-- What an operation is answered with. -/
@[reducible] def Answer : Operation → Type
  | .load => Unit
  | .edit wanted => wanted.Answer

/-- Carry out an operation. -/
def perform (engine : PolicyEngine) : (operation : Operation) → Task StoreFault operation.Answer
  | .load => PolicyEngine.load engine
  | .edit wanted => wanted.perform engine

/-- The fault that an operation fails with, if it does. -/
def fault? (engine : PolicyEngine) (site : Site) : Operation → Option StoreFault
  | .load => (site.conditions .policyLoad).fault? "policy.load" engine.timeout
  | .edit wanted => engine.askFault? (wanted.change? site.grants) site

/-- The state behind an operation. -/
def behind (engine : PolicyEngine) (site : Site) : Operation → Site
  | .load => engine.reloaded site
  | .edit wanted => wanted.behind engine site

/-- What a successful operation on a set of tuples is answered with. -/
def answerFor (before : OrderedSet PolicyTuple) : (operation : Operation) → operation.Answer
  | .load => ()
  | .edit wanted => wanted.answerFor before

/-- Whether a tuple is there after a successful operation on a set of tuples. -/
def Leaves (before : OrderedSet PolicyTuple) (tuple : PolicyTuple) : Operation → Prop
  | .load => tuple ∈ before
  | .edit wanted => wanted.Leaves before tuple

/-- What an operation comes to where the grants list the stored tuples. -/
theorem alone_perform (agrees : Agrees site) (operation : Operation) :
    (operation.perform engine).alone site =
      (outcomeOf (operation.fault? engine site) (operation.answerFor site.tuples),
        operation.behind engine site) := by
  cases operation with
  | load => exact alone_load site
  | edit wanted =>
      rw [perform, PolicyEngine.alone_perform, Edit.result, answer_eq_answerFor agrees]
      rfl

theorem agrees_behind (agrees : Agrees site) (operation : Operation) :
    Agrees (operation.behind engine site) := by
  cases operation with
  | load => exact agrees_reloaded agrees
  | edit wanted => exact agrees_asked agrees (wanted.change? site.grants)

theorem writing_behind (site : Site) (operation : Operation) :
    (operation.behind engine site).writing = false := by
  cases operation with
  | load => exact writing_reloaded site
  | edit wanted => rfl

/-- Behind an operation that failed, the tuples and the grants are the ones that
were there before. -/
theorem behind_of_fault {operation : Operation} {fault : StoreFault}
    (failed : operation.fault? engine site = some fault) :
    (operation.behind engine site).tuples = site.tuples ∧
      (operation.behind engine site).grants = site.grants ∧
        (operation.behind engine site).edition = site.edition := by
  cases operation with
  | load =>
      simp only [fault?] at failed
      simp only [behind, reloaded, failed]
      exact ⟨rfl, rfl, rfl⟩
  | edit wanted =>
      simp only [fault?] at failed
      simp only [behind, Edit.behind, asked_of_fault failed]
      exact ⟨rfl, rfl, rfl⟩

/-- Behind an operation that succeeded, the tuples are those that it is to leave. -/
theorem mem_behind (agrees : Agrees site) {operation : Operation}
    (succeeded : operation.fault? engine site = none) (tuple : PolicyTuple) :
    tuple ∈ (operation.behind engine site).tuples ↔ operation.Leaves site.tuples tuple := by
  cases operation with
  | load => rw [behind, tuples_reloaded, Leaves]
  | edit wanted => exact mem_edited agrees succeeded tuple

/-- An operation does not fail over a store that answers in time. -/
theorem fault?_eq_none (operation : Operation)
    (answers : ∀ backend, (site.conditions backend).Answers engine.timeout) :
    operation.fault? engine site = none := by
  cases operation with
  | load => exact Condition.fault?_eq_none _ (answers .policyLoad)
  | edit wanted =>
      rw [fault?, askFault?, Option.bind_eq_none_iff]
      intro change _
      exact Condition.fault?_eq_none _ (answers .policyWrite)

end Operation

/-! ## Operations one after the other -/

/-- What is to be had of an operation. Afterwards the grants list the stored
tuples, and the next change may begin. If the operation succeeds, the stored
tuples are those that it is to leave, and its answer tells of those that were
there. If it fails, nothing has changed. It succeeds if the store answers. -/
structure Operation.Faithful (operation : Operation) (engine : PolicyEngine) (site : Site) :
    Prop where
  agrees : Agrees ((operation.perform engine).behind site)
  free : ((operation.perform engine).behind site).writing = false
  effect : ∀ answer, (operation.perform engine).outcome site = .ok answer →
    answer = operation.answerFor site.tuples ∧
      ∀ tuple, tuple ∈ ((operation.perform engine).behind site).tuples ↔
        operation.Leaves site.tuples tuple
  unchanged : ∀ fault, (operation.perform engine).outcome site = .error fault →
    ((operation.perform engine).behind site).tuples = site.tuples ∧
      ((operation.perform engine).behind site).grants = site.grants ∧
        ((operation.perform engine).behind site).edition = site.edition
  succeeds : (∀ backend, (site.conditions backend).Answers engine.timeout) →
    ∃ answer, (operation.perform engine).outcome site = .ok answer

theorem Operation.faithful (operation : Operation) (engine : PolicyEngine) {site : Site}
    (agrees : Agrees site) : operation.Faithful engine site := by
  have outcome : (operation.perform engine).outcome site =
      outcomeOf (operation.fault? engine site) (operation.answerFor site.tuples) :=
    congrArg Prod.fst (operation.alone_perform agrees)
  have behind : (operation.perform engine).behind site = operation.behind engine site :=
    congrArg Prod.snd (operation.alone_perform agrees)
  constructor
  · rw [behind]
    exact operation.agrees_behind agrees
  · rw [behind]
    exact operation.writing_behind site
  · intro answer succeeded
    rw [outcome, outcomeOf_eq_ok] at succeeded
    rw [behind]
    exact ⟨succeeded.2.symm, mem_behind agrees succeeded.1⟩
  · intro fault failed
    rw [outcome, outcomeOf_eq_error] at failed
    rw [behind]
    exact behind_of_fault failed
  · intro answers
    rw [outcome, operation.fault?_eq_none answers]
    exact ⟨_, rfl⟩

/-- An operation, with the conditions in which it finds the store. -/
structure Turn where
  conditions : Backend → Condition
  operation : Operation

/-- A state in which the store is in the conditions of a turn. -/
def Turn.found (turn : Turn) (site : Site) : Site := { site with conditions := turn.conditions }

/-- The state behind operations that were carried out one after the other. -/
def after (engine : PolicyEngine) (history : List Turn) (site : Site) : Site :=
  history.foldl (fun site turn => (turn.operation.perform engine).behind (turn.found site)) site

theorem after_agrees (history : List Turn) (agrees : Agrees site) (free : site.writing = false) :
    Agrees (engine.after history site) ∧ (engine.after history site).writing = false := by
  induction history generalizing site with
  | nil => exact ⟨agrees, free⟩
  | cons turn rest ih =>
      have found : Agrees (turn.found site) := agrees
      have faithful := turn.operation.faithful engine found
      exact ih faithful.agrees faithful.free

/-- Once the policy has been loaded, the grants list the stored tuples after
whichever operations, and every further operation is faithful. -/
theorem enforced_eq_stored (engine : PolicyEngine) (initial : Site)
    (loaded : engine.load.outcome initial = .ok ()) (history : List Turn) (turn : Turn) :
    Agrees (engine.after history (engine.load.behind initial)) ∧
      (engine.after history (engine.load.behind initial)).writing = false ∧
        turn.operation.Faithful engine
          (turn.found (engine.after history (engine.load.behind initial))) := by
  have alone := engine.alone_load initial
  have outcome : engine.load.outcome initial = outcomeOf _ () := congrArg Prod.fst alone
  have behind : engine.load.behind initial = engine.reloaded initial := congrArg Prod.snd alone
  rw [outcome, outcomeOf_eq_ok] at loaded
  rw [behind]
  have kept := engine.after_agrees history (agrees_of_loaded loaded.1) (writing_reloaded initial)
  have found : Agrees (turn.found (engine.after history (engine.reloaded initial))) := kept.1
  exact ⟨kept.1, kept.2, turn.operation.faithful engine found⟩

/-- A policy of one tuple, loaded by an engine that waits two seconds. -/
def oneTuple : Site := .initial 0 ⟨0, 0⟩ [] [⟨⟨"admin"⟩, "role.v1.RoleService/CreateRole"⟩] []

/-- A change that the store refuses is followed by one of the same role that it
makes. -/
theorem enforced_eq_stored_after_refusal :
    (PolicyEngine.mk (.ofSeconds 2)).load.outcome oneTuple = .ok () ∧
      Agrees ((PolicyEngine.mk (.ofSeconds 2)).after
        [⟨fun _ => ⟨⟨0⟩, some (.store "down")⟩, .edit (.removeRole ⟨"admin"⟩)⟩,
          ⟨fun _ => .sound, .edit (.replaceRole ⟨"admin"⟩ ["role.v1.RoleService/DeleteRole"])⟩]
        ((PolicyEngine.mk (.ofSeconds 2)).load.behind oneTuple)) := by
  have loaded : (PolicyEngine.mk (.ofSeconds 2)).load.outcome oneTuple = .ok () := rfl
  exact ⟨loaded, (enforced_eq_stored _ _ loaded _ ⟨fun _ => .sound, .load⟩).1⟩

end Gatehouse.PolicyEngine
