import Gatehouse.Proofs.Guard.Lookup
import Gatehouse.Proofs.Ordered.Members
import Gatehouse.Proofs.Rule.InForce
import Gatehouse.Proofs.Rule.Newest

/-!
# Rules that stand

Rules are inserted and deleted in any order, whenever they are said to have been created.
Which rules stand is told by this history alone: those that were not deleted when they were
inserted, and whose procedure has not been deleted since. These are the rules that the store
lists. Of the rules that stand for a procedure only the newest is in force, and deleting the
procedure leaves none, whatever older rules there were.
-/

namespace Gatehouse

/-! ## The store -/

namespace RuleStore

variable {store : RuleStore} {procedure : String} {rule : Rule}

/-- The stored rules that are not deleted, in the order of their insertion. -/
def live (store : RuleStore) : List Rule := store.rules.filter fun rule => !rule.isDeleted

/-- The map that a load of the stored rules makes. -/
def inForce (store : RuleStore) : RuleMap := .ofRules store.active

theorem active_eq (store : RuleStore) : store.active = store.live.mergeSort Rule.isNotOlder := rfl

theorem live_insert (store : RuleStore) (rule : Rule) :
    (store.insert rule).live = store.live ++ if rule.isDeleted then [] else [rule] := by
  rw [live, insert, List.filter_append, live]
  cases deleted : rule.isDeleted <;> simp [deleted]

/-- All live rules of a procedure are deleted, and no other ones. -/
theorem live_delete (store : RuleStore) (procedure : String) (now : Moment) :
    (store.delete procedure now).live = store.live.filter (·.procedure != procedure) := by
  simp only [live, delete]
  induction store.rules with
  | nil => rfl
  | cons rule rest ih =>
      have marked : ({ rule with deletedAt := some now } : Rule).isDeleted = true := rfl
      rw [List.map_cons, List.filter_cons, ih, List.filter_cons]
      cases deleted : rule.isDeleted with
      | true => simp [deleted]
      | false =>
          by_cases same : rule.procedure = procedure
          · subst same
            simp [marked]
          · simp [same, deleted]

theorem count_eq (store : RuleStore) (procedure : String) :
    store.count procedure = (store.live.filter (·.procedure == procedure)).length := by
  rw [count, live, List.filter_filter]

/-- The newest live rule of a procedure is in force. -/
theorem get?_inForce_eq_some_iff :
    store.inForce.get? procedure = some rule ↔ Rule.IsNewest store.live procedure rule := by
  have kept : store.active.filter (fun rule => !rule.isDeleted) = store.active := by
    rw [List.filter_eq_self]
    intro rule member
    simp [(mem_active.mp member).2]
  rw [inForce, RuleMap.get?_ofRules, kept, active_eq, Rule.find?_mergeSort_eq_some_iff]

/-- A procedure without a live rule has none in force, and no other procedure has none. -/
theorem get?_inForce_eq_none_iff :
    store.inForce.get? procedure = none ↔ ∀ rule ∈ store.live, rule.procedure ≠ procedure := by
  rw [inForce, RuleMap.get?_ofRules, List.find?_eq_none]
  simp only [List.mem_filter, mem_active, live, beq_iff_eq, Bool.not_eq_true']
  constructor
  · exact fun apart rule member => apart rule ⟨member, member.2⟩
  · exact fun apart rule member => apart rule member.1

/-- Deleting a procedure leaves what is in force of every other one. -/
theorem get?_inForce_delete (store : RuleStore) {other : String} (apart : other ≠ procedure)
    (now : Moment) :
    (store.delete procedure now).inForce.get? other = store.inForce.get? other := by
  cases found : store.inForce.get? other with
  | some rule =>
      have newest := get?_inForce_eq_some_iff.mp found
      rw [get?_inForce_eq_some_iff, live_delete]
      exact newest.filter (by simp [newest.1, apart])
  | none =>
      rw [get?_inForce_eq_none_iff] at found ⊢
      intro rule member
      rw [live_delete] at member
      exact found rule (List.mem_filter.mp member).1

end RuleStore

/-! ## The history -/

/-- A change of the stored rules. -/
inductive RuleChange where
  | insert (rule : Rule)
  /-- Delete the rules of a procedure at a moment. -/
  | delete (procedure : String) (now : Moment)

namespace RuleChange

/-- The stored rules behind a change. -/
def behind (store : RuleStore) : RuleChange → RuleStore
  | .insert rule => store.insert rule
  | .delete procedure now => store.delete procedure now

/-- Whether a change deletes the rules of a procedure. -/
def deletes (procedure : String) : RuleChange → Bool
  | .insert _ => false
  | .delete other _ => procedure == other

end RuleChange

/-- The changes of a store of rules that was empty, the first one first. -/
abbrev RuleHistory := List RuleChange

namespace RuleHistory

/-- The store behind a history. -/
def store (history : RuleHistory) : RuleStore := history.foldl RuleChange.behind ⟨[]⟩

/-- The rules that stand behind a history, in the order of their insertion: none that was
deleted when it was inserted, and none whose procedure was deleted later. -/
def standing : RuleHistory → List Rule
  | [] => []
  | .insert rule :: later =>
      if rule.isDeleted || later.any (·.deletes rule.procedure) then standing later
      else rule :: standing later
  | .delete _ _ :: later => standing later

/-- Of the rules that a history finds, those stand whose procedure it does not delete. -/
theorem live_foldl (history : RuleHistory) (store : RuleStore) :
    (history.foldl RuleChange.behind store).live =
      store.live.filter (fun rule => !history.any (·.deletes rule.procedure)) ++
        history.standing := by
  induction history generalizing store with
  | nil =>
      rw [standing, List.append_nil]
      exact (List.filter_eq_self.mpr fun _ _ => rfl).symm
  | cons change later ih =>
      rw [List.foldl_cons, ih]
      cases change with
      | insert rule =>
          have spares : ∀ other : Rule,
              RuleChange.deletes other.procedure (.insert rule) = false := fun _ => rfl
          rw [RuleChange.behind, RuleStore.live_insert, List.filter_append, List.append_assoc,
            standing]
          simp only [List.any_cons, spares, Bool.false_or]
          cases rule.isDeleted with
          | true => rfl
          | false => cases gone : later.any (·.deletes rule.procedure) <;> simp [gone]
      | delete procedure now =>
          rw [RuleChange.behind, RuleStore.live_delete, List.filter_filter, standing]
          congr 1
          apply List.filter_congr
          intro rule _
          rw [List.any_cons, Bool.not_or, Bool.and_comm]
          rfl

/-- The rules that the store has not deleted are those that stand. -/
theorem live_store (history : RuleHistory) : history.store.live = history.standing :=
  live_foldl history ⟨[]⟩

/-- What the store shows of the rules that stand. -/
structure IsShown (history : RuleHistory) (store : RuleStore) : Prop where
  /-- The store lists every rule as often as it stands. -/
  listed : store.active.Perm history.standing
  newestFirst : store.active.Pairwise fun a b => b.createdAt.isLater a.createdAt = false
  /-- Rules that were created at one moment are listed in the order of their insertion. -/
  tied : ∀ moment, store.active.filter (·.createdAt == moment) =
    history.standing.filter (·.createdAt == moment)
  /-- A load that the store answers makes the map of the rules in force. -/
  loads : ∀ (permissions : Permissions) (site : Site), site.rules = store →
    (site.conditions .rules).Answers permissions.timeout →
      permissions.load.outcome site = .ok store.inForce
  newest : ∀ procedure rule, store.inForce.get? procedure = some rule ↔
    Rule.IsNewest history.standing procedure rule
  keys : ∀ procedure, procedure ∈ store.inForce.keys ↔
    ∃ rule ∈ history.standing, rule.procedure = procedure
  counts : ∀ procedure, store.count procedure =
    (history.standing.filter (·.procedure == procedure)).length
  /-- A deletion leaves no rule of the procedure in force, and spares all others. -/
  deletes : ∀ procedure now, (store.delete procedure now).inForce.get? procedure = none ∧
    ∀ other, other ≠ procedure →
      (store.delete procedure now).inForce.get? other = store.inForce.get? other

/-- Whatever rules were inserted and deleted, the store shows the rules that stand, and the
newest rule of each procedure is in force. -/
theorem isShown_store (history : RuleHistory) : history.IsShown history.store where
  listed := by
    rw [RuleStore.active_eq, live_store]
    exact List.mergeSort_perm ..
  newestFirst := by
    rw [RuleStore.active_eq]
    exact Rule.pairwise_mergeSort _
  tied moment := by rw [RuleStore.active_eq, live_store, Rule.filter_mergeSort]
  loads := by
    intro permissions site same answers
    rw [Task.outcome, (permissions.alone_load site).1]
    simp only [Permissions.loaded, Site.gateView, Condition.fault?_eq_none _ answers, same]
    rfl
  newest procedure rule := by rw [RuleStore.get?_inForce_eq_some_iff, live_store]
  keys procedure := by
    rw [OrderedMap.mem_keys_iff, ← Option.isSome_iff_exists, ← Option.ne_none_iff_isSome, Ne,
      RuleStore.get?_inForce_eq_none_iff, live_store]
    simp only [Classical.not_forall, Classical.not_not, exists_prop]
  counts procedure := by rw [RuleStore.count_eq, live_store]
  deletes procedure now := by
    constructor
    · rw [RuleStore.get?_inForce_eq_none_iff, RuleStore.live_delete]
      intro rule member
      simpa using (List.mem_filter.mp member).2
    · exact fun other apart => RuleStore.get?_inForce_delete _ apart now

end RuleHistory

end Gatehouse
