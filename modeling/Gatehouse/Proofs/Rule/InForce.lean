import Gatehouse.Rule

/-!
# The rule of a procedure

Rules are keyed by procedure in the order in which they are looked up. So the
rule of a procedure is the first one in this order that has not been deleted,
and there is one exactly if some rule of the procedure has not been deleted.
-/

namespace Gatehouse

namespace RuleMap

theorem get?_foldl (rules : List Rule) (map : RuleMap) (procedure : String) :
    (rules.foldl (fun map rule =>
      if (map.get? rule.procedure).isSome then map else map.insert rule.procedure rule) map).get?
        procedure =
      (map.get? procedure).or (rules.find? fun rule => rule.procedure == procedure) := by
  induction rules generalizing map with
  | nil => rw [List.foldl_nil, List.find?_nil, Option.or_none]
  | cons rule rest ih =>
      rw [List.foldl_cons, ih]
      by_cases same : rule.procedure = procedure
      · subst same
        cases present : map.get? rule.procedure with
        | some found => simp [present]
        | none => simp
      · rw [List.find?_cons_of_neg (by simpa using same)]
        split
        · rfl
        · rw [OrderedMap.get?_insert, if_neg (Ne.symm same)]

/-- The first rule in force of a procedure counts. -/
theorem get?_ofRules (rules : List Rule) (procedure : String) :
    (ofRules rules).get? procedure =
      (rules.filter fun rule => !rule.isDeleted).find? fun rule => rule.procedure == procedure := by
  rw [ofRules, get?_foldl, OrderedMap.get?_empty, Option.none_or]

end RuleMap

theorem RuleStore.mem_active {store : RuleStore} {rule : Rule} :
    rule ∈ store.active ↔ rule ∈ store.rules ∧ rule.isDeleted = false := by
  rw [active, List.mem_mergeSort, List.mem_filter]
  simp

end Gatehouse
