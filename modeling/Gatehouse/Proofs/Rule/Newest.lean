import Gatehouse.Rule

/-!
# The newest rule of a procedure

Moments are in a total order, so the rules of a list can be put in the order of their
creation, with the newest first. Rules that were created at one moment keep their order. So
the first rule of a procedure is then the newest one, and of several the one that stood
first in the list.
-/

namespace Gatehouse

/-! ## The order of moments -/

namespace Moment

variable {a b c : Moment}

theorem isLater_iff :
    a.isLater b = true ↔ b.seconds < a.seconds ∨ a.seconds = b.seconds ∧ b.nanos < a.nanos := by
  simp [isLater]

theorem isLater_eq_false_iff : a.isLater b = false ↔
    a.seconds < b.seconds ∨ a.seconds = b.seconds ∧ a.nanos ≤ b.nanos := by
  rw [← Bool.not_eq_true, isLater_iff]
  omega

@[simp] theorem not_isLater_self (a : Moment) : a.isLater a = false := by
  simp [isLater_eq_false_iff]

theorem not_isLater_of_isLater (later : a.isLater b = true) : b.isLater a = false := by
  rw [isLater_iff] at later
  rw [isLater_eq_false_iff]
  omega

theorem not_isLater_trans (first : a.isLater b = false) (second : b.isLater c = false) :
    a.isLater c = false := by
  rw [isLater_eq_false_iff] at *
  omega

/-- Of two moments one is the later, unless they are the same. -/
theorem eq_of_not_isLater (first : a.isLater b = false) (second : b.isLater a = false) : a = b := by
  rw [isLater_eq_false_iff] at first second
  obtain ⟨seconds, nanos⟩ : a.seconds = b.seconds ∧ a.nanos = b.nanos := by omega
  cases a
  cases b
  congr

end Moment

/-! ## The rules with the newest first -/

namespace Rule

variable {rules : List Rule} {procedure : String} {rule : Rule}

/-- Whether a rule was not created before another one. -/
def isNotOlder (a b : Rule) : Bool := !b.createdAt.isLater a.createdAt

theorem isNotOlder_iff {a b : Rule} :
    a.isNotOlder b = true ↔ b.createdAt.isLater a.createdAt = false := by
  simp [isNotOlder]

theorem isNotOlder_trans (a b c : Rule) (first : a.isNotOlder b = true)
    (second : b.isNotOlder c = true) : a.isNotOlder c = true := by
  rw [isNotOlder_iff] at *
  exact Moment.not_isLater_trans second first

theorem isNotOlder_total (a b : Rule) : (a.isNotOlder b || b.isNotOlder a) = true := by
  rw [Bool.or_eq_true, isNotOlder_iff, isNotOlder_iff]
  cases later : b.createdAt.isLater a.createdAt with
  | false => exact .inl rfl
  | true => exact .inr (Moment.not_isLater_of_isLater later)

theorem pairwise_mergeSort (rules : List Rule) :
    (rules.mergeSort isNotOlder).Pairwise fun a b => b.createdAt.isLater a.createdAt = false :=
  (List.pairwise_mergeSort isNotOlder_trans isNotOlder_total rules).imp isNotOlder_iff.mp

/-- Rules that were created at one moment keep their order. -/
theorem filter_mergeSort (rules : List Rule) (moment : Moment) :
    (rules.mergeSort isNotOlder).filter (·.createdAt == moment) =
      rules.filter (·.createdAt == moment) := by
  have tied : (rules.filter (·.createdAt == moment)).Pairwise fun a b => a.isNotOlder b = true := by
    apply List.pairwise_of_forall_mem_list
    intro a first b second
    rw [isNotOlder_iff, beq_iff_eq.mp (List.mem_filter.mp first).2,
      beq_iff_eq.mp (List.mem_filter.mp second).2, Moment.not_isLater_self]
  have kept := (List.sublist_mergeSort isNotOlder_trans isNotOlder_total tied
    List.filter_sublist).filter (·.createdAt == moment)
  simp only [List.filter_filter, Bool.and_self] at kept
  exact (kept.eq_of_length ((List.mergeSort_perm rules isNotOlder).filter _).length_eq.symm).symm

/-- A rule is the newest one of a procedure among rules in the order of their insertion:
those of the procedure ahead of it are older, and those behind it are not newer. -/
def IsNewest (rules : List Rule) (procedure : String) (rule : Rule) : Prop :=
  rule.procedure = procedure ∧ ∃ early late, rules = early ++ rule :: late ∧
    (∀ other ∈ early, other.procedure = procedure →
      rule.createdAt.isLater other.createdAt = true) ∧
    ∀ other ∈ late, other.procedure = procedure → other.createdAt.isLater rule.createdAt = false

theorem IsNewest.mem (newest : IsNewest rules procedure rule) : rule ∈ rules := by
  obtain ⟨-, early, late, rfl, -⟩ := newest
  simp

/-- Where rules of other procedures are dropped, the newest rule stays the newest. -/
theorem IsNewest.filter (newest : IsNewest rules procedure rule) {keep : Rule → Bool}
    (kept : keep rule = true) : IsNewest (rules.filter keep) procedure rule := by
  obtain ⟨own, early, late, rfl, older, notNewer⟩ := newest
  refine ⟨own, early.filter keep, late.filter keep, ?_, ?_, ?_⟩
  · rw [List.filter_append, List.filter_cons_of_pos kept]
  · exact fun other member => older other (List.mem_filter.mp member).1
  · exact fun other member => notNewer other (List.mem_filter.mp member).1

/-- The newest rule is the first one of those that no rule is newer than. -/
theorem isNewest_iff : IsNewest rules procedure rule ↔
    (∀ other ∈ rules, other.procedure = procedure →
      other.createdAt.isLater rule.createdAt = false) ∧
    rules.find? (fun other => other.procedure == procedure &&
      other.createdAt == rule.createdAt) = some rule := by
  constructor
  · rintro ⟨own, early, late, rfl, older, notNewer⟩
    constructor
    · intro other member same
      rcases List.mem_append.mp member with ahead | behind
      · exact Moment.not_isLater_of_isLater (older other ahead same)
      · rcases List.mem_cons.mp behind with rfl | behind
        · exact Moment.not_isLater_self _
        · exact notNewer other behind same
    · rw [List.find?_eq_some_iff_append]
      refine ⟨by simp [own], early, late, rfl, fun other ahead => ?_⟩
      by_cases same : other.procedure = procedure
      · have later := older other ahead same
        have apart : other.createdAt ≠ rule.createdAt := by
          intro tied
          rw [tied, Moment.not_isLater_self] at later
          contradiction
        simp [apart]
      · simp [same]
  · rintro ⟨notNewer, first⟩
    obtain ⟨own, early, late, rfl, apart⟩ := List.find?_eq_some_iff_append.mp first
    simp only [Bool.and_eq_true, beq_iff_eq] at own
    refine ⟨own.1, early, late, rfl, fun other ahead same => ?_, fun other behind => ?_⟩
    · -- Not newer and not created at the same moment, so older.
      cases later : rule.createdAt.isLater other.createdAt with
      | true => rfl
      | false =>
          have tied := Moment.eq_of_not_isLater (notNewer other (by simp [ahead]) same) later
          have differs := apart other ahead
          simp [same, tied] at differs
    · exact notNewer other (by simp [behind])

/-- The first rule of a procedure is the newest one, where the newest come first. -/
theorem isNewest_of_find? (found : (rules.mergeSort isNotOlder).find?
    (fun other => other.procedure == procedure) = some rule) :
    IsNewest rules procedure rule := by
  rw [isNewest_iff]
  obtain ⟨own, front, back, split, others⟩ := List.find?_eq_some_iff_append.mp found
  constructor
  · intro other member same
    have sorted := pairwise_mergeSort rules
    rw [split] at sorted
    have among : other ∈ rules.mergeSort isNotOlder := List.mem_mergeSort.mpr member
    rw [split] at among
    rcases List.mem_append.mp among with ahead | behind
    · have differs := others other ahead
      simp [same] at differs
    · rcases List.mem_cons.mp behind with rfl | behind
      · exact Moment.not_isLater_self _
      · exact (List.pairwise_cons.mp (List.pairwise_append.mp sorted).2.1).1 other behind
  · -- Among the rules of that moment the order is the one of insertion.
    have tied : ((rules.mergeSort isNotOlder).filter (·.createdAt == rule.createdAt)).find?
        (fun other => other.procedure == procedure) = some rule := by
      have absent : (front.filter (·.createdAt == rule.createdAt)).find?
          (fun other => other.procedure == procedure) = none := by
        rw [List.find?_eq_none]
        intro other member
        simpa using others other (List.mem_filter.mp member).1
      rw [split, List.filter_append, List.find?_append, absent, Option.none_or,
        List.filter_cons_of_pos (by simp)]
      exact List.find?_cons_of_pos own
    rw [filter_mergeSort, List.find?_filter] at tied
    rw [← tied]
    congr 1
    funext other
    rw [Bool.and_comm, Bool.decide_and, Bool.decide_eq_true, Bool.decide_eq_true]

theorem find?_mergeSort_eq_some_iff : (rules.mergeSort isNotOlder).find?
    (fun other => other.procedure == procedure) = some rule ↔ IsNewest rules procedure rule := by
  constructor
  · exact isNewest_of_find?
  · intro newest
    obtain ⟨found, first⟩ : ∃ found, (rules.mergeSort isNotOlder).find?
        (fun other => other.procedure == procedure) = some found := by
      rw [← Option.isSome_iff_exists, List.find?_isSome]
      exact ⟨rule, List.mem_mergeSort.mpr newest.mem, beq_iff_eq.mpr newest.1⟩
    have also := isNewest_of_find? first
    have tied : found.createdAt = rule.createdAt := Moment.eq_of_not_isLater
      ((isNewest_iff.mp newest).1 found also.mem also.1)
      ((isNewest_iff.mp also).1 rule newest.mem newest.1)
    have same := (isNewest_iff.mp also).2
    rw [tied, (isNewest_iff.mp newest).2] at same
    rw [first, same]

end Rule

end Gatehouse
