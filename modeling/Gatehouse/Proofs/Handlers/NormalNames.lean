import Gatehouse.Proofs.Handlers.BookKeeping
import Gatehouse.Proofs.Text.NormalForm

/-!
# The names in the policy

The role service writes each role under its normal form and looks roles up under theirs.
As a normal form is its own normal form, a name that is listed leads back to the role it is
listed for, and so does every spelling of it. This holds behind any calls of the service,
whether the store made the changes they asked for or not.
-/

namespace Gatehouse.RoleService

open PolicyEngine (Edit)

variable {engine : PolicyEngine} {site : Site} {payload : Json}

/-! ## Normal tuples -/

/-- A tuple as the service writes it. -/
structure IsNormal (tuple : PolicyTuple) : Prop where
  named : tuple.role.name ≠ ""
  normal : Role.normalized tuple.role.name = tuple.role
  filled : tuple.procedure ≠ ""
  trimmed : trim tuple.procedure = tuple.procedure

theorem eq_normalized_of_roleOf {text : String} {role : Role} (named : roleOf text = .ok role) :
    role = Role.normalized text := by
  rw [roleOf] at named
  generalize Role.normalized text = given at named ⊢
  cases unnamed : given.isEmpty with
  | true => simp [unnamed] at named
  | false => simpa [unnamed] using named.symm

/-- Procedures that are listed have a name, without blanks around it. -/
theorem trimmed_of_proceduresOf {permissions procedures : List String} {procedure : String}
    (listed : proceduresOf permissions = .ok procedures) (among : procedure ∈ procedures) :
    procedure ≠ "" ∧ trim procedure = procedure := by
  simp only [proceduresOf] at listed
  split at listed
  · contradiction
  · obtain rfl := Except.ok.inj listed
    rw [cleaned, OrderedSet.mem_toList, OrderedSet.mem_ofList, List.mem_filter,
      List.mem_map] at among
    rcases among with ⟨⟨text, -, rfl⟩, some⟩
    exact ⟨by simpa using some, trim_trim text⟩

/-- What a payload asks to be written is normal. -/
theorem normal_of_readRole {role : Role} {procedures : List String} {procedure : String}
    (read : readRole payload = .ok (role, procedures)) (among : procedure ∈ procedures) :
    IsNormal ⟨role, procedure⟩ := by
  have named := name_ne_empty_of_readRole payload read
  rcases bind_eq_ok.mp read with ⟨request, -, rest⟩
  rcases bind_eq_ok.mp rest with ⟨given, normal, rest⟩
  rcases bind_eq_ok.mp rest with ⟨cleaned, listed, rest⟩
  obtain ⟨rfl, rfl⟩ := Prod.mk.inj (Except.ok.inj rest)
  have trimmed := trimmed_of_proceduresOf listed among
  refine ⟨named, ?_, trimmed.1, trimmed.2⟩
  rw [eq_normalized_of_roleOf normal, Role.normalized_name]

theorem toOption_eq_some {φ α : Type} {result : Except φ α} {value : α} :
    result.toOption = some value ↔ result = .ok value := by
  cases result <;> simp [Except.toOption]

/-- The edit of a call leaves no tuple that is neither normal nor there before. -/
theorem normal_of_editOf? {procedure : String} {edit : Edit}
    (made : editOf? procedure payload = some edit) {before : OrderedSet PolicyTuple}
    {tuple : PolicyTuple} (left : edit.Leaves before tuple) :
    tuple ∈ before ∨ IsNormal tuple := by
  have written {request : Role × List String} (read : (readRole payload).toOption = some request)
      (among : tuple ∈ PolicyEngine.roleTuples request.1 request.2) : IsNormal tuple := by
    rcases PolicyEngine.mem_roleTuples.mp among with ⟨same, listed⟩
    have normal := normal_of_readRole (toOption_eq_some.mp read) listed
    rw [← same] at normal
    exact normal
  rw [editOf?] at made
  split at made
  · rcases Option.map_eq_some_iff.mp made with ⟨request, read, rfl⟩
    exact left.imp_right fun fresh => written read fresh.2
  · split at made
    · rcases Option.map_eq_some_iff.mp made with ⟨request, read, rfl⟩
      rw [Edit.Leaves] at left
      split at left
      · exact .inl left
      · exact left.imp And.left (written read)
    · split at made
      · rcases Option.map_eq_some_iff.mp made with ⟨role, -, rfl⟩
        exact .inl left.1
      · contradiction

/-! ## The state is tidy -/

/-- All tuples are normal, in the store and in memory. -/
structure IsTidy (site : Site) : Prop where
  normal : ∀ tuple ∈ site.tuples, IsNormal tuple
  reflects : Reflects (.ofTuples site.tuples) site

namespace IsTidy

theorem found (tidy : IsTidy site) (conditions : Backend → Condition) :
    IsTidy { site with conditions := conditions } :=
  ⟨tidy.normal, Visit.reflects_found tidy.reflects conditions⟩

/-- An edit that is to leave no other tuples than normal ones does so, and one that fails
leaves those that were there. -/
theorem behind (tidy : IsTidy site) {edit : Edit}
    (leaves : ∀ tuple, edit.Leaves site.tuples tuple → tuple ∈ site.tuples ∨ IsNormal tuple) :
    IsTidy (edit.behind engine site) where
  normal := by
    intro tuple among
    -- Whether the store makes the change is not known here: a tuple is new only if it does.
    cases failed : engine.askFault? (edit.change? site.grants) site with
    | some fault =>
        rw [Edit.behind, PolicyEngine.asked_of_fault failed] at among
        exact tidy.normal tuple among
    | none =>
        have left := (PolicyEngine.mem_edited tidy.reflects.agrees failed tuple).mp among
        exact (leaves tuple left).elim (tidy.normal tuple) id
  reflects := ⟨fun _ => Book.mem_ofTuples.symm,
    PolicyEngine.agrees_asked tidy.reflects.agrees (edit.change? site.grants),
    PolicyEngine.isProper_behind tidy.reflects.proper edit, rfl⟩

/-- Every call keeps the state tidy. -/
theorem served (tidy : IsTidy site) (visit : Visit) : IsTidy (visit.served engine site).2 := by
  have among : (visit.method.procedure, visit.method.handler engine) ∈ handlers engine := by
    rw [handlers_eq]
    exact List.mem_map_of_mem (by cases visit.method <;> decide)
  have found := tidy.found visit.conditions
  have behind := behind_handler engine visit.context visit.payload among
    { site with conditions := visit.conditions }
  change IsTidy (Task.behind _ _)
  rw [behind]
  cases made : editOf? visit.method.procedure visit.payload with
  | none => exact found
  | some edit => exact found.behind fun _ left => normal_of_editOf? made left

theorem after (tidy : IsTidy site) (history : List Visit) :
    IsTidy (Visit.after engine history site) := by
  induction history generalizing site with
  | nil => exact tidy
  | cons visit rest ih => exact ih (tidy.served visit)

/-- Where nothing is stored, the state is tidy once the policy has been loaded. -/
theorem loaded (engine : PolicyEngine) {initial : Site} (bare : initial.tuples = .empty)
    (loads : (initial.conditions .policyLoad).Answers engine.timeout) :
    IsTidy (engine.load.behind initial) := by
  have reflects := reflects_loaded engine loads
  have same : (engine.load.behind initial).tuples = initial.tuples :=
    (congrArg (fun outcome => outcome.2.tuples) (engine.alone_load initial)).trans
      (PolicyEngine.tuples_reloaded initial)
  constructor
  · intro tuple stored
    rw [same, bare] at stored
    exact absurd stored (OrderedSet.not_mem_empty tuple)
  · rw [same]
    exact reflects

end IsTidy

/-! ## Names that are listed -/

/-- What a list of names is answered as. -/
def listing (names : List String) : Json :=
  .object [("data", .array (names.map fun name => .object [("name", .string name)]))]

/-- The role of a name is found, changed and taken away under a text. -/
structure IsHad (engine : PolicyEngine) (site : Site) (name text : String) : Prop where
  found : ∀ visit : Visit, visit.method = .findRoleByName →
    NameRequest.codec.read visit.payload = .ok ⟨text⟩ →
      ∃ permissions, permissions ≠ [] ∧
        (visit.served engine site).1 = .ok (payloadOf name permissions)
  updated : ∀ (visit : Visit) (permissions : List String), visit.method = .updateRole →
    RoleRequest.codec.read visit.payload = .ok ⟨text, permissions⟩ → cleaned permissions ≠ [] →
      visit.IsAnswered engine →
        (visit.served engine site).1 = .ok success ∧
          ∀ procedure, (⟨⟨name⟩, procedure⟩ : PolicyTuple) ∈ (visit.served engine site).2.tuples ↔
            procedure ∈ cleaned permissions
  deleted : ∀ visit : Visit, visit.method = .deleteRole →
    NameRequest.codec.read visit.payload = .ok ⟨text⟩ → visit.IsAnswered engine →
      (visit.served engine site).1 = .ok success ∧
        ∀ procedure, (⟨⟨name⟩, procedure⟩ : PolicyTuple) ∉ (visit.served engine site).2.tuples

/-- The tuples are normal, and the names that are listed are told apart by their normal
forms and lead to their roles under every text that has them. -/
structure IsOrderly (engine : PolicyEngine) (site : Site) : Prop where
  normal : ∀ tuple, tuple ∈ site.tuples ∨ tuple ∈ site.grants → IsNormal tuple
  listed : ∀ visit : Visit, visit.method = .findAllRoles →
    ∃ names, (visit.served engine site).1 = .ok (listing names) ∧
      (names.map Role.normalized).Nodup ∧
        ∀ name ∈ names, ∀ text, Role.normalized text = Role.normalized name →
          IsHad engine site name text

theorem readName?_eq_some {text : String} {role : Role}
    (read : NameRequest.codec.read payload = .ok ⟨text⟩) (named : named? text = some role) :
    readName? payload = some role := by
  simp [readName?, read, Except.toOption, named]

theorem readRole?_eq_some {text : String} {permissions : List String} {role : Role}
    (read : RoleRequest.codec.read payload = .ok ⟨text, permissions⟩)
    (named : named? text = some role) (filled : cleaned permissions ≠ []) :
    readRole? payload = some (role, listed permissions) := by
  have several : (listed permissions).isEmpty = false := by
    rw [OrderedSet.isEmpty_eq_false_iff]
    rcases List.exists_mem_of_ne_nil _ filled with ⟨procedure, among⟩
    exact ⟨procedure, OrderedSet.mem_toList.mp among⟩
  simp [readRole?, read, Except.toOption, named, listed?, several]

namespace IsTidy

/-- A role that is there is had under every text that reads as it. -/
theorem isHad (tidy : IsTidy site) {name text : String} (named : named? text = some ⟨name⟩)
    (present : (Book.ofTuples site.tuples).has ⟨name⟩ = true) : IsHad engine site name text where
  found := by
    rintro ⟨conditions, context, method, payload⟩ rfl read
    have found := Visit.reflects_found tidy.reflects conditions
    have met := Wish.isMet_lookUp found ⟨name⟩ context
      ((reads_readName payload).eq_ok (readName?_eq_some read named))
    rcases met.granted present with ⟨answer, succeeded, procedures, listed, rfl⟩
    refine ⟨procedures, ?_, succeeded⟩
    rcases Book.has_iff.mp present with ⟨procedure, held⟩
    exact List.ne_nil_of_mem ((listed.2 procedure).mpr held)
  updated := by
    rintro ⟨conditions, context, method, payload⟩ permissions rfl read filled answered
    have reads : Method.updateRole.wish? payload =
        some (.replace ⟨name⟩ (listed permissions)) :=
      congrArg (Option.map _) (readRole?_eq_some read named filled)
    have met := Visit.isMet_served tidy.reflects answered reads
    rcases met.granted present with ⟨answer, succeeded, rfl⟩
    refine ⟨succeeded, fun procedure => ?_⟩
    rw [met.reflects.stored, Wish.behind_of_granted (.replace ⟨name⟩ _) present, Wish.carried,
      Book.mem_set]
    simp [cleaned, listed]
  deleted := by
    rintro ⟨conditions, context, method, payload⟩ rfl read answered
    have reads : Method.deleteRole.wish? payload = some (.delete ⟨name⟩) :=
      congrArg (Option.map _) (readName?_eq_some read named)
    have met := Visit.isMet_served tidy.reflects answered reads
    rcases met.granted present with ⟨answer, succeeded, rfl⟩
    refine ⟨succeeded, fun procedure => ?_⟩
    rw [met.reflects.stored, Wish.behind_of_granted (.delete ⟨name⟩) present, Wish.carried,
      Book.mem_set]
    simp

theorem mem_grants_iff (tidy : IsTidy site) (tuple : PolicyTuple) :
    tuple ∈ site.grants ↔ tuple ∈ site.tuples :=
  PolicyEngine.agrees_iff.mp tidy.reflects.agrees tuple

theorem normal_of_present (tidy : IsTidy site) {role : Role}
    (present : (Book.ofTuples site.tuples).has role = true) :
    role.name ≠ "" ∧ Role.normalized role.name = role := by
  rcases Book.has_iff.mp present with ⟨procedure, held⟩
  have normal := tidy.normal _ (Book.mem_ofTuples.mp held)
  exact ⟨normal.named, normal.normal⟩

/-- A role that is there is read where a text has its normal form. -/
theorem named?_eq_some (tidy : IsTidy site) {name text : String}
    (present : (Book.ofTuples site.tuples).has ⟨name⟩ = true)
    (same : Role.normalized text = Role.normalized name) : named? text = some ⟨name⟩ := by
  rcases tidy.normal_of_present present with ⟨filled, normal⟩
  have some : Role.isEmpty ⟨name⟩ = false := by simpa [Role.isEmpty] using filled
  rw [named?, same, normal, some]
  rfl

theorem isOrderly (tidy : IsTidy site) : IsOrderly engine site where
  normal := by
    intro tuple among
    rw [tidy.mem_grants_iff, or_self] at among
    exact tidy.normal tuple among
  listed := by
    rintro ⟨conditions, context, method, payload⟩ rfl
    have found := Visit.reflects_found tidy.reflects conditions
    have met := Wish.isMet_listAll found context payload
    rcases met.granted rfl with ⟨answer, succeeded, names, ⟨ascending, listed⟩, rfl⟩
    refine ⟨names, succeeded, ?_, ?_⟩
    · -- A listed name is its own normal form, so these are told apart as the names are.
      have own : names.map Role.normalized = names.map Role.mk := by
        apply List.map_congr_left
        intro name among
        exact (tidy.normal_of_present ((listed name).mp among)).2
      rw [own, List.Nodup, List.pairwise_map]
      apply ascending.imp
      intro first second less same
      rw [Role.mk.inj same] at less
      exact List.lt_irrefl _ less
    · intro name among text same
      have present := (listed name).mp among
      exact tidy.isHad (tidy.named?_eq_some present same) present

end IsTidy

/-- A normal form is its own normal form. So behind any calls of the service on a policy
that was empty, the tuples are normal and the names that are listed lead to their roles. -/
theorem orderly_after (engine : PolicyEngine) (initial : Site) (bare : initial.tuples = .empty)
    (loads : (initial.conditions .policyLoad).Answers engine.timeout) (history : List Visit) :
    (∀ text, Role.normalized (Role.normalized text).name = Role.normalized text) ∧
      IsOrderly engine (Visit.after engine history (engine.load.behind initial)) :=
  ⟨Role.normalized_name, ((IsTidy.loaded engine bare loads).after history).isOrderly⟩

/-- A role is made whose capital sigma is the last letter of its name, a store that is down
is asked to take it away, and another role is made in the same way. -/
def spellings : List Visit :=
  [visitTo .createRole (payloadOf " ΟΔΟΣ\u2003" [" pkg.Svc/A"]),
    ⟨fun _ => ⟨⟨0⟩, some (.store "down")⟩, default, .deleteRole,
      .object [("name", .string "οδος")]⟩,
    visitTo .createRole (payloadOf "\u0130stanbul" ["pkg.Svc/B", " "])]

/-- A policy without tuples. -/
def bareSite : Site := .initial 0 ⟨0, 0⟩ [] [] []

theorem orderly_after_spellings :
    (bareSite.conditions .policyLoad).Answers (Span.ofSeconds 2) ∧
      IsOrderly ⟨.ofSeconds 2⟩ (Visit.after ⟨.ofSeconds 2⟩ spellings
        ((PolicyEngine.mk (.ofSeconds 2)).load.behind bareSite)) ∧
        (Visit.after ⟨.ofSeconds 2⟩ spellings
          ((PolicyEngine.mk (.ofSeconds 2)).load.behind bareSite)).tuples.toList =
            [⟨⟨"i\u0307stanbul"⟩, "pkg.Svc/B"⟩, ⟨⟨"οδος"⟩, "pkg.Svc/A"⟩] := by
  have loads : (bareSite.conditions .policyLoad).Answers (Span.ofSeconds 2) := ⟨by decide, rfl⟩
  exact ⟨loads, (orderly_after _ bareSite rfl loads spellings).2, by decide +kernel⟩

end Gatehouse.RoleService
