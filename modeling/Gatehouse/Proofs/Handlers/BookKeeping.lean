import Gatehouse.Proofs.Handlers.RoleBook
import Gatehouse.Proofs.Policy.Listing

/-!
# The role service keeps its book

The stored tuples and the grants in memory reflect the book of roles. Each call does to
them what the book makes of its wish, and answers what the book says, so that they reflect
the book however many calls there have been.
-/

namespace Gatehouse.RoleService

open PolicyEngine (Edit Agrees ofRole)

/-! ## The state reflects the book -/

/-- Store and memory hold the tuples of a book, and the next change may begin. -/
structure Reflects (book : Book) (site : Site) : Prop where
  stored : ∀ tuple, tuple ∈ site.tuples ↔ tuple.procedure ∈ book tuple.role
  agrees : Agrees site
  proper : site.grants.IsProper
  free : site.writing = false

variable {engine : PolicyEngine} {site : Site} {book : Book} {role : Role}
  {procedures : OrderedSet String}

namespace Reflects

theorem mem_grants (reflects : Reflects book site) {procedure : String} :
    (⟨role, procedure⟩ : PolicyTuple) ∈ site.grants ↔ procedure ∈ book role := by
  rw [PolicyEngine.agrees_iff.mp reflects.agrees, reflects.stored]

/-- States that reflect one book hold the same tuples. -/
theorem tuples_eq (reflects : Reflects book site) {other : Site} (also : Reflects book other) :
    other.tuples = site.tuples := by
  ext tuple
  rw [also.stored, reflects.stored]

theorem grants_eq (reflects : Reflects book site) {other : Site} (also : Reflects book other) :
    other.grants.tuples = site.grants.tuples := by
  rw [also.agrees, reflects.agrees, reflects.tuples_eq also]

theorem has_eq_false_iff (reflects : Reflects book site) :
    book.has role = false ↔ ofRole site.tuples role = [] := by
  rw [Bool.eq_false_iff, ne_eq, Book.has_iff, List.eq_nil_iff_forall_not_mem, not_exists]
  constructor
  · intro absent tuple member
    rcases PolicyEngine.mem_ofRole.mp member with ⟨stored, rfl⟩
    exact absent tuple.procedure ((reflects.stored tuple).mp stored)
  · intro none procedure held
    exact none ⟨role, procedure⟩
      (PolicyEngine.mem_ofRole.mpr ⟨(reflects.stored _).mpr held, rfl⟩)

/-- Over a store that answers an edit succeeds, and the state behind it reflects the book
that the edit is to leave. -/
theorem edited (reflects : Reflects book site)
    (answers : (site.conditions .policyWrite).Answers engine.timeout) {edit : Edit} {after : Book}
    (leaves : ∀ tuple, edit.Leaves site.tuples tuple ↔ tuple.procedure ∈ after tuple.role) :
    edit.result engine site = .ok (edit.answerFor site.tuples) ∧
      Reflects after (edit.behind engine site) := by
  have succeeded : engine.askFault? (edit.change? site.grants) site = none := by
    rw [PolicyEngine.askFault?, Option.bind_eq_none_iff]
    intro change _
    exact Condition.fault?_eq_none _ answers
  constructor
  · rw [Edit.result, succeeded, PolicyEngine.answer_eq_answerFor reflects.agrees]
    rfl
  · constructor
    · intro tuple
      rw [← leaves]
      exact PolicyEngine.mem_edited reflects.agrees succeeded tuple
    · exact PolicyEngine.agrees_asked reflects.agrees (edit.change? site.grants)
    · exact PolicyEngine.isProper_behind reflects.proper edit
    · rfl

theorem reply_of_present (reflects : Reflects book site) (present : book.has role = true) :
    replyToFormer (ofRole site.tuples role) = .ok success := by
  have some : ofRole site.tuples role ≠ [] := by
    rw [ne_eq, ← reflects.has_eq_false_iff, present]
    decide
  rw [replyToFormer, if_neg (mt List.isEmpty_iff.mp some)]

theorem reply_of_absent (reflects : Reflects book site) (absent : book.has role = false) :
    replyToFormer (ofRole site.tuples role) = .error ⟨.invalidArgument, roleMissing⟩ := by
  rw [reflects.has_eq_false_iff.mp absent]
  rfl

end Reflects

/-! ## Wishes are met -/

namespace Wish

/-- A wish is met: what the call comes to and the state behind it are what the book makes
of the wish. -/
structure IsMet (wish : Wish) (book : Book) (outcome : CallResult × Site) : Prop where
  granted : wish.isGranted book = true →
    ∃ answer, outcome.1 = .ok answer ∧ wish.Answers book answer
  refused : wish.isGranted book = false →
    ∃ message, outcome.1 = .error ⟨.invalidArgument, message⟩
  reflects : Reflects (wish.behind book) outcome.2

theorem write_roleView {name : String} {permissions : List String} (some : permissions ≠ []) :
    RoleView.codec.write ⟨name, permissions⟩ =
      .object [("name", .string name), ("permissions", .array (permissions.map .string))] := by
  cases permissions with
  | nil => contradiction
  | cons first rest => rfl

theorem isMet_listAll (reflects : Reflects book site) (context : CallContext) (payload : Json) :
    listAll.IsMet book ((findAllRoles context payload).alone site) := by
  have listed : Lists site.grants.byRole.keys fun name => book.has ⟨name⟩ = true := by
    constructor
    · exact ascendInBytes_iff.mpr site.grants.byRole.keys_ascending
    · intro name
      simp only [Grants.mem_keys_iff reflects.proper, Book.has_iff, reflects.mem_grants]
  rw [findAllRoles, Task.alone_bind, PolicyEngine.alone_snapshot]
  constructor
  · intro _
    refine ⟨_, rfl, _, listed, ?_⟩
    simp only [Grants.roles, List.map_map]
    rfl
  · intro refused
    contradiction
  · exact reflects

theorem isMet_lookUp (reflects : Reflects book site) (role : Role) (context : CallContext)
    {payload : Json} (read : readName payload = .ok role) :
    (lookUp role).IsMet book ((findRoleByName context payload).alone site) := by
  have listed : Lists (site.grants.procedures role.name).toList (· ∈ book role) := by
    constructor
    · exact ascendInBytes_iff.mpr (site.grants.procedures role.name).ascending
    · intro procedure
      simp only [← reflects.mem_grants, Grants.mem_iff]
      rfl
  have shown : (site.grants.filtered role.name).map PolicyTuple.procedure =
      (site.grants.procedures role.name).toList := by
    simp [Grants.filtered, Function.comp_def]
  have absent : (site.grants.filtered role.name).isEmpty = true ↔ book.has role = false := by
    rw [reflects.has_eq_false_iff, PolicyEngine.filtered_eq_ofRole reflects.agrees,
      List.isEmpty_iff]
  rw [findRoleByName, Task.alone_bind, alone_known, read]
  simp only [Task.alone_bind, PolicyEngine.alone_snapshot]
  split
  · next empty =>
      constructor
      · intro present
        rw [isGranted, absent.mp empty] at present
        contradiction
      · intro _
        exact ⟨roleMissing, rfl⟩
      · rw [behind, carried, ite_self]
        exact reflects
  · next some =>
      constructor
      · intro _
        have several : (site.grants.procedures role.name).toList ≠ [] := by
          rw [← shown, ne_eq, List.map_eq_nil_iff, ← List.isEmpty_iff]
          exact some
        refine ⟨_, rfl, _, listed, ?_⟩
        rw [shown, write_roleView several]
      · intro missing
        exact absurd (absent.mpr missing) some
      · rw [behind, carried, ite_self]
        exact reflects

variable (answers : (site.conditions .policyWrite).Answers engine.timeout)
include answers

theorem isMet_told (reflects : Reflects book site) {edit : Edit}
    {reply : edit.Answer → CallResult} {wish : Wish}
    (leaves : ∀ tuple, edit.Leaves site.tuples tuple ↔
      tuple.procedure ∈ wish.behind book tuple.role)
    (granted : wish.isGranted book = true →
      ∃ answer, reply (edit.answerFor site.tuples) = .ok answer ∧ wish.Answers book answer)
    (refused : wish.isGranted book = false →
      ∃ message, reply (edit.answerFor site.tuples) = .error ⟨.invalidArgument, message⟩) :
    wish.IsMet book (told engine edit reply site) := by
  rcases reflects.edited answers leaves with ⟨result, after⟩
  rw [told, result]
  exact ⟨granted, refused, after⟩

theorem isMet_create (reflects : Reflects book site) (role : Role)
    (procedures : OrderedSet String) :
    (create role procedures).IsMet book
      (told engine (.createRole role procedures.toList) replyToCreated site) := by
  apply isMet_told answers reflects
  case leaves =>
    intro tuple
    simp only [Edit.Leaves, PolicyEngine.mem_roleTuples, reflects.stored, OrderedSet.mem_toList,
      ← reflects.has_eq_false_iff]
    cases present : book.has role with
    | true =>
        rw [behind_of_refused _ (by simp [isGranted, present])]
        simp
    | false =>
        rw [behind_of_granted _ (by simp [isGranted, present]), carried, Book.mem_set]
        by_cases same : tuple.role = role
        · simp [same, Book.not_mem_of_absent present]
        · simp [same]
  case granted =>
    intro granted
    have absent : book.has role = false := by simpa [isGranted] using granted
    exact ⟨success, by
      simp [Edit.answerFor, replyToCreated, reflects.has_eq_false_iff.mp absent], rfl⟩
  case refused =>
    intro refused
    have present : ofRole site.tuples role ≠ [] := by
      rw [ne_eq, ← reflects.has_eq_false_iff]
      simpa [isGranted] using refused
    exact ⟨roleExists, by simp [Edit.answerFor, replyToCreated, present, RoleService.refused]⟩

/-- A wish for which a role must be there is met by an edit that shows what the role had
before. -/
theorem isMet_told_former (reflects : Reflects book site) {edit : Edit}
    {reply : edit.Answer → CallResult} {wish : Wish}
    (leaves : ∀ tuple, edit.Leaves site.tuples tuple ↔
      tuple.procedure ∈ wish.behind book tuple.role)
    (replies : reply (edit.answerFor site.tuples) = replyToFormer (ofRole site.tuples role))
    (asks : wish.isGranted book = book.has role) (succeeds : wish.Answers book success) :
    wish.IsMet book (told engine edit reply site) := by
  apply isMet_told answers reflects leaves
  · intro granted
    rw [asks] at granted
    exact ⟨success, replies.trans (reflects.reply_of_present granted), succeeds⟩
  · intro refused
    rw [asks] at refused
    exact ⟨roleMissing, replies.trans (reflects.reply_of_absent refused)⟩

theorem isMet_replace (reflects : Reflects book site) (role : Role)
    (procedures : OrderedSet String) :
    (replace role procedures).IsMet book
      (told engine (.replaceRole role procedures.toList) replyToFormer site) := by
  refine isMet_told_former answers reflects ?_ rfl rfl rfl
  intro tuple
  simp only [Edit.Leaves, PolicyEngine.mem_roleTuples, reflects.stored, OrderedSet.mem_toList,
    ← reflects.has_eq_false_iff]
  cases present : book.has role with
  | true =>
      rw [behind_of_granted (replace role procedures) present, carried, Book.mem_set]
      simp [or_comm, and_comm]
  | false =>
      rw [behind_of_refused (replace role procedures) present]
      simp

theorem isMet_delete (reflects : Reflects book site) (role : Role) :
    (delete role).IsMet book (told engine (.removeRole role) replyToFormer site) := by
  refine isMet_told_former answers reflects ?_ rfl rfl rfl
  intro tuple
  simp only [Edit.Leaves, reflects.stored]
  cases present : book.has role with
  | true =>
      rw [behind_of_granted (delete role) present, carried, Book.mem_set]
      simp [and_comm]
  | false =>
      rw [behind_of_refused (delete role) present]
      by_cases same : tuple.role = role
      · simp [same, Book.not_mem_of_absent present]
      · simp [same]

end Wish

/-! ## Calls one after the other -/

/-- A call of the service, with the conditions in which it finds the stores. -/
structure Visit where
  conditions : Backend → Condition
  context : CallContext
  method : Method
  payload : Json

namespace Visit

/-- What the payload of a call asks for. -/
def wish? (visit : Visit) : Option Wish := visit.method.wish? visit.payload

/-- The book behind a call: a payload that cannot be read leaves it as it is. -/
def bookBehind (book : Book) (visit : Visit) : Book :=
  match visit.wish? with
  | none => book
  | some wish => wish.behind book

/-- What a call comes to over a state, with the state behind it. -/
def served (engine : PolicyEngine) (visit : Visit) (site : Site) : CallResult × Site :=
  (visit.method.handler engine visit.context visit.payload).alone
    { site with conditions := visit.conditions }

/-- The store does in time what a call asks it for. -/
def IsAnswered (engine : PolicyEngine) (visit : Visit) : Prop :=
  (visit.conditions .policyWrite).Answers engine.timeout

variable {visit : Visit}

theorem reflects_found (reflects : Reflects book site) (conditions : Backend → Condition) :
    Reflects book { site with conditions := conditions } :=
  ⟨reflects.stored, reflects.agrees, reflects.proper, reflects.free⟩

/-- A call that is refused over what it reads leaves the state alone. -/
theorem refused_of_known {α : Type} {result : Except Status α} {next : α → Task Status Json}
    (reflects : Reflects book site)
    (failed : ∃ message, result = .error ⟨.invalidArgument, message⟩) :
    ∃ message, ((known result >>= next).alone site).1 = .error ⟨.invalidArgument, message⟩ ∧
      Reflects book ((known result >>= next).alone site).2 := by
  rcases failed with ⟨message, rfl⟩
  exact ⟨message, rfl, reflects⟩

/-- A call whose payload cannot be read is refused. -/
theorem refused_of_unread (engine : PolicyEngine) (reflects : Reflects book site)
    (unread : visit.wish? = none) :
    ∃ message, (visit.served engine site).1 = .error ⟨.invalidArgument, message⟩ ∧
      Reflects book (visit.served engine site).2 := by
  rcases visit with ⟨conditions, context, method, payload⟩
  have found := reflects_found reflects conditions
  have unnamed : readName? payload = none →
      ∃ message, readName payload = .error ⟨.invalidArgument, message⟩ :=
    (reads_readName payload).eq_error
  have unlisted : readRole? payload = none →
      ∃ message, readRole payload = .error ⟨.invalidArgument, message⟩ :=
    (reads_readRole payload).eq_error
  cases method with
  | findAllRoles => contradiction
  | findRoleByName => exact refused_of_known found (unnamed (Option.map_eq_none_iff.mp unread))
  | createRole => exact refused_of_known found (unlisted (Option.map_eq_none_iff.mp unread))
  | updateRole => exact refused_of_known found (unlisted (Option.map_eq_none_iff.mp unread))
  | deleteRole => exact refused_of_known found (unnamed (Option.map_eq_none_iff.mp unread))

/-- A call whose payload can be read meets the wish that it reads. -/
theorem isMet_served (reflects : Reflects book site) (answered : visit.IsAnswered engine)
    {wish : Wish} (reads : visit.wish? = some wish) :
    wish.IsMet book (visit.served engine site) := by
  rcases visit with ⟨conditions, context, method, payload⟩
  have found := reflects_found reflects conditions
  have answers : (Site.conditions { site with conditions := conditions } .policyWrite).Answers
      engine.timeout := answered
  simp only [served]
  cases method with
  | findAllRoles =>
      obtain rfl := Option.some.inj reads
      exact Wish.isMet_listAll found context payload
  | findRoleByName =>
      rcases Option.map_eq_some_iff.mp reads with ⟨role, read, rfl⟩
      exact Wish.isMet_lookUp found role context ((reads_readName payload).eq_ok read)
  | createRole =>
      rcases Option.map_eq_some_iff.mp reads with ⟨⟨role, procedures⟩, read, rfl⟩
      rw [Method.handler, alone_createRole, (reads_readRole payload).eq_ok read]
      exact Wish.isMet_create answers found role procedures
  | updateRole =>
      rcases Option.map_eq_some_iff.mp reads with ⟨⟨role, procedures⟩, read, rfl⟩
      rw [Method.handler, alone_updateRole, (reads_readRole payload).eq_ok read]
      exact Wish.isMet_replace answers found role procedures
  | deleteRole =>
      rcases Option.map_eq_some_iff.mp reads with ⟨role, read, rfl⟩
      rw [Method.handler, alone_deleteRole, (reads_readName payload).eq_ok read]
      exact Wish.isMet_delete answers found role

/-- What is to be had of a call over a book. -/
structure IsServed (visit : Visit) (engine : PolicyEngine) (book : Book) (site : Site) :
    Prop where
  /-- A wish that is granted is answered as the book says. -/
  granted : ∀ wish, visit.wish? = some wish → wish.isGranted book = true →
    ∃ answer, (visit.served engine site).1 = .ok answer ∧ wish.Answers book answer
  /-- Every other call is refused. -/
  refused : (∀ wish, visit.wish? = some wish → wish.isGranted book = false) →
    ∃ message, (visit.served engine site).1 = .error ⟨.invalidArgument, message⟩
  /-- A call that fails is refused for what it asks, and changes no tuple in store or memory. -/
  unchanged : ∀ status, (visit.served engine site).1 = .error status →
    status.code = .invalidArgument ∧ (visit.served engine site).2.tuples = site.tuples ∧
      (visit.served engine site).2.grants.tuples = site.grants.tuples
  /-- Tuples of roles that the payload does not name are left alone. -/
  apart : ∀ tuple, (∀ wish, visit.wish? = some wish → wish.role? ≠ some tuple.role) →
    (tuple ∈ (visit.served engine site).2.tuples ↔ tuple ∈ site.tuples) ∧
      (tuple ∈ (visit.served engine site).2.grants ↔ tuple ∈ site.grants)
  reflects : Reflects (visit.bookBehind book) (visit.served engine site).2

theorem reflects_served (reflects : Reflects book site) (answered : visit.IsAnswered engine) :
    Reflects (visit.bookBehind book) (visit.served engine site).2 := by
  rw [bookBehind]
  cases reads : visit.wish? with
  | none =>
      rcases refused_of_unread engine reflects reads with ⟨message, -, same⟩
      exact same
  | some wish => exact (isMet_served reflects answered reads).reflects

/-- A call that asks for nothing that is granted is refused. -/
theorem refused_of_not_granted (reflects : Reflects book site)
    (answered : visit.IsAnswered engine)
    (denied : ∀ wish, visit.wish? = some wish → wish.isGranted book = false) :
    ∃ message, (visit.served engine site).1 = .error ⟨.invalidArgument, message⟩ ∧
      Reflects book (visit.served engine site).2 := by
  cases reads : visit.wish? with
  | none => exact refused_of_unread engine reflects reads
  | some wish =>
      have met := isMet_served reflects answered reads
      have same := met.reflects
      rw [Wish.behind_of_refused wish (denied wish reads)] at same
      rcases met.refused (denied wish reads) with ⟨message, failed⟩
      exact ⟨message, failed, same⟩

theorem isServed (reflects : Reflects book site) (answered : visit.IsAnswered engine) :
    visit.IsServed engine book site where
  granted wish reads granted := (isMet_served reflects answered reads).granted granted
  refused := by
    intro denied
    rcases refused_of_not_granted reflects answered denied with ⟨message, failed, -⟩
    exact ⟨message, failed⟩
  unchanged := by
    intro status failed
    have denied : ∀ wish, visit.wish? = some wish → wish.isGranted book = false := by
      intro wish reads
      rw [Bool.eq_false_iff]
      intro granted
      rcases (isMet_served reflects answered reads).granted granted with ⟨answer, succeeded, -⟩
      rw [succeeded] at failed
      contradiction
    rcases refused_of_not_granted reflects answered denied with ⟨message, also, same⟩
    rw [also] at failed
    obtain rfl := Except.error.inj failed
    exact ⟨rfl, reflects.tuples_eq same, reflects.grants_eq same⟩
  apart := by
    intro tuple apart
    have after := reflects_served reflects answered
    have same : visit.bookBehind book tuple.role = book tuple.role := by
      rw [bookBehind]
      cases reads : visit.wish? with
      | none => rfl
      | some wish => exact Wish.behind_apart (apart wish reads)
    rw [after.stored, reflects.stored, after.mem_grants, reflects.mem_grants, same]
    exact ⟨Iff.rfl, Iff.rfl⟩
  reflects := reflects_served reflects answered

/-- The state behind calls that came one after the other. -/
def after (engine : PolicyEngine) (history : List Visit) (site : Site) : Site :=
  history.foldl (fun site visit => (visit.served engine site).2) site

theorem reflects_after (reflects : Reflects book site) {history : List Visit}
    (answered : ∀ visit ∈ history, visit.IsAnswered engine) :
    Reflects (history.foldl bookBehind book) (after engine history site) := by
  induction history generalizing book site with
  | nil => exact reflects
  | cons visit rest ih =>
      have first := reflects_served reflects (answered visit List.mem_cons_self)
      exact ih first fun later member => answered later (List.mem_cons_of_mem visit member)

end Visit

/-- A policy that has been loaded reflects the book of the stored tuples. -/
theorem reflects_loaded (engine : PolicyEngine) {initial : Site}
    (loads : (initial.conditions .policyLoad).Answers engine.timeout) :
    Reflects (.ofTuples initial.tuples) (engine.load.behind initial) := by
  have loaded := Condition.fault?_eq_none "policy.load" loads
  have behind : engine.load.behind initial = engine.reloaded initial :=
    congrArg Prod.snd (engine.alone_load initial)
  rw [behind]
  constructor
  · intro tuple
    rw [PolicyEngine.tuples_reloaded]
    exact Book.mem_ofTuples.symm
  · exact PolicyEngine.agrees_of_loaded loaded
  · exact PolicyEngine.isProper_reloaded loaded
  · exact PolicyEngine.writing_reloaded initial

/-- Over a store that answers, whatever it held at first and however many calls there have
been, store and memory reflect the book, and every further call is served as the book says. -/
theorem keeps_book (engine : PolicyEngine) (initial : Site)
    (loads : (initial.conditions .policyLoad).Answers engine.timeout) (history : List Visit)
    (answered : ∀ visit ∈ history, visit.IsAnswered engine) (visit : Visit)
    (also : visit.IsAnswered engine) :
    Reflects (history.foldl Visit.bookBehind (.ofTuples initial.tuples))
        (Visit.after engine history (engine.load.behind initial)) ∧
      visit.IsServed engine (history.foldl Visit.bookBehind (.ofTuples initial.tuples))
        (Visit.after engine history (engine.load.behind initial)) := by
  have reflects := Visit.reflects_after (reflects_loaded engine loads) answered
  exact ⟨reflects, Visit.isServed reflects also⟩

/-- A payload that names a role and lists procedures. -/
def payloadOf (role : String) (procedures : List String) : Json :=
  .object [("name", .string role), ("permissions", .array (procedures.map .string))]

/-- A call over stores that answer at once. -/
def visitTo (method : Method) (payload : Json) : Visit :=
  ⟨fun _ => .sound, default, method, payload⟩

/-- A policy of one tuple. -/
def stocked : Site := .initial 0 ⟨0, 0⟩ [] [⟨⟨"admin"⟩, "pkg.Svc/A"⟩] []

/-- A role is made, made again, given other procedures, and the first one is taken away. -/
def lifecycle : List Visit :=
  [visitTo .createRole (payloadOf " Editor" ["pkg.Svc/B ", "", "pkg.Svc/A", "pkg.Svc/B"]),
    visitTo .createRole (payloadOf "EDITOR" ["pkg.Svc/C"]),
    visitTo .updateRole (payloadOf "editor" ["pkg.Svc/D", "pkg.Svc/C"]),
    visitTo .deleteRole (.object [("name", .string "Admin ")])]

theorem keeps_book_of_lifecycle :
    (stocked.conditions .policyLoad).Answers (Span.ofSeconds 2) ∧
      (∀ visit ∈ lifecycle, visit.IsAnswered ⟨.ofSeconds 2⟩) ∧
        Reflects (lifecycle.foldl Visit.bookBehind (.ofTuples stocked.tuples))
          (Visit.after ⟨.ofSeconds 2⟩ lifecycle
            ((PolicyEngine.mk (.ofSeconds 2)).load.behind stocked)) ∧
          ((visitTo .findRoleByName (.object [("name", .string "Editor")])).served ⟨.ofSeconds 2⟩
            (Visit.after ⟨.ofSeconds 2⟩ lifecycle
              ((PolicyEngine.mk (.ofSeconds 2)).load.behind stocked))).1 =
            .ok (payloadOf "editor" ["pkg.Svc/C", "pkg.Svc/D"]) := by
  have loads : (stocked.conditions .policyLoad).Answers (Span.ofSeconds 2) := ⟨by decide, rfl⟩
  have sound : ∀ method payload, (visitTo method payload).IsAnswered ⟨.ofSeconds 2⟩ :=
    fun _ _ => ⟨Nat.zero_le _, rfl⟩
  have answered : ∀ visit ∈ lifecycle, visit.IsAnswered ⟨.ofSeconds 2⟩ := by
    simp [lifecycle, sound]
  exact ⟨loads, answered, (keeps_book _ stocked loads lifecycle answered
    (visitTo .findAllRoles .null) (sound _ _)).1, rfl⟩

end Gatehouse.RoleService
