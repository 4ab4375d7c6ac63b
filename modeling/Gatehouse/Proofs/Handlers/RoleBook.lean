import Gatehouse.Proofs.Handlers.Roles
import Gatehouse.Proofs.Policy.Agreement
import Gatehouse.Proofs.Text.Order

/-!
# A book of roles

Seen from outside, the role service keeps a book in which each role has a set of
procedures. A payload, once it has been read, is a wish, and the book grants it or not.
This module states what the book makes of a wish, and that the service reads its payloads
as these wishes.
-/

namespace Gatehouse.RoleService

open PolicyEngine (ofRole)

/-! ## The book -/

/-- The procedures of each role. A role without procedures is not there. -/
abbrev Book := Role → OrderedSet String

namespace Book

/-- The book of some tuples. -/
def ofTuples (tuples : OrderedSet PolicyTuple) : Book := fun role =>
  .ofList ((ofRole tuples role).map PolicyTuple.procedure)

/-- Whether a role is there. -/
def has (book : Book) (role : Role) : Bool := !(book role).isEmpty

/-- The book with other procedures for a role. -/
def set (book : Book) (role : Role) (procedures : OrderedSet String) : Book := fun other =>
  if other = role then procedures else book other

theorem mem_ofTuples {tuples : OrderedSet PolicyTuple} {role : Role} {procedure : String} :
    procedure ∈ ofTuples tuples role ↔ (⟨role, procedure⟩ : PolicyTuple) ∈ tuples := by
  rw [ofTuples, OrderedSet.mem_ofList, List.mem_map]
  constructor
  · rintro ⟨⟨other, procedure⟩, among, rfl⟩
    rcases PolicyEngine.mem_ofRole.mp among with ⟨member, rfl⟩
    exact member
  · intro member
    exact ⟨⟨role, procedure⟩, PolicyEngine.mem_ofRole.mpr ⟨member, rfl⟩, rfl⟩

@[simp] theorem mem_set {book : Book} {role other : Role} {procedures : OrderedSet String}
    {procedure : String} : procedure ∈ book.set role procedures other ↔
      other = role ∧ procedure ∈ procedures ∨ other ≠ role ∧ procedure ∈ book other := by
  rw [set]
  split
  · next same => simp [same]
  · next apart => simp [apart]

theorem has_iff {book : Book} {role : Role} :
    book.has role = true ↔ ∃ procedure, procedure ∈ book role := by
  rw [has, Bool.not_eq_true', OrderedSet.isEmpty_eq_false_iff]

theorem not_mem_of_absent {book : Book} {role : Role} (absent : book.has role = false)
    (procedure : String) : procedure ∉ book role := by
  intro held
  rw [has_iff.mpr ⟨procedure, held⟩] at absent
  contradiction

end Book

/-- What a call asks of the book. -/
inductive Wish where
  | listAll
  | lookUp (role : Role)
  | create (role : Role) (procedures : OrderedSet String)
  | replace (role : Role) (procedures : OrderedSet String)
  | delete (role : Role)

namespace Wish

/-- The role that a wish names. -/
def role? : Wish → Option Role
  | listAll => none
  | lookUp role => some role
  | create role _ => some role
  | replace role _ => some role
  | delete role => some role

/-- Whether a book grants a wish: a role that is to be made must not be there, and any
other role that is named must be. -/
def isGranted (book : Book) : Wish → Bool
  | listAll => true
  | lookUp role => book.has role
  | create role _ => !book.has role
  | replace role _ => book.has role
  | delete role => book.has role

/-- The book once a wish has been granted. -/
def carried (book : Book) : Wish → Book
  | listAll => book
  | lookUp _ => book
  | create role procedures => book.set role procedures
  | replace role procedures => book.set role procedures
  | delete role => book.set role .empty

/-- The book behind a wish. -/
def behind (book : Book) (wish : Wish) : Book :=
  if wish.isGranted book then wish.carried book else book

theorem behind_of_granted {book : Book} (wish : Wish) (granted : wish.isGranted book = true) :
    wish.behind book = wish.carried book := if_pos granted

theorem behind_of_refused {book : Book} (wish : Wish) (refused : wish.isGranted book = false) :
    wish.behind book = book := if_neg (Bool.eq_false_iff.mp refused)

/-- A wish changes nothing for the roles that it does not name. -/
theorem behind_apart {book : Book} {wish : Wish} {role : Role}
    (apart : wish.role? ≠ some role) : wish.behind book role = book role := by
  have kept : wish.carried book role = book role := by
    cases wish with
    | listAll => rfl
    | lookUp other => rfl
    | create other procedures => exact if_neg fun same => apart (congrArg some same.symm)
    | replace other procedures => exact if_neg fun same => apart (congrArg some same.symm)
    | delete other => exact if_neg fun same => apart (congrArg some same.symm)
  rw [behind]
  split
  · exact kept
  · rfl

/-- Texts are those with a property, in the order of their bytes and each once. -/
def Lists (texts : List String) (property : String → Prop) : Prop :=
  AscendInBytes texts ∧ ∀ text, text ∈ texts ↔ property text

/-- What a wish that is granted is answered with. -/
def Answers (book : Book) (answer : Json) : Wish → Prop
  | listAll => ∃ names, Lists names (fun name => book.has ⟨name⟩ = true) ∧
      answer = .object [("data", .array (names.map fun name => .object [("name", .string name)]))]
  | lookUp role => ∃ procedures, Lists procedures (· ∈ book role) ∧
      answer = .object [("name", .string role.name),
        ("permissions", .array (procedures.map .string))]
  | create _ _ => answer = success
  | replace _ _ => answer = success
  | delete _ => answer = success

end Wish

/-! ## Reading wishes -/

/-- The role of a name without the blanks around it, in lower case, unless that is empty. -/
def named? (text : String) : Option Role :=
  if (Role.normalized text).isEmpty then none else some (Role.normalized text)

/-- Procedures without the blanks around them; those that are empty then are left out. -/
def listed (permissions : List String) : OrderedSet String :=
  .ofList ((permissions.map trim).filter fun procedure => !procedure.isEmpty)

/-- The procedures that are listed, if there are any. -/
def listed? (permissions : List String) : Option (OrderedSet String) :=
  if (listed permissions).isEmpty then none else some (listed permissions)

/-- The role that a payload names. -/
def readName? (payload : Json) : Option Role := do
  let request ← (NameRequest.codec.read payload).toOption
  named? request.name

/-- The role that a payload names, with the procedures it is to have. -/
def readRole? (payload : Json) : Option (Role × OrderedSet String) := do
  let request ← (RoleRequest.codec.read payload).toOption
  let role ← named? request.name
  let procedures ← listed? request.permissions
  return (role, procedures)

/-- The procedures of the service. -/
inductive Method where
  | findAllRoles
  | findRoleByName
  | createRole
  | updateRole
  | deleteRole
  deriving DecidableEq

namespace Method

/-- The procedures in the order in which they are served. -/
def all : List Method := [findAllRoles, findRoleByName, createRole, updateRole, deleteRole]

/-- The name of a procedure. -/
def procedure : Method → String
  | findAllRoles => name ++ "/FindAllRoles"
  | findRoleByName => name ++ "/FindRoleByName"
  | createRole => name ++ "/CreateRole"
  | updateRole => name ++ "/UpdateRole"
  | deleteRole => name ++ "/DeleteRole"

/-- The handler of a procedure. -/
def handler (engine : PolicyEngine) : Method → Handler
  | findAllRoles => RoleService.findAllRoles
  | findRoleByName => RoleService.findRoleByName
  | createRole => RoleService.createRole engine
  | updateRole => RoleService.updateRole engine
  | deleteRole => RoleService.deleteRole engine

/-- What a payload asks for in a call of a procedure, if it can be read. -/
def wish? (payload : Json) : Method → Option Wish
  | findAllRoles => some .listAll
  | findRoleByName => (readName? payload).map .lookUp
  | createRole => (readRole? payload).map fun request => .create request.1 request.2
  | updateRole => (readRole? payload).map fun request => .replace request.1 request.2
  | deleteRole => (readName? payload).map .delete

end Method

/-- The procedures are all that is served. -/
theorem handlers_eq (engine : PolicyEngine) :
    handlers engine = Method.all.map fun method => (method.procedure, method.handler engine) :=
  rfl

/-- A payload is read as a value, or it is refused and there is none. -/
inductive Reads {α β : Type} (shown : β → α) : Except Status α → Option β → Prop where
  | read (value : β) : Reads shown (.ok (shown value)) (some value)
  | refused (message : String) : Reads shown (.error (refused message)) none

theorem Reads.eq_ok {α β : Type} {shown : β → α} {result : Except Status α} {value? : Option β}
    {value : β} (reads : Reads shown result value?) (found : value? = some value) :
    result = .ok (shown value) := by
  cases reads with
  | read other => rw [Option.some.inj found]
  | refused message => contradiction

theorem Reads.eq_error {α β : Type} {shown : β → α} {result : Except Status α}
    {value? : Option β} (reads : Reads shown result value?) (missing : value? = none) :
    ∃ message, result = .error ⟨.invalidArgument, message⟩ := by
  cases reads with
  | read other => contradiction
  | refused message => exact ⟨message, rfl⟩

theorem Reads.bind {α β γ δ : Type} {shown : β → α} {after : δ → γ} {first : Except Status α}
    {first? : Option β} {next : α → Except Status γ} {next? : β → Option δ}
    (reads : Reads shown first first?)
    (further : ∀ value, Reads after (next (shown value)) (next? value)) :
    Reads after (first >>= next) (first? >>= next?) := by
  cases reads with
  | read value => exact further value
  | refused message => exact .refused message

theorem reads_decodePayload {α : Type} (codec : Json.Codec α) (payload : Json) :
    Reads id (decodePayload codec payload) (codec.read payload).toOption := by
  rw [decodePayload]
  cases codec.read payload with
  | error mismatch => exact .refused _
  | ok request => exact .read request

theorem reads_roleOf (text : String) : Reads id (roleOf text) (named? text) := by
  simp only [roleOf, named?]
  cases (Role.normalized text).isEmpty with
  | true => exact .refused _
  | false => exact .read _

theorem reads_proceduresOf (permissions : List String) :
    Reads OrderedSet.toList (proceduresOf permissions) (listed? permissions) := by
  change Reads _ (if (listed permissions).isEmpty = true then _ else _) _
  rw [listed?]
  cases (listed permissions).isEmpty with
  | true => exact .refused _
  | false => exact .read _

theorem reads_readName (payload : Json) : Reads id (readName payload) (readName? payload) := by
  rw [readName, readName?]
  apply (reads_decodePayload NameRequest.codec payload).bind
  intro request
  exact reads_roleOf request.name

theorem reads_readRole (payload : Json) :
    Reads (fun request => (request.1, request.2.toList)) (readRole payload)
      (readRole? payload) := by
  rw [readRole, readRole?]
  apply (reads_decodePayload RoleRequest.codec payload).bind
  intro request
  apply (reads_roleOf request.name).bind
  intro role
  apply (reads_proceduresOf request.permissions).bind
  intro procedures
  exact .read (role, procedures)

end Gatehouse.RoleService
