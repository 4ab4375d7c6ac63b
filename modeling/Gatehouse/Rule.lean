import Gatehouse.Identifier
import Gatehouse.Json.Reader
import Gatehouse.Json.Record
import Gatehouse.Ordered.Map
import Gatehouse.Time.Moment

/-!
# Rules

A rule says what a call of one procedure has to satisfy. A deleted rule stays
where it is stored, with the moment of its deletion, and is never looked up.
The rules in force are kept by procedure: of several rules for one procedure
the one created last counts.
-/

namespace Gatehouse

/-- What a call of a procedure has to satisfy. -/
structure Rule where
  id : RuleId
  name : String
  procedure : String
  requireAuth : Bool
  requireHash : Bool
  createdAt : Moment
  deletedAt : Option Moment
  deriving DecidableEq, Inhabited

namespace Rule

/-- Whether the rule has been deleted. -/
def isDeleted (rule : Rule) : Bool := rule.deletedAt.isSome

/-- The fields of a rule. -/
def fields : List Json.Field :=
  [.required "id" (Identifier.codec .rule), .required "name" .text, .required "procedure" .text,
    .required "require_auth" .bool, .required "require_hash" .bool,
    .required "created_at" Moment.codec, .valueOrAbsent "deleted_at" Moment.codec]

/-- A rule from the values of its fields. -/
def ofValues : Json.Record.Values fields → Rule
  | (id, name, procedure, requireAuth, requireHash, createdAt, deletedAt, ()) =>
      ⟨id, name, procedure, requireAuth, requireHash, createdAt, deletedAt⟩

/-- The values of the fields of a rule. -/
def toValues (rule : Rule) : Json.Record.Values fields :=
  (rule.id, rule.name, rule.procedure, rule.requireAuth, rule.requireHash, rule.createdAt,
    rule.deletedAt, ())

/-- A rule in JSON. -/
def codec : Json.Codec Rule := Json.Record.codec "PermissionRule" fields ofValues toValues

end Rule

/-- The rules in force, by procedure. -/
abbrev RuleMap := OrderedMap String Rule

namespace RuleMap

/-- Key rules by procedure; the first rule of a procedure counts. -/
def ofRules (rules : List Rule) : RuleMap :=
  (rules.filter fun rule => !rule.isDeleted).foldl
    (fun map rule =>
      if (map.get? rule.procedure).isSome then map else map.insert rule.procedure rule)
    .empty

/-- A map as a JSON object. -/
def toJson (map : RuleMap) : Json :=
  .object (map.entries.map fun entry => (entry.1, Rule.codec.write entry.2))

/-- The text of a map. -/
def encode (map : RuleMap) : String := (toJson map).encode

/-- The map that a text holds. Of repeated procedures the last counts, but every
member must be a rule. -/
def decode? (text : String) : Option RuleMap := do
  match ← Json.Written.ofBytes? (bytesOfText text) with
  | .object members =>
      let entries ← members.mapM fun (key, value) => do
        return (← key, ← Json.Record.ofWritten? "PermissionRule" Rule.fields Rule.ofValues value)
      return .ofList entries
  | _ => none

end RuleMap

/-- The stored rules, in the order of their insertion. -/
structure RuleStore where
  rules : List Rule
  deriving Inhabited

namespace RuleStore

/-- Store a rule behind the others. -/
def insert (store : RuleStore) (rule : Rule) : RuleStore := ⟨store.rules ++ [rule]⟩

/-- Mark every rule of a procedure that is in force as deleted. -/
def delete (store : RuleStore) (procedure : String) (now : Moment) : RuleStore :=
  ⟨store.rules.map fun rule =>
    if rule.procedure == procedure && !rule.isDeleted then { rule with deletedAt := some now }
    else rule⟩

/-- The number of rules of a procedure that are in force. -/
def count (store : RuleStore) (procedure : String) : Nat :=
  (store.rules.filter fun rule => rule.procedure == procedure && !rule.isDeleted).length

/-- The rules in force, the one created last first; rules created at one moment
keep their order. -/
def active (store : RuleStore) : List Rule :=
  (store.rules.filter fun rule => !rule.isDeleted).mergeSort fun a b =>
    !b.createdAt.isLater a.createdAt

end RuleStore

end Gatehouse
