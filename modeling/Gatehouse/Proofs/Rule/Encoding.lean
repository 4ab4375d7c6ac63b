import Gatehouse.Proofs.Identifier.Text
import Gatehouse.Proofs.Json.Restored
import Gatehouse.Proofs.Time.Stamps
import Gatehouse.Rule

/-!
# Rules that were written to the cache

The cache holds the rules in force as a text. What is read of such a text is the
map that was written, where its moments can be represented. Where they cannot,
it still has a rule for every procedure that the written map has one for, and the
rule that is read asks for a credential exactly if the written one does.
-/

namespace Gatehouse

namespace Rule

theorem plain_fields : Json.Record.AllPlain fields :=
  ⟨Json.Codec.isPlain_spelled, Json.Codec.isPlain_text, Json.Codec.isPlain_text,
    Json.Codec.isPlain_bool, Json.Codec.isPlain_bool, Json.Codec.isPlain_spelled,
    Json.Codec.isPlain_spelled.optional, trivial⟩

theorem isIntegral_write (rule : Rule) : (codec.write rule).IsIntegral :=
  Json.Record.isIntegral_write plain_fields rule.toValues

/-- A rule whose moments can be represented. -/
structure IsProper (rule : Rule) : Prop where
  created : rule.createdAt.IsProper
  deleted : ∀ moment ∈ rule.deletedAt, moment.IsProper

theorem distinct_fields : (Json.Record.names fields).Nodup := by decide

theorem allReturn {rule : Rule} (proper : rule.IsProper) :
    Json.Record.AllReturn fields rule.toValues := by
  refine ⟨?_, ?_, ?_, ?_, ?_, ?_, ?_, trivial⟩
  · exact Json.Record.returns_required (Identifier.read_write rule.id)
  · exact Json.Record.returns_required (Json.Codec.read_write_text _)
  · exact Json.Record.returns_required (Json.Codec.read_write_text _)
  · exact Json.Record.returns_required (Json.Codec.read_write_bool _)
  · exact Json.Record.returns_required (Json.Codec.read_write_bool _)
  · exact Json.Record.returns_required (Moment.read_write proper.created)
  · apply Json.Record.returns_valueOrAbsent
    intro moment deleted
    exact ⟨Moment.read_write (proper.deleted moment deleted), nofun⟩

/-- A rule is read as it was written. -/
theorem ofWritten?_written {rule : Rule} (proper : rule.IsProper) :
    Json.Record.ofWritten? "PermissionRule" fields ofValues (codec.write rule).written =
      some rule :=
  Json.Record.ofWritten?_written distinct_fields (allReturn proper)

/-- What is read of a written rule asks for a credential if the rule does. -/
theorem requireAuth_of_ofWritten? {rule kept : Rule}
    (read : Json.Record.ofWritten? "PermissionRule" fields ofValues (codec.write rule).written =
      some kept) : kept.requireAuth = rule.requireAuth := by
  obtain ⟨-, values, ⟨-, -, -, auth, -⟩, rfl⟩ :=
    (Json.Record.ofWritten?_object_iff distinct_fields).mp read
  have among : ("require_auth", .bool rule.requireAuth) ∈
      Json.Record.members fields rule.toValues := by
    simp [Json.Record.members, fields, toValues, Json.Field.required, Json.Codec.bool]
  have written := Json.Record.mem_under_writtenMembers.mpr ⟨_, among, rfl⟩
  obtain ⟨json, shown, known⟩ := auth.of_mem written
  obtain rfl := Option.some.inj shown
  exact (Except.ok.inj known).symm

end Rule

namespace RuleMap

/-- The text of some entries in their order. -/
def textOf (entries : List (String × Rule)) : String :=
  (Json.object (entries.map fun entry => (entry.1, Rule.codec.write entry.2))).encode

theorem encode_eq (map : RuleMap) : map.encode = textOf map.entries := rfl

theorem hasIntegral_entries (entries : List (String × Rule)) :
    Json.HasIntegral (entries.map fun entry => (entry.1, Rule.codec.write entry.2)) := by
  induction entries with
  | nil => exact trivial
  | cons entry rest ih => exact ⟨entry.2.isIntegral_write, ih⟩

theorem isIntegral_toJson (map : RuleMap) : (toJson map).IsIntegral :=
  hasIntegral_entries map.entries

/-- A map of rules whose moments can be represented. -/
def IsProper (map : RuleMap) : Prop := ∀ entry ∈ map.entries, entry.2.IsProper

/-- The members of a written map are read as they were written. -/
theorem mapM_written {entries : List (String × Rule)}
    (proper : ∀ entry ∈ entries, entry.2.IsProper) :
    (entries.map fun entry => (some entry.1, (Rule.codec.write entry.2).written)).mapM
      (fun entry => entry.1.bind fun key =>
        (Json.Record.ofWritten? "PermissionRule" Rule.fields Rule.ofValues entry.2).bind fun rule =>
          some (key, rule)) = some entries := by
  induction entries with
  | nil => rfl
  | cons head rest ih =>
      rw [List.map_cons, List.mapM_cons, Option.bind_some,
        Rule.ofWritten?_written (proper head List.mem_cons_self),
        ih fun entry member => proper entry (List.mem_cons_of_mem head member)]
      rfl

/-- Entries are read as they were written, the last of each key. -/
theorem decode?_textOf {entries : List (String × Rule)}
    (proper : ∀ entry ∈ entries, entry.2.IsProper) :
    decode? (textOf entries) = some (.ofList entries) := by
  have read := mapM_written proper
  have integral : (Json.object _).IsIntegral := hasIntegral_entries entries
  rw [decode?, textOf, Json.ofBytes?_encode integral]
  simp only [Json.written, Json.writtenMembers_eq_map, Option.bind_eq_bind, Option.bind_some,
    List.map_map]
  simp only [Function.comp_def, Option.pure_def] at read ⊢
  rw [read, Option.bind_some]

/-- A map is read as it was written. -/
theorem decode?_encode {map : RuleMap} (proper : map.IsProper) :
    decode? map.encode = some map := by
  rw [encode_eq, decode?_textOf proper, OrderedMap.ofList_entries]

/-- The members of a written map are read one by one, each under its own key. -/
theorem entries_of_mapM {entries shown : List (String × Rule)}
    (read : (entries.map fun entry => (some entry.1, (Rule.codec.write entry.2).written)).mapM
      (fun entry => entry.1.bind fun key =>
        (Json.Record.ofWritten? "PermissionRule" Rule.fields Rule.ofValues entry.2).bind fun rule =>
          some (key, rule)) = some shown) :
    shown.map Prod.fst = entries.map Prod.fst ∧
      ∀ entry ∈ entries, ∃ kept, (entry.1, kept) ∈ shown ∧
        kept.requireAuth = entry.2.requireAuth := by
  induction entries generalizing shown with
  | nil =>
      injection read with same
      subst same
      exact ⟨rfl, fun entry member => absurd member List.not_mem_nil⟩
  | cons head rest ih =>
      rw [List.map_cons, List.mapM_cons, Option.bind_some] at read
      cases first : Json.Record.ofWritten? "PermissionRule" Rule.fields Rule.ofValues
          (Rule.codec.write head.2).written with
      | none =>
          rw [first] at read
          injection read
      | some kept =>
          rw [first, Option.bind_some, Option.bind_eq_bind, Option.bind_some,
            Option.bind_eq_bind, Option.bind_eq_some_iff] at read
          rcases read with ⟨others, readOthers, same⟩
          injection same with same
          subst same
          have later := ih readOthers
          constructor
          · rw [List.map_cons, List.map_cons, later.1]
          · intro entry member
            rcases List.mem_cons.mp member with rfl | among
            · exact ⟨kept, List.mem_cons_self, Rule.requireAuth_of_ofWritten? first⟩
            · rcases later.2 entry among with ⟨other, memberOther, sameOther⟩
              exact ⟨other, List.mem_cons_of_mem _ memberOther, sameOther⟩

/-- A map that is read of a written map has a rule wherever the written one has
one, and it asks for a credential if that one does. -/
theorem get?_of_decode?_encode {map shown : RuleMap} {procedure : String} {rule : Rule}
    (decoded : decode? map.encode = some shown) (ruled : map.get? procedure = some rule) :
    ∃ kept, shown.get? procedure = some kept ∧ kept.requireAuth = rule.requireAuth := by
  rw [decode?, encode, Json.ofBytes?_encode (isIntegral_toJson map)] at decoded
  simp only [toJson, Json.written, Json.writtenMembers_eq_map, Option.bind_eq_bind,
    Option.bind_some, Option.bind_eq_some_iff, List.map_map] at decoded
  rcases decoded with ⟨entries, read, same⟩
  injection same with same
  subst same
  have members := entries_of_mapM read
  rcases members.2 (procedure, rule) (OrderedMap.mem_entries_iff.mpr ruled) with
    ⟨kept, among, sameAuth⟩
  refine ⟨kept, OrderedMap.get?_ofList_of_mem ?_ among, sameAuth⟩
  rw [members.1]
  exact nodup_of_ascending map.keys_ascending

end RuleMap

end Gatehouse
