import Gatehouse.Account
import Gatehouse.Policy.Tuple
import Gatehouse.Proofs.Cache.Entries
import Gatehouse.Proofs.Rule.Encoding
import Gatehouse.Request
import Gatehouse.Token.Pair

/-!
# Records that come back from their encoding

Rules, tuples, token pairs and views of roles come back from what they are written as, and so
do the rules that are kept in the cache. An account comes back only with its password hash,
which is never written.
-/

namespace Gatehouse

open Json (Field)
open Json.Record (ofWritten? names AllPlain AllReturn returns_required)

namespace PolicyTuple

theorem restores (tuple : PolicyTuple) :
    codec.Restores (ofWritten? "PolicyTuple" fields ofValues) tuple := by
  have plain : AllPlain fields :=
    ⟨Json.Codec.isPlain_text.across Role.mk Role.name, Json.Codec.isPlain_text, trivial⟩
  have returns : AllReturn fields tuple.toValues :=
    ⟨returns_required rfl, returns_required rfl, trivial⟩
  exact Json.Record.restores (by decide) plain returns rfl

end PolicyTuple

namespace TokenPair

theorem restores (pair : TokenPair) :
    codec.Restores (ofWritten? "TokenPair" fields ofValues) pair := by
  have plain : AllPlain fields :=
    ⟨Json.Codec.isPlain_text, Json.Codec.isPlain_text, Json.Codec.isPlain_text,
      Json.Codec.isPlain_int64, Json.Codec.isPlain_int64, trivial⟩
  have returns : AllReturn fields pair.toValues :=
    ⟨returns_required rfl, returns_required rfl, returns_required rfl,
      returns_required (Json.Codec.read_write_int64 _),
      returns_required (Json.Codec.read_write_int64 _), trivial⟩
  exact Json.Record.restores (by decide) plain returns rfl

end TokenPair

namespace RoleView

theorem restores (view : RoleView) :
    codec.Restores (ofWritten? "RoleView" RoleRequest.fields ofValues) view := by
  have plain : AllPlain RoleRequest.fields :=
    ⟨Json.Codec.isPlain_text, Json.Codec.isPlain_text.list, trivial⟩
  have returns : AllReturn RoleRequest.fields view.toValues :=
    ⟨returns_required rfl, Json.Record.returns_listOrAbsent fun _ _ => rfl, trivial⟩
  exact Json.Record.restores (by decide) plain returns rfl

end RoleView

namespace Rule

theorem restores {rule : Rule} (proper : rule.IsProper) :
    codec.Restores (ofWritten? "PermissionRule" fields ofValues) rule :=
  Json.Record.restores distinct_fields plain_fields (allReturn proper) rfl

end Rule

namespace RuleMap

/-- The entries of a map are read as the map, in whichever order they were written. -/
theorem decode?_textOf_perm {map : RuleMap} {entries : List (String × Rule)}
    (proper : map.IsProper) (perm : entries.Perm map.entries) :
    decode? (textOf entries) = some map := by
  have distinct : (map.entries.map Prod.fst).Nodup := nodup_of_ascending map.keys_ascending
  have entriesDistinct := (perm.map Prod.fst).nodup_iff.mpr distinct
  have same : OrderedMap.ofList entries = map := by
    ext key value
    constructor
    · intro found
      exact OrderedMap.mem_entries_iff.mp (perm.mem_iff.mp (OrderedMap.mem_of_get?_ofList found))
    · intro found
      exact OrderedMap.get?_ofList_of_mem entriesDistinct
        (perm.mem_iff.mpr (OrderedMap.mem_entries_iff.mpr found))
  rw [decode?_textOf fun entry member => proper entry (perm.mem_iff.mp member), same]

/-- What was put into the cache is read of it for its time. -/
theorem decode?_get?_of_set {map : RuleMap} {cache after : TtlCache} {now later : Nat}
    {key : String} {ttl : Span} (proper : map.IsProper)
    (done : cache.set now key map.encode ttl = .ok after) (live : later < now + ttl.nanos) :
    (after.get? later key).bind decode? = some map := by
  rw [TtlCache.get?_of_set done, if_pos live, Option.bind_some, decode?_encode proper]

end RuleMap

namespace Account

/-- An account whose moments can be represented. -/
structure IsProper (account : Account) : Prop where
  created : account.createdAt.IsProper
  deleted : ∀ moment ∈ account.deletedAt, moment.IsProper

/-- The fields of an account that is shown with its password hash. -/
def shownFields : List Field :=
  [.required "id" (Identifier.codec .account), .required "name" .text, .required "email" .text,
    .required "password_hash" .text, .required "role" Role.codec,
    .required "created_at" Moment.codec, .valueOrAbsent "deleted_at" Moment.codec]

theorem distinct_fields : (names fields).Nodup := by decide

theorem allReturn {account : Account} (proper : account.IsProper) :
    AllReturn shownFields account.toValues := by
  refine ⟨?_, ?_, ?_, ?_, ?_, ?_, ?_, trivial⟩
  · exact returns_required (Identifier.read_write account.id)
  · exact returns_required (Json.Codec.read_write_text _)
  · exact returns_required (Json.Codec.read_write_text _)
  · exact returns_required (Json.Codec.read_write_text _)
  · exact returns_required rfl
  · exact returns_required (Moment.read_write proper.created)
  · apply Json.Record.returns_valueOrAbsent
    intro moment deleted
    exact ⟨Moment.read_write (proper.deleted moment deleted), nofun⟩

/-- The members that an account is written with, and that of its password hash. -/
def shownMembers (account : Account) : List (String × Json) :=
  ("password_hash", .string account.passwordHash) ::
    Json.Record.members fields account.toValues

theorem perm_shownMembers (account : Account) :
    (Json.Record.members shownFields account.toValues).Perm account.shownMembers :=
  @List.perm_middle _ _ [("id", _), ("name", _), ("email", _)] _

theorem distinct_shownFields : (names shownFields).Nodup := by decide

theorem distinct_shownMembers (account : Account) : (account.shownMembers.map Prod.fst).Nodup :=
  (account.perm_shownMembers.map Prod.fst).nodup_iff.mp
    (Json.Record.nodup_members distinct_shownFields account.toValues)

/-- With its password hash, an account is read as it was written. -/
theorem read_shownMembers (account : Account) {members : List (String × Json)}
    (proper : account.IsProper) (perm : members.Perm account.shownMembers) :
    codec.read (.object members) = .ok account := by
  have distinct := (perm.map Prod.fst).nodup_iff.mpr account.distinct_shownMembers
  have whole : Json.Record.read "Account" shownFields (.object members) = .ok account.toValues :=
    (Json.Record.read_object_perm distinct_shownFields
      (Json.Record.nodup_members distinct_shownFields _)
      (account.perm_shownMembers.trans perm.symm)).mp
        (Json.Record.read_write distinct_shownFields (allReturn proper))
  -- What is written of a field decides nothing about what it finds.
  have gathers : Json.Record.Gathers (members.lookup ·) fields account.toValues :=
    (Json.Record.read_object_iff distinct_shownFields distinct).mp whole
  simp only [codec, Json.Record.codec,
    (Json.Record.read_object_iff distinct_fields distinct).mpr gathers, Except.map]
  rfl

/-- The field of the password hash. -/
def hashField : Field := .hidden "password_hash" .text

theorem hashField_mem : hashField ∈ fields := by simp [fields, hashField]

/-- The password hash is not written. -/
theorem hash_not_mem (account : Account) :
    ∀ entry ∈ Json.Record.members fields account.toValues, entry.1 ≠ "password_hash" := by
  rintro entry member same
  have fresh := (List.nodup_cons.mp account.distinct_shownMembers).1
  exact fresh (List.mem_map.mpr ⟨entry, member, same⟩)

/-- Without a password hash, no account is read. -/
theorem read_ne_ok {members : List (String × Json)}
    (hidden : ∀ entry ∈ members, entry.1 ≠ "password_hash") (found : Account) :
    codec.read (.object members) ≠ .ok found := by
  have missing : members.lookup hashField.name = none := by
    rw [List.lookup_eq_none_iff]
    intro entry member
    exact bne_iff_ne.mpr (hidden entry member).symm
  intro shown
  cases reading : Json.Record.read "Account" fields (.object members) with
  | error mismatch =>
      simp only [codec, Json.Record.codec, reading, Except.map] at shown
      injection shown
  | ok values => exact Json.Record.read_object_ne_ok hashField_mem rfl missing values reading

theorem plain_fields : AllPlain fields :=
  ⟨Json.Codec.isPlain_spelled, Json.Codec.isPlain_text, Json.Codec.isPlain_text,
    Json.Codec.isPlain_text, Json.Codec.isPlain_text.across Role.mk Role.name,
    Json.Codec.isPlain_spelled, Json.Codec.isPlain_spelled.optional, trivial⟩

theorem isIntegral_write (account : Account) : (codec.write account).IsIntegral :=
  Json.Record.isIntegral_write plain_fields account.toValues

/-- What an account is written as is no account, in any form of it. -/
theorem refused (account found : Account) :
    codec.read (codec.write account) ≠ .ok found ∧
      codec.read (codec.write account).normal ≠ .ok found ∧
      (Json.Written.ofBytes? (bytesOfText (codec.write account).encode)).bind
        (ofWritten? "Account" fields ofValues) = none := by
  refine ⟨read_ne_ok account.hash_not_mem found, ?_, ?_⟩
  · obtain ⟨others, perm, shape⟩ :=
      Json.Record.exists_normal_write distinct_fields plain_fields account.toValues
    have sorted : (codec.write account).normal = .object others := shape
    rw [sorted]
    exact read_ne_ok (fun entry member => account.hash_not_mem entry (perm.mem_iff.mpr member))
      found
  · have missing : Json.Record.under
        (Json.writtenMembers (Json.Record.members fields account.toValues))
          hashField.name = [] := by
      rw [List.eq_nil_iff_forall_not_mem]
      intro written member
      obtain ⟨json, among, -⟩ := Json.Record.mem_under_writtenMembers.mp member
      exact account.hash_not_mem _ among rfl
    rw [Json.ofBytes?_encode account.isIntegral_write, Option.bind_some]
    exact Json.Record.ofWritten?_object_eq_none distinct_fields hashField_mem rfl missing

/-- An account without its password hash. -/
def bare (account : Account) : Account := { account with passwordHash := "" }

theorem write_bare (account : Account) : codec.write account.bare = codec.write account := rfl

/-- What is written of an account decides all of it but the password hash. -/
theorem encode_eq_iff {first second : Account} (proper : first.IsProper)
    (properSecond : second.IsProper) :
    (codec.write first).encode = (codec.write second).encode ↔ first.bare = second.bare := by
  constructor
  · intro same
    have read := Json.ofBytes?_encode first.isIntegral_write
    rw [same, Json.ofBytes?_encode second.isIntegral_write] at read
    have written := congrArg (Option.bind · Json.Written.toJson?) read
    simp only [Option.bind_some, Json.toJson?_written, Option.some.injEq] at written
    have members : first.bare.shownMembers = second.bare.shownMembers :=
      congrArg (fun others => ("password_hash", Json.string "") :: others)
        (Json.object.inj written).symm
    have shown := read_shownMembers first.bare ⟨proper.created, proper.deleted⟩
      (List.Perm.refl _)
    have shownSecond := read_shownMembers second.bare
      ⟨properSecond.created, properSecond.deleted⟩ (List.Perm.refl _)
    rw [members] at shown
    exact Except.ok.inj (shown.symm.trans shownSecond)
  · intro same
    rw [← write_bare first, same, write_bare]

end Account

namespace Moment

/-- Every moment of the years 0 to 9999 can be represented. -/
theorem isProper_of_years {moment : Moment}
    (low : Date.toDays ⟨0, 1, 1⟩ * secondsPerDay ≤ moment.seconds)
    (high : moment.seconds < Date.toDays ⟨10000, 1, 1⟩ * secondsPerDay)
    (nanos : moment.nanos < 1000000000) : moment.IsProper := by
  have least : minSeconds ≤ Date.toDays ⟨0, 1, 1⟩ * secondsPerDay := by decide
  have greatest : Date.toDays ⟨10000, 1, 1⟩ * secondsPerDay ≤ maxSeconds := by decide
  exact ⟨by omega, by omega, by omega, by omega⟩

end Moment

/-- Which records come back from what they are written as. -/
structure EncodingsReturn : Prop where
  /-- Rules whose moments can be represented. -/
  rules : ∀ {rule : Rule}, rule.IsProper →
    Rule.codec.Restores (ofWritten? "PermissionRule" Rule.fields Rule.ofValues) rule
  tuples : ∀ tuple : PolicyTuple,
    PolicyTuple.codec.Restores
      (ofWritten? "PolicyTuple" PolicyTuple.fields PolicyTuple.ofValues) tuple
  pairs : ∀ pair : TokenPair,
    TokenPair.codec.Restores (ofWritten? "TokenPair" TokenPair.fields TokenPair.ofValues) pair
  views : ∀ view : RoleView,
    RoleView.codec.Restores (ofWritten? "RoleView" RoleRequest.fields RoleView.ofValues) view
  /-- Rules by procedure, in whichever order they are written. -/
  maps : ∀ {map : RuleMap} {entries}, map.IsProper → entries.Perm map.entries →
    RuleMap.decode? (RuleMap.textOf entries) = some map
  /-- Rules by procedure, as long as the cache keeps them. -/
  cached : ∀ {map : RuleMap} {cache after : TtlCache} {now later key ttl}, map.IsProper →
    cache.set now key map.encode ttl = .ok after → later < now + ttl.nanos →
    (after.get? later key).bind RuleMap.decode? = some map
  /-- Accounts, but for the password hash. -/
  carried : ∀ {first second : Account}, first.IsProper → second.IsProper →
    ((Account.codec.write first).encode = (Account.codec.write second).encode ↔
      first.bare = second.bare)
  /-- Accounts that differ in the password hash only. -/
  hidden : ∀ (account : Account) (hash : String),
    Account.codec.write { account with passwordHash := hash } = Account.codec.write account
  /-- Accounts that are given their password hash back. -/
  completed : ∀ {account : Account} {members}, account.IsProper →
    members.Perm account.shownMembers → Account.codec.read (.object members) = .ok account
  /-- Accounts that are not. -/
  refused : ∀ account found : Account,
    Account.codec.read (Account.codec.write account) ≠ .ok found ∧
      Account.codec.read (Account.codec.write account).normal ≠ .ok found ∧
      (Json.Written.ofBytes? (bytesOfText (Account.codec.write account).encode)).bind
        (ofWritten? "Account" Account.fields Account.ofValues) = none
  /-- Which moments can be represented. -/
  represented : ∀ {moment : Moment},
    Date.toDays ⟨0, 1, 1⟩ * Moment.secondsPerDay ≤ moment.seconds →
    moment.seconds < Date.toDays ⟨10000, 1, 1⟩ * Moment.secondsPerDay →
    moment.nanos < 1000000000 → moment.IsProper

/-- Records come back from what they are written as, accounts with their password hash only. -/
theorem encodingsReturn : EncodingsReturn where
  rules := Rule.restores
  tuples := PolicyTuple.restores
  pairs := TokenPair.restores
  views := RoleView.restores
  maps := RuleMap.decode?_textOf_perm
  cached := RuleMap.decode?_get?_of_set
  carried := Account.encode_eq_iff
  hidden _ _ := rfl
  completed := Account.read_shownMembers _
  refused := Account.refused
  represented := Moment.isProper_of_years

end Gatehouse
