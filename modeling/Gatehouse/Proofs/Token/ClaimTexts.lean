import Gatehouse.Claims
import Gatehouse.Proofs.Identifier.Text
import Gatehouse.Proofs.Json.Codecs
import Gatehouse.Proofs.Json.Restored
import Gatehouse.Proofs.Text.Bytes

/-!
# Claims as texts

Which texts are claims. A text of claims is an object or an array that presents their fields;
how it is laid out does not count, and what it presents leaves no choice of claims.
-/

namespace Gatehouse.Claims

open Json (Written IsText IsBlank HasTokens Spells)
open Json.Record (under names named Presents)

/-- The members that some bytes present for claims: those of the object that they are the text
of, or the items of the array, named in their order. -/
def IsTextOf (members : List (Option String × Written)) (bytes : Bytes) : Prop :=
  ∃ written, IsText written bytes ∧ Presents fields written members

/-- Claims are in members that say all of them: each once, but for an empty audience, which may
be left out. -/
structure AreIn (claims : Claims) (members : List (Option String × Written)) : Prop where
  texts : ∀ entry ∈ members, entry.1.isSome
  subject : ∃ text, under members "sub" = [.string (some text)] ∧
    Identifier.parse .account text = .ok claims.subject
  session : ∃ text, under members "jti" = [.string (some text)] ∧
    Identifier.parse .session text = .ok claims.session
  expires : under members "exp" = [.number (some (.integer claims.expires.toInt))]
  audience : (under members "aud" = [] ∧ claims.audience = []) ∨
    under members "aud" = [.array (claims.audience.map fun role => .string (some role.name))]

variable {bytes : Bytes} {claims : Claims} {members : List (Option String × Written)}

/-! ## Fields -/

theorem distinct_fields : (names fields).Nodup := by decide

theorem plain_fields : Json.Record.AllPlain fields :=
  ⟨Json.Codec.isPlain_spelled, Json.Codec.isPlain_spelled, Json.Codec.isPlain_int64,
    (Json.Codec.isPlain_text.across Role.mk Role.name).list, trivial⟩

theorem isIntegral_toJson (claims : Claims) : claims.toJson.IsIntegral :=
  Json.Record.isIntegral_write plain_fields claims.toValues

/-- Claims are read as they were written. -/
theorem ofBytes?_encode (claims : Claims) :
    ofBytes? (bytesOfText claims.encode) = some claims := by
  have returns : Json.Record.AllReturn fields claims.toValues := by
    refine ⟨?_, ?_, ?_, ?_, trivial⟩
    · exact Json.Record.returns_required (Identifier.read_write claims.subject)
    · exact Json.Record.returns_required (Identifier.read_write claims.session)
    · exact Json.Record.returns_required (Json.Codec.read_write_int64 claims.expires)
    · exact Json.Record.returns_listOrAbsent fun role _ => rfl
  rw [ofBytes?, encode, Json.ofBytes?_encode claims.isIntegral_toJson, Option.bind_some]
  exact Json.Record.ofWritten?_written distinct_fields returns

theorem findsWritten_identifier {kind : IdentifierKind} {name : String} {found : List Written}
    {value : Identifier kind} :
    Json.Record.FindsWritten (.required name (Identifier.codec kind)) found value ↔
      ∃ text, found = [.string (some text)] ∧ Identifier.parse kind text = .ok value := by
  refine Json.Record.findsWritten_required.trans ⟨?_, ?_⟩
  · rintro ⟨json, rfl, read⟩
    cases json with
    | string text =>
        refine ⟨text, rfl, ?_⟩
        simp only [Identifier.codec, Json.Codec.spelled] at read
        cases parsed : Identifier.parse kind text with
        | error fault =>
            rw [parsed] at read
            injection read
        | ok found =>
            rw [parsed] at read
            rw [Except.ok.inj read]
    | _ => injection read
  · rintro ⟨text, rfl, parsed⟩
    refine ⟨.string text, rfl, ?_⟩
    simp only [Identifier.codec, Json.Codec.spelled, parsed]
    rfl

theorem isExact_roles : Role.codec.IsExact :=
  Json.Codec.isExact_text.across (fun _ => rfl) fun _ => rfl

theorem written_roles (roles : List Role) :
    (Role.codec.list.write roles).written =
      .array (roles.map fun role => .string (some role.name)) := by
  rw [Json.Codec.list, Json.written, Json.writtenItems_eq_map, List.map_map]
  rfl

/-- Claims are in members if and only if every field has its value there. -/
theorem areIn_iff : claims.AreIn members ↔ (∀ entry ∈ members, entry.1.isSome) ∧
    Json.Record.Shows (under members) fields claims.toValues := by
  have subject := @findsWritten_identifier .account "sub" (under members "sub") claims.subject
  have session := @findsWritten_identifier .session "jti" (under members "jti") claims.session
  have expires := @Json.Record.findsWritten_exact _ _ "exp" (under members "exp") claims.expires
    Json.Codec.isExact_int64
  have audience := @Json.Record.findsWritten_listOrAbsent _ _ "aud" (under members "aud")
    claims.audience isExact_roles
  rw [written_roles] at audience
  constructor
  · intro found
    exact ⟨found.texts, subject.mpr found.subject, session.mpr found.session,
      expires.mpr found.expires, audience.mpr found.audience, trivial⟩
  · rintro ⟨texts, shows⟩
    exact ⟨texts, subject.mp shows.1, session.mp shows.2.1, expires.mp shows.2.2.1,
      audience.mp shows.2.2.2.1⟩

/-- Bytes are read as claims if and only if they are a text of members that the claims are in. -/
theorem ofBytes?_eq_some_iff :
    ofBytes? bytes = some claims ↔ ∃ members, IsTextOf members bytes ∧ claims.AreIn members := by
  simp only [ofBytes?, Option.bind_eq_some_iff, Json.ofBytes?_eq_some_iff,
    Json.Record.ofWritten?_iff distinct_fields]
  constructor
  · rintro ⟨written, isText, members, presents, texts, values, shows, rfl⟩
    exact ⟨members, ⟨written, isText, presents⟩, areIn_iff.mpr ⟨texts, shows⟩⟩
  · rintro ⟨members, ⟨written, isText, presents⟩, found⟩
    obtain ⟨texts, shows⟩ := areIn_iff.mp found
    exact ⟨written, isText, members, presents, texts, _, shows, rfl⟩

theorem isTextOf_object (isText : IsText (.object members) bytes) : IsTextOf members bytes :=
  ⟨_, isText, .object members⟩

theorem IsTextOf.unique {others : List (Option String × Written)} (isText : IsTextOf members bytes)
    (isOther : IsTextOf others bytes) : members = others := by
  obtain ⟨written, isText, presents⟩ := isText
  obtain ⟨other, isOther, presentsOther⟩ := isOther
  have same := Option.some.inj
    ((Json.ofBytes?_eq_some_iff.mpr isText).symm.trans (Json.ofBytes?_eq_some_iff.mpr isOther))
  subst same
  exact presents.unique presentsOther

/-- Claims that are read are in the members that the bytes present. -/
theorem areIn (isText : IsTextOf members bytes) (shown : ofBytes? bytes = some claims) :
    claims.AreIn members := by
  obtain ⟨others, isOther, found⟩ := ofBytes?_eq_some_iff.mp shown
  exact isOther.unique isText ▸ found

/-! ## What does not count -/

variable {first second : Bytes} {others : List (Option String × Written)}

/-- Members that are the same under the names of the fields are read alike. -/
theorem ofBytes?_congr (isFirst : IsTextOf members first) (isSecond : IsTextOf others second)
    (texts : (∀ entry ∈ members, entry.1.isSome) ↔ ∀ entry ∈ others, entry.1.isSome)
    (same : ∀ name ∈ names fields, (under members name).Perm (under others name)) :
    ofBytes? first = ofBytes? second := by
  obtain ⟨written, isText, presents⟩ := isFirst
  obtain ⟨other, isOther, presentsOther⟩ := isSecond
  rw [ofBytes?, ofBytes?, Json.ofBytes?_eq_some_iff.mpr isText,
    Json.ofBytes?_eq_some_iff.mpr isOther]
  exact Json.Record.ofWritten?_congr distinct_fields presents presentsOther texts same

theorem ofBytes?_perm (isFirst : IsText (.object members) first)
    (isSecond : IsText (.object others) second) (perm : members.Perm others) :
    ofBytes? first = ofBytes? second := by
  apply ofBytes?_congr (isTextOf_object isFirst) (isTextOf_object isSecond)
  · constructor
    · intro texts entry member
      exact texts entry (perm.mem_iff.mpr member)
    · intro texts entry member
      exact texts entry (perm.mem_iff.mp member)
  · intro name _
    exact Json.Record.under_perm perm name

theorem ofBytes?_insert {front back : List (Option String × Written)} {key : String}
    {written : Written} (isFirst : IsText (.object (front ++ back)) first)
    (isSecond : IsText (.object (front ++ (some key, written) :: back)) second)
    (unknown : key ∉ names fields) : ofBytes? first = ofBytes? second := by
  apply ofBytes?_congr (isTextOf_object isFirst) (isTextOf_object isSecond)
  · simp only [List.forall_mem_append, List.forall_mem_cons, Option.isSome_some, true_and]
  · intro name known
    have other : key ≠ name := fun same => unknown (same ▸ known)
    rw [Json.Record.under_insert other]

theorem ofBytes?_array {items : List Written} (isFirst : IsText (.array items) first)
    (isSecond : IsText (.object (named fields items)) second) (short : items.length ≤ 4) :
    ofBytes? first = ofBytes? second :=
  ofBytes?_congr ⟨_, isFirst, .array short⟩ (isTextOf_object isSecond) Iff.rfl
    fun _ _ => List.Perm.refl _

/-! ## What is refused -/

/-- Members that no claims are in are refused. -/
theorem ofBytes?_eq_none (isText : IsTextOf members bytes)
    (refused : ∀ claims : Claims, ¬ claims.AreIn members) : ofBytes? bytes = none :=
  Option.eq_none_iff_forall_ne_some.mpr fun claims shown => refused claims (areIn isText shown)

theorem AreIn.length_under (found : claims.AreIn members) {name : String}
    (known : name ∈ names fields) : (under members name).length ≤ 1 := by
  obtain ⟨-, shows⟩ := areIn_iff.mp found
  obtain ⟨field, inside, rfl⟩ := List.mem_map.mp known
  obtain ⟨value, finds⟩ := shows.exists inside
  exact finds.length_le

/-- Which texts are claims, and that nothing else about a text counts. -/
structure AreRead : Prop where
  /-- Claims are read as they were written. -/
  returned : ∀ claims : Claims, ofBytes? (bytesOfText claims.encode) = some claims
  /-- The audience is left out exactly if it is empty. -/
  omitted : ∀ claims : Claims, ∃ members, IsText (.object members) (bytesOfText claims.encode) ∧
    (under members "aud" = [] ↔ claims.audience = [])
  /-- What was read is read again from what it is written as. -/
  restored : ∀ {bytes claims}, ofBytes? bytes = some claims →
    ofBytes? (bytesOfText claims.encode) = ofBytes? bytes
  /-- A text is claims if and only if it presents members that they are in. -/
  accepted : ∀ {bytes claims}, ofBytes? bytes = some claims ↔
    ∃ members, IsTextOf members bytes ∧ claims.AreIn members
  /-- Blanks between tokens do not count. -/
  respaced : ∀ {first second tokens}, HasTokens first tokens → HasTokens second tokens →
    ofBytes? first = ofBytes? second
  /-- The order of members does not count. -/
  reordered : ∀ {first second members others}, IsText (.object members) first →
    IsText (.object others) second → members.Perm others → ofBytes? first = ofBytes? second
  /-- Members of other names do not count. -/
  widened : ∀ {first second front back key written}, IsText (.object (front ++ back)) first →
    IsText (.object (front ++ (some key, written) :: back)) second → key ∉ names fields →
    ofBytes? first = ofBytes? second
  /-- Items without names are the members of their places. -/
  listed : ∀ {first second items}, IsText (.array items) first →
    IsText (.object (named fields items)) second → items.length ≤ 4 →
    ofBytes? first = ofBytes? second
  /-- No known member may be repeated. -/
  repeated : ∀ {bytes members name}, IsTextOf members bytes → name ∈ names fields →
    2 ≤ (under members name).length → ofBytes? bytes = none
  /-- No member but the audience may be missing. -/
  missing : ∀ {bytes members name}, IsTextOf members bytes → name ∈ ["sub", "jti", "exp"] →
    under members name = [] → ofBytes? bytes = none
  /-- The audience may not be null. -/
  nullAudience : ∀ {bytes members}, IsTextOf members bytes → .null ∈ under members "aud" →
    ofBytes? bytes = none
  /-- The expiry must be an integer of 64 bits with a sign. -/
  expiry : ∀ {bytes members written}, IsTextOf members bytes → written ∈ under members "exp" →
    (∀ value : Int64, written ≠ .number (some (.integer value.toInt))) → ofBytes? bytes = none
  /-- A number is that of an integer only if it is its decimal numeral. -/
  numerals : ∀ {value tokens}, Spells (.value (.number (some (.integer value)))) tokens →
    tokens = [bytesOfChars (Json.renderInt value)]
  /-- The subject must be an identifier. -/
  subject : ∀ {bytes members written}, IsTextOf members bytes → written ∈ under members "sub" →
    (∀ text id, written = .string (some text) → Identifier.parse .account text ≠ .ok id) →
    ofBytes? bytes = none
  /-- The session must be an identifier. -/
  session : ∀ {bytes members written}, IsTextOf members bytes → written ∈ under members "jti" →
    (∀ text id, written = .string (some text) → Identifier.parse .session text ≠ .ok id) →
    ofBytes? bytes = none
  /-- Nothing but blanks may follow. -/
  trailing : ∀ {bytes members extra}, IsTextOf members bytes → ¬ IsBlank extra →
    ofBytes? (bytes ++ extra) = none

/-- Claims are written as an object, without an audience exactly if theirs is empty. -/
theorem exists_text_encode (claims : Claims) : ∃ members,
    IsText (.object members) (bytesOfText claims.encode) ∧
      (under members "aud" = [] ↔ claims.audience = []) := by
  refine ⟨_, Json.ofBytes?_eq_some_iff.mp (Json.ofBytes?_encode claims.isIntegral_toJson), ?_⟩
  rw [← List.isEmpty_iff (l := claims.audience)]
  cases empty : claims.audience.isEmpty <;>
    simp [Json.Record.members, fields, toValues, Json.Field.required, Json.Field.listOrAbsent,
      empty, under, Json.writtenMembers]

theorem ofBytes?_append {extra : Bytes} (isText : IsTextOf members bytes)
    (trailing : ¬ IsBlank extra) : ofBytes? (bytes ++ extra) = none := by
  obtain ⟨written, isText, presents⟩ := isText
  have closing : (Json.Part.value written).IsClosing := by cases presents <;> trivial
  have read := Json.ofBytes?_eq_some_iff.mpr isText
  rw [ofBytes?, Json.ofBytes?_append_eq_none read closing trailing]
  rfl

/-- Claims are read from every text that presents them, and from no other. -/
theorem areRead : AreRead where
  returned := ofBytes?_encode
  omitted := exists_text_encode
  restored shown := (ofBytes?_encode _).trans shown.symm
  accepted := ofBytes?_eq_some_iff
  respaced isFirst isSecond := by
    rw [ofBytes?, ofBytes?, Json.ofBytes?_congr isFirst isSecond]
  reordered := ofBytes?_perm
  widened := ofBytes?_insert
  listed := ofBytes?_array
  repeated isText known twice := ofBytes?_eq_none isText fun claims found => by
    have once := found.length_under known
    omega
  missing {_ _ name} isText required absent := ofBytes?_eq_none isText fun claims found => by
    simp only [List.mem_cons, List.not_mem_nil, or_false] at required
    rcases required with rfl | rfl | rfl
    · obtain ⟨text, shown, -⟩ := found.subject
      rw [absent] at shown
      injection shown
    · obtain ⟨text, shown, -⟩ := found.session
      rw [absent] at shown
      injection shown
    · have shown := found.expires
      rw [absent] at shown
      injection shown
  nullAudience isText null := ofBytes?_eq_none isText fun claims found => by
    rcases found.audience with ⟨absent, -⟩ | shown
    · rw [absent] at null
      contradiction
    · rw [shown, List.mem_singleton] at null
      injection null
  expiry isText member other := ofBytes?_eq_none isText fun claims found => by
    rw [found.expires, List.mem_singleton] at member
    exact other _ member
  numerals := Json.Spells.eq_renderInt
  subject isText member malformed := ofBytes?_eq_none isText fun claims found => by
    obtain ⟨text, shown, parsed⟩ := found.subject
    rw [shown, List.mem_singleton] at member
    exact malformed text _ member parsed
  session isText member malformed := ofBytes?_eq_none isText fun claims found => by
    obtain ⟨text, shown, parsed⟩ := found.session
    rw [shown, List.mem_singleton] at member
    exact malformed text _ member parsed
  trailing := ofBytes?_append

/-- An array of three items, blanks between them and an identifier without hyphens. -/
example : ofBytes? (bytesOfText
    "[\"0190f5fe-0000-7000-8000-000000000001\", \"0190f5fe000070008000000000000002\" ,5]") =
      some ⟨⟨0x0190f5fe000070008000000000000001⟩, ⟨0x0190f5fe000070008000000000000002⟩, 5, []⟩ := by
  decide +kernel

end Gatehouse.Claims
