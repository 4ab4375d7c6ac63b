import Gatehouse.Proofs.Json.Shown

/-!
# Codecs that read only what they write

Texts, integers and lists of such values have one spelling in JSON each. A field of such a
codec is shown by that spelling and nothing else.
-/

namespace Gatehouse.Json

/-! ## Written values -/

mutual
/-- A written text with a value is what the value is written as. -/
theorem eq_written_of_toJson? {written : Written} {json : Json}
    (value : written.toJson? = some json) : written = json.written := by
  cases written with
  | null =>
      obtain rfl := Option.some.inj value
      rfl
  | bool shown =>
      obtain rfl := Option.some.inj value
      rfl
  | number shown =>
      obtain ⟨number, rfl, rfl⟩ := Option.map_eq_some_iff.mp value
      rfl
  | string shown =>
      obtain ⟨text, rfl, rfl⟩ := Option.map_eq_some_iff.mp value
      rfl
  | array items =>
      obtain ⟨values, shown, rfl⟩ := Option.map_eq_some_iff.mp value
      rw [written, eq_writtenItems_of_toJson? shown]
  | object members =>
      obtain ⟨values, shown, rfl⟩ := Option.map_eq_some_iff.mp value
      rw [written, eq_writtenMembers_of_toJson? shown]

theorem eq_writtenItems_of_toJson? {items : List Written} {values : List Json}
    (shown : Written.itemsToJson? items = some values) : items = writtenItems values := by
  cases items with
  | nil =>
      obtain rfl := Option.some.inj shown
      rfl
  | cons item items =>
      obtain ⟨json, others, read, behind, rfl⟩ := Record.itemsToJson?_cons.mp shown
      rw [writtenItems, ← eq_written_of_toJson? read, ← eq_writtenItems_of_toJson? behind]

theorem eq_writtenMembers_of_toJson? {members : List (Option String × Written)}
    {values : List (String × Json)} (shown : Written.membersToJson? members = some values) :
    members = writtenMembers values := by
  cases members with
  | nil =>
      obtain rfl := Option.some.inj shown
      rfl
  | cons entry members =>
      obtain ⟨key, json, others, named, read, behind, rfl⟩ :=
        Record.membersToJson?_cons.mp shown
      rw [writtenMembers, named, ← eq_written_of_toJson? read,
        ← eq_writtenMembers_of_toJson? behind]
end

theorem toJson?_eq_some_iff {written : Written} {json : Json} :
    written.toJson? = some json ↔ written = json.written := by
  constructor
  · exact eq_written_of_toJson?
  · rintro rfl
    exact toJson?_written json

theorem writtenItems_eq_map (items : List Json) : writtenItems items = items.map written := by
  induction items with
  | nil => rfl
  | cons item items ih => rw [writtenItems, ih, List.map_cons]

/-! ## Exact codecs -/

/-- A value is read from what it is written as, and from nothing else. -/
def Codec.IsExact {α : Type} (codec : Codec α) : Prop :=
  ∀ json value, codec.read json = .ok value ↔ json = codec.write value

namespace Codec

theorem isExact_text : text.IsExact := by
  intro json value
  cases json <;> simp [text]

theorem isExact_int64 : int64.IsExact := by
  intro json value
  constructor
  · intro read
    cases json with
    | number number =>
        cases number with
        | integer shown =>
            simp only [int64] at read
            split at read
            · next range =>
                obtain rfl := Except.ok.inj read
                have kept := Int64.toInt_ofInt_of_le range.1
                  (Int.lt_of_le_of_lt range.2 (by decide : Int64.maxValue.toInt < 2 ^ 63))
                change _ = Json.number (.integer (Int64.ofInt shown).toInt)
                rw [kept]
            · injection read
        | binary bits => injection read
    | _ => injection read
  · rintro rfl
    exact read_write_int64 value

variable {α β : Type} {codec : Codec α}

theorem IsExact.across (exact : codec.IsExact) {into : α → β} {back : β → α}
    (backInto : ∀ value, back (into value) = value)
    (intoBack : ∀ value, into (back value) = value) :
    (codec.across into back).IsExact := by
  intro json value
  constructor
  · intro read
    cases reading : codec.read json with
    | error mismatch =>
        simp only [Codec.across, reading, Except.map] at read
        injection read
    | ok shown =>
        simp only [Codec.across, reading, Except.map, Except.ok.injEq] at read
        rw [(exact json shown).mp reading, ← read]
        change _ = codec.write (back (into shown))
        rw [backInto]
  · rintro rfl
    simp only [Codec.across, (exact _ _).mpr rfl, Except.map, intoBack]

theorem readAll_eq_ok_iff (exact : codec.IsExact) {items : List Json} {values : List α} :
    readAll codec.read items = .ok values ↔ items = values.map codec.write := by
  constructor
  · intro read
    induction items generalizing values with
    | nil =>
        obtain rfl := Except.ok.inj read
        rfl
    | cons item items ih =>
        simp only [readAll] at read
        split at read
        · injection read
        · next first readFirst =>
            split at read
            · injection read
            · next others readOthers =>
                obtain rfl := Except.ok.inj read
                rw [List.map_cons, ← (exact _ _).mp readFirst, ← ih readOthers]
  · rintro rfl
    exact readAll_map fun value _ => (exact _ value).mpr rfl

theorem IsExact.list (exact : codec.IsExact) : codec.list.IsExact := by
  intro json values
  cases json with
  | array items =>
      refine (readAll_eq_ok_iff exact).trans ⟨?_, ?_⟩
      · rintro rfl
        rfl
      · intro same
        exact Json.array.inj same
  | _ => exact ⟨nofun, nofun⟩

end Codec

/-! ## Fields -/

namespace Record

/-- What is found for a field is written as a value that the field reads. -/
theorem findsWritten_iff {field : Field} {found : List Written} {value : field.Value} :
    FindsWritten field found value ↔ (found = [] ∧ field.absent = some value) ∨
      ∃ json, found = [json.written] ∧ field.codec.read json = .ok value := by
  match found with
  | [] => simp [FindsWritten]
  | [written] => simp [FindsWritten, toJson?_eq_some_iff]
  | _ :: _ :: _ => simp [FindsWritten]

theorem findsWritten_required {α : Type} {codec : Codec α} {name : String} {found : List Written}
    {value : α} :
    FindsWritten (.required name codec) found value ↔
      ∃ json, found = [json.written] ∧ codec.read json = .ok value := by
  refine (@findsWritten_iff (.required name codec) _ _).trans ⟨?_, .inr⟩
  rintro (⟨-, absent⟩ | shown)
  · injection absent
  · exact shown

theorem findsWritten_exact {α : Type} {codec : Codec α} {name : String} {found : List Written}
    {value : α} (exact : codec.IsExact) :
    FindsWritten (.required name codec) found value ↔ found = [(codec.write value).written] := by
  refine findsWritten_required.trans ⟨?_, ?_⟩
  · rintro ⟨json, rfl, read⟩
    rw [(exact _ _).mp read]
  · rintro rfl
    exact ⟨_, rfl, (exact _ _).mpr rfl⟩

theorem findsWritten_listOrAbsent {α : Type} {codec : Codec α} {name : String}
    {found : List Written} {values : List α} (exact : codec.IsExact) :
    FindsWritten (.listOrAbsent name codec) found values ↔
      (found = [] ∧ values = []) ∨ found = [(codec.list.write values).written] := by
  refine (@findsWritten_iff (.listOrAbsent name codec) _ _).trans (or_congr ?_ ?_)
  · refine and_congr Iff.rfl ⟨?_, ?_⟩
    · intro absent
      exact (Option.some.inj absent).symm
    · rintro rfl
      rfl
  · constructor
    · rintro ⟨json, rfl, read⟩
      rw [(exact.list _ _).mp read]
    · rintro rfl
      exact ⟨_, rfl, (exact.list _ _).mpr rfl⟩

end Record

end Gatehouse.Json
