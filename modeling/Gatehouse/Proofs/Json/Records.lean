import Gatehouse.Json.Record
import Gatehouse.Proofs.Json.RoundTrip

/-!
# The members of records

A record is written with the members of its fields, each at most once and no
others. So the form in which a written record may be read is that in which it was
written.
-/

namespace Gatehouse.Json

theorem writtenMembers_eq_map (members : List (String × Json)) :
    writtenMembers members = members.map fun entry => (some entry.1, entry.2.written) := by
  induction members with
  | nil => rfl
  | cons entry rest ih =>
      rw [writtenMembers, ih]
      rfl

namespace Record

variable {fields : List Field}

/-- The names of some fields. -/
def names (fields : List Field) : List String := fields.map Field.name

/-- The members of a record are those of fields, in the order of the fields. -/
theorem keys_sublist (fields : List Field) (values : Values fields) :
    (members fields values).map Prod.fst |>.Sublist (names fields) := by
  induction fields with
  | nil => exact List.Sublist.refl []
  | cons field rest ih =>
      rcases values with ⟨value, values⟩
      simp only [members]
      split
      · exact (ih values).cons field.name
      · exact (ih values).cons_cons field.name

theorem keys?_writtenMembers (members : List (String × Json)) :
    keys? (writtenMembers members) = some (members.map Prod.fst) := by
  rw [keys?, writtenMembers_eq_map]
  induction members with
  | nil => rfl
  | cons entry rest ih =>
      rw [List.map_cons, List.mapM_cons, ih]
      rfl

/-- The form in which a written record may be read is that in which it was
written. -/
theorem known?_written_write (distinct : (names fields).Nodup) (values : Values fields) :
    known? fields (write fields values).written = some (write fields values) := by
  have sublist := keys_sublist fields values
  have known : ∀ key ∈ (members fields values).map Prod.fst,
      (fields.any fun field => field.name == key) = true := by
    intro key member
    rcases List.mem_map.mp (sublist.subset member) with ⟨field, among, same⟩
    exact List.any_eq_true.mpr ⟨field, among, beq_iff_eq.mpr same⟩
  have kept : ((members fields values).map Prod.fst).filter
      (fun key => fields.any fun field => field.name == key) =
        (members fields values).map Prod.fst :=
    List.filter_eq_self.mpr known
  have all : (writtenMembers (members fields values)).filter
      (fun entry => entry.1.any fun key => fields.any fun field => field.name == key) =
        writtenMembers (members fields values) := by
    rw [List.filter_eq_self, writtenMembers_eq_map]
    intro entry member
    rcases List.mem_map.mp member with ⟨shown, among, rfl⟩
    exact known shown.1 (List.mem_map.mpr ⟨shown, among, rfl⟩)
  simp only [write, written, known?]
  rw [keys?_writtenMembers]
  simp only [Option.bind_eq_bind, Option.bind_some, kept, all]
  rw [if_pos (distinct.sublist sublist), membersToJson?_written]
  rfl

theorem find?_name {fields : List Field} {field : Field} (distinct : (names fields).Nodup)
    (member : field ∈ fields) :
    fields.find? (fun other => other.name == field.name) = some field := by
  induction fields with
  | nil => contradiction
  | cons head rest ih =>
      obtain ⟨fresh, distinct⟩ := List.nodup_cons.mp distinct
      rcases List.mem_cons.mp member with rfl | member
      · rw [List.find?_cons_of_pos (by simp)]
      · have other : head.name ≠ field.name := by
          rintro same
          exact fresh (same ▸ List.mem_map_of_mem member)
        rw [List.find?_cons_of_neg (by simpa using other), ih distinct member]

end Record

end Gatehouse.Json
