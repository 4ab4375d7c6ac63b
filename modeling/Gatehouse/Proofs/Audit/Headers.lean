import Gatehouse.Audit
import Gatehouse.Proofs.Ordered.Members
import Gatehouse.Proofs.Text.Lenient
import Mathlib.Data.List.Forall2

/-!
# The headers of a record

A record lists the name of every header once, in lower case. Under the names of the headers
that carry credentials it says that something was redacted, and under every other name it
shows the text of the last value. So two calls that differ in nothing but their credentials
leave the same record.
-/

namespace Gatehouse

variable {headers others : List (String × Bytes)} {name : String}

/-! ## Headers of a call -/

/-- A header that carries a credential, in whatever letter case its name is. -/
def CarriesCredential (header : String × Bytes) : Prop :=
  lowerAscii header.1 = "authorization" ∨ lowerAscii header.1 = "cookie"

instance (header : String × Bytes) : Decidable (CarriesCredential header) :=
  inferInstanceAs (Decidable (_ ∨ _))

/-- Headers have the same names in the same places, and the same values but for those that
carry credentials. -/
def SameButCredentials (headers others : List (String × Bytes)) : Prop :=
  List.Forall₂ (fun header other => lowerAscii header.1 = lowerAscii other.1 ∧
    (¬ CarriesCredential header → header.2 = other.2)) headers others

/-- The last header of a name, in whatever letter case the names are. -/
def IsLast (headers : List (String × Bytes)) (name : String) (header : String × Bytes) : Prop :=
  ∃ before after, headers = before ++ header :: after ∧ lowerAscii header.1 = name ∧
    ∀ later ∈ after, lowerAscii later.1 ≠ name

/-- The names that have a last header are those of the headers. -/
theorem exists_isLast_iff :
    (∃ last, IsLast headers name last) ↔ ∃ header ∈ headers, lowerAscii header.1 = name := by
  constructor
  · rintro ⟨last, before, after, rfl, named, -⟩
    exact ⟨last, List.mem_append_right before List.mem_cons_self, named⟩
  · intro named
    induction headers with
    | nil => simp at named
    | cons first others ih =>
        by_cases later : ∃ header ∈ others, lowerAscii header.1 = name
        · rcases ih later with ⟨last, before, after, rfl, last⟩
          exact ⟨_, first :: before, after, rfl, last⟩
        · rcases named with ⟨header, member, named⟩
          rcases List.mem_cons.mp member with rfl | member
          · exact ⟨header, [], others, rfl, named, fun other member same =>
              later ⟨other, member, same⟩⟩
          · exact absurd ⟨header, member, named⟩ later

theorem carriesCredential_congr {header other : String × Bytes}
    (same : lowerAscii header.1 = lowerAscii other.1) :
    CarriesCredential header ↔ CarriesCredential other := by
  rw [CarriesCredential, CarriesCredential, same]

theorem lenientText_eq_iff {bytes : Bytes} {text : String} :
    lenientText bytes = text ↔ Utf8.ReadsAs bytes text.toList := by
  rw [Utf8.readsAs_iff, lenientText]
  constructor
  · rintro rfl
    exact String.toList_ofList.symm
  · intro same
    rw [same, String.ofList_toList]

namespace AuditRecord

/-- A record shows headers: every name once, of credentials nothing, and of the others what is
read of the last value. -/
structure ShowsHeaders (record : AuditRecord) (headers : List (String × Bytes)) : Prop where
  once : (record.headers.entries.map Prod.fst).Nodup
  names : ∀ name, (∃ text, (name, text) ∈ record.headers.entries) ↔
    ∃ header ∈ headers, lowerAscii header.1 = name
  redacted : ∀ header ∈ headers, CarriesCredential header → ∀ text,
    (lowerAscii header.1, text) ∈ record.headers.entries ↔ text = "[redacted]"
  shown : ∀ header ∈ headers, ¬ CarriesCredential header → ∀ text,
    (lowerAscii header.1, text) ∈ record.headers.entries ↔
      ∃ last, IsLast headers (lowerAscii header.1) last ∧ Utf8.ReadsAs last.2 text.toList

/-! ## What is shown of one header -/

/-- What is recorded of a header whose name may be in any letter case. -/
def shown (header : String × Bytes) : String × String := shownHeader (lowerAscii header.1, header.2)

theorem shownHeaders_ofList (headers : List (String × Bytes)) :
    shownHeaders (.ofList headers) = .ofList (headers.map shown) := by
  rw [shownHeaders, Headers.ofList, List.map_map]
  rfl

theorem shown_eq (header : String × Bytes) : shown header = (lowerAscii header.1,
    if CarriesCredential header then "[redacted]" else lenientText header.2) := by
  have redacts : redactedHeaders.contains (lowerAscii header.1) = true ↔
      CarriesCredential header := by
    simp [redactedHeaders, CarriesCredential]
  rw [shown, shownHeader]
  simp only [redacts]

/-- Headers that differ in nothing but credentials are shown alike. -/
theorem map_shown_of_same (same : SameButCredentials headers others) :
    headers.map shown = others.map shown := by
  induction same with
  | nil => rfl
  | @cons header other headers others alike _ ih =>
      have first : shown header = shown other := by
        rw [shown_eq, shown_eq, alike.1]
        by_cases carries : CarriesCredential header
        · rw [if_pos carries, if_pos ((carriesCredential_congr alike.1).mp carries)]
        · rw [if_neg carries, if_neg (mt (carriesCredential_congr alike.1).mpr carries),
            alike.2 carries]
      rw [List.map_cons, List.map_cons, first, ih]

/-! ## What is shown of all headers -/

/-- Of one name the last header is shown. -/
theorem mem_shownHeaders_iff {text : String} :
    (name, text) ∈ (shownHeaders (.ofList headers)).entries ↔
      ∃ header, IsLast headers name header ∧ (shown header).2 = text := by
  have apart_iff : ∀ entries : List (String × Bytes),
      (∀ entry ∈ entries.map shown, (name != entry.1) = true) ↔
        ∀ entry ∈ entries, lowerAscii entry.1 ≠ name := by
    intro entries
    simp only [List.forall_mem_map, bne_iff_ne, ne_comm (a := name)]
    exact Iff.rfl
  rw [shownHeaders_ofList, OrderedMap.mem_entries_iff, OrderedMap.get?_ofList, ← List.map_reverse,
    List.lookup_eq_some_iff]
  constructor
  · rintro ⟨back, front, shape, apart⟩
    rcases List.map_eq_append_iff.mp shape with ⟨after, rest, whole, rfl, tail⟩
    rcases List.map_eq_cons_iff.mp tail with ⟨header, before, rfl, last, -⟩
    rcases Prod.ext_iff.mp last with ⟨named, text⟩
    refine ⟨header, ⟨before.reverse, after.reverse, ?_, named, ?_⟩, text⟩
    · rw [List.reverse_eq_iff.mp whole]
      simp
    · intro later member
      exact (apart_iff after).mp apart later (List.mem_reverse.mp member)
  · rintro ⟨header, ⟨before, after, rfl, rfl, apart⟩, rfl⟩
    refine ⟨after.reverse.map shown, before.reverse.map shown, ?_, ?_⟩
    · simp [shown_eq]
    · rw [apart_iff]
      intro later member
      exact apart later (List.mem_reverse.mp member)

/-- Whether the last header of a name is redacted can be told from any other. -/
theorem shown_of_isLast {header last : String × Bytes}
    (ends : IsLast headers (lowerAscii header.1) last) : (shown last).2 =
      if CarriesCredential header then "[redacted]" else lenientText last.2 := by
  rcases ends with ⟨before, after, whole, same, apart⟩
  rw [shown_eq]
  simp only [carriesCredential_congr same]

theorem showsHeaders_of_shown {record : AuditRecord}
    (same : record.headers = shownHeaders (.ofList headers)) : record.ShowsHeaders headers := by
  have entries : ∀ {name text}, (name, text) ∈ record.headers.entries ↔
      ∃ header, IsLast headers name header ∧ (shown header).2 = text := by
    intro name text
    rw [same]
    exact mem_shownHeaders_iff
  constructor
  · exact nodup_of_ascending record.headers.keys_ascending
  · intro name
    rw [← exists_isLast_iff]
    constructor
    · rintro ⟨text, member⟩
      rcases entries.mp member with ⟨last, ends, -⟩
      exact ⟨last, ends⟩
    · rintro ⟨last, ends⟩
      exact ⟨_, entries.mpr ⟨last, ends, rfl⟩⟩
  · intro header member carries text
    rw [entries]
    constructor
    · rintro ⟨last, ends, rfl⟩
      rw [shown_of_isLast ends, if_pos carries]
    · rintro rfl
      rcases exists_isLast_iff.mpr ⟨header, member, rfl⟩ with ⟨last, ends⟩
      exact ⟨last, ends, by rw [shown_of_isLast ends, if_pos carries]⟩
  · intro header member plain text
    rw [entries]
    apply exists_congr
    intro last
    apply and_congr_right
    intro ends
    rw [shown_of_isLast ends, if_neg plain, lenientText_eq_iff]

/-- The records of two calls that differ in nothing but the credentials in their headers are
the same, and every record shows the headers of its call without the credentials. -/
theorem keeps_credentials_out (procedure : String) (receivedAt now : Moment) (request : Json)
    (result : CallResult) :
    (∀ headers others, SameButCredentials headers others →
      ofCall ⟨procedure, .ofList headers, receivedAt⟩ now request result =
        ofCall ⟨procedure, .ofList others, receivedAt⟩ now request result) ∧
      ∀ headers, (ofCall ⟨procedure, .ofList headers, receivedAt⟩ now request result).ShowsHeaders
        headers := by
  constructor
  · intro headers others same
    rw [ofCall, ofCall, shownHeaders_ofList, shownHeaders_ofList, map_shown_of_same same]
  · intro headers
    exact showsHeaders_of_shown rfl

/-- The headers of a call with two credentials and a cookie. -/
def sentHeaders (bearer cookie : Bytes) : List (String × Bytes) :=
  [("Authorization", bearer), ("X-Request-Id", [0x72, 0xFF]), ("COOKIE", cookie),
    ("authorization", bearer ++ cookie)]

/-- The record of a call with these headers. -/
def sentRecord (bearer cookie : Bytes) : AuditRecord :=
  ofCall ⟨"pkg.Svc/Method", .ofList (sentHeaders bearer cookie), ⟨0, 0⟩⟩ ⟨1, 0⟩ .null (.ok .null)

/-- Neither credentials nor cookies can be told from a record, which shows the other header. -/
theorem keeps_credentials_out_of_sent :
    SameButCredentials (sentHeaders [0x61] [0x62]) (sentHeaders [0xFF] []) ∧
      sentRecord [0x61] [0x62] = sentRecord [0xFF] [] ∧
        ("authorization", "[redacted]") ∈ (sentRecord [0xFF] []).headers.entries ∧
          ("x-request-id", "r\uFFFD") ∈ (sentRecord [0xFF] []).headers.entries := by
  have same : SameButCredentials (sentHeaders [0x61] [0x62]) (sentHeaders [0xFF] []) := by
    refine .cons ⟨rfl, fun plain => absurd (by decide) plain⟩ (.cons ⟨rfl, fun _ => rfl⟩ ?_)
    exact .cons ⟨rfl, fun plain => absurd (by decide) plain⟩
      (.cons ⟨rfl, fun plain => absurd (by decide) plain⟩ .nil)
  have both := keeps_credentials_out "pkg.Svc/Method" ⟨0, 0⟩ ⟨1, 0⟩ .null (.ok .null)
  have shows := both.2 (sentHeaders [0xFF] [])
  refine ⟨same, both.1 _ _ same, ?_, ?_⟩
  · exact (shows.redacted ("Authorization", [0xFF]) List.mem_cons_self (by decide) _).mpr rfl
  · refine (shows.shown ("X-Request-Id", [0x72, 0xFF]) (by decide) (by decide) _).mpr ?_
    refine ⟨("X-Request-Id", [0x72, 0xFF]), ⟨[_], _, rfl, rfl, by decide⟩, ?_⟩
    exact Utf8.readsAs_iff.mpr (by decide)

end AuditRecord

end Gatehouse
