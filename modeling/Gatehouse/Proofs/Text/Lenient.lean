import Gatehouse.Proofs.Text.Order
import Mathlib.Data.Nat.Find

/-!
# What is read of ill-formed bytes

A lenient reading goes through the bytes character by character. Where no character can be
read, the replacement character stands for the longest part that goes on like one, and for
one byte at least. Every sequence of bytes stands for exactly one text in this way, which is
the one that the reader gives.
-/

namespace Gatehouse.Utf8

/-! ## Ill-formed parts -/

/-- Bytes with which a character begins. -/
def BeginsChar (part : Bytes) : Prop := ∃ c, part <+: String.utf8EncodeChar c

/-- The longest ill-formed part in front of other bytes: no character can be read there, and
the part goes on for as long as one might still come of it, but for one byte at least. -/
structure IsIllFormed (part rest : Bytes) : Prop where
  unread : ∀ c, ¬ String.utf8EncodeChar c <+: part ++ rest
  nonempty : part ≠ []
  begun : part.length = 1 ∨ BeginsChar part
  longest : ∀ more, more <+: part ++ rest → BeginsChar more → more.length ≤ part.length

/-- Bytes stand for characters, and the replacement character for each longest ill-formed
part of them. -/
inductive ReadsAs : Bytes → List Char → Prop
  | nil : ReadsAs [] []
  | char (c : Char) {rest : Bytes} {text : List Char} (behind : ReadsAs rest text) :
      ReadsAs (String.utf8EncodeChar c ++ rest) (c :: text)
  | illFormed {part rest : Bytes} {text : List Char} (ill : IsIllFormed part rest)
      (behind : ReadsAs rest text) : ReadsAs (part ++ rest) ('\uFFFD' :: text)

/-- Among the beginnings of a kind one is the longest. -/
theorem exists_longest (kind : Bytes → Prop) {bytes first : Bytes} (front : first <+: bytes)
    (holds : kind first) : ∃ part, part <+: bytes ∧ kind part ∧
      ∀ more, more <+: bytes → kind more → more.length ≤ part.length := by
  classical
  let holdsAt : Nat → Prop := fun size => kind (bytes.take size)
  have taken : ∀ {part}, part <+: bytes → kind part → holdsAt part.length := by
    intro part front holds
    have same := List.prefix_iff_eq_take.mp front
    rwa [same] at holds
  refine ⟨bytes.take (Nat.findGreatest holdsAt bytes.length), List.take_prefix _ bytes, ?_, ?_⟩
  · exact Nat.findGreatest_spec front.length_le (taken front holds)
  · intro more shorter holds
    rw [List.length_take]
    exact Nat.le_min.mpr
      ⟨Nat.le_findGreatest shorter.length_le (taken shorter holds), shorter.length_le⟩

/-- Some text is read of any bytes. -/
theorem exists_readsAs (bytes : Bytes) : ∃ text, ReadsAs bytes text := by
  induction length : bytes.length using Nat.strongRecOn generalizing bytes with
  | ind size ih =>
      by_cases readable : ∃ c, String.utf8EncodeChar c <+: bytes
      · rcases readable with ⟨c, rest, rfl⟩
        have filled : 0 < (String.utf8EncodeChar c).length :=
          List.length_pos_iff.mpr String.utf8EncodeChar_ne_nil
        rw [List.length_append] at length
        rcases ih rest.length (by omega) rest rfl with ⟨text, behind⟩
        exact ⟨c :: text, .char c behind⟩
      · cases bytes with
        | nil => exact ⟨[], .nil⟩
        | cons b others =>
            have first : [b] <+: b :: others := ⟨others, rfl⟩
            rcases exists_longest (fun part => part ≠ [] ∧ (part.length = 1 ∨ BeginsChar part))
                first ⟨List.cons_ne_nil b [], .inl rfl⟩ with
              ⟨part, ⟨rest, whole⟩, ⟨filled, begun⟩, longest⟩
            have ill : IsIllFormed part rest := by
              refine ⟨?_, filled, begun, ?_⟩
              · intro c front
                exact readable ⟨c, whole ▸ front⟩
              · intro more front begins
                cases more with
                | nil => exact Nat.zero_le part.length
                | cons w others =>
                    exact longest _ (whole ▸ front) ⟨List.cons_ne_nil w others, .inr begins⟩
            have long := List.length_pos_iff.mpr filled
            rw [← whole, List.length_append] at length
            rcases ih rest.length (by omega) rest rfl with ⟨text, behind⟩
            exact ⟨'\uFFFD' :: text, whole ▸ .illFormed ill behind⟩

/-! ## The numbers of characters -/

/-- A byte lies in a range. -/
def Within (range : UInt8 × UInt8) (b : UInt8) : Prop := range.1 ≤ b ∧ b ≤ range.2

/-- Bytes lie in ranges, one for each of them. -/
def Fits : List (UInt8 × UInt8) → Bytes → Prop
  | [], bytes => bytes = []
  | _ :: _, [] => False
  | range :: ranges, b :: rest => Within range b ∧ Fits ranges rest

/-- The number that the bits of some bytes make behind other bits. -/
def codeOf (code : Nat) (behind : Bytes) : Nat :=
  behind.foldl (fun code b => code * 64 + (b.toNat - 0x80)) code

theorem within_iff {range : UInt8 × UInt8} {b : UInt8} :
    Within range b ↔ range.1.toNat ≤ b.toNat ∧ b.toNat ≤ range.2.toNat := by
  simp only [Within, UInt8.le_iff_toNat_le]

theorem within_continuation {b : UInt8} :
    Within continuation b ↔ 0x80 ≤ b.toNat ∧ b.toNat ≤ 0xBF := within_iff

theorem toNat_byte {value : Nat} (small : value < 256) : (UInt8.ofNat value).toNat = value :=
  UInt8.toNat_ofNat_of_lt' small

theorem codeOf_cons (code : Nat) (b : UInt8) (rest : Bytes) :
    codeOf code (b :: rest) = codeOf (code * 64 + (b.toNat - 0x80)) rest := List.foldl_cons ..

/-- The continuation bytes of a number make the number. -/
theorem codeOf_continuations (n count : Nat) :
    codeOf (n / 64 ^ count) (continuations n count) = n := by
  induction count with
  | zero => simp [codeOf, continuations]
  | succ count ih =>
      have step : n / 64 ^ (count + 1) * 64 + n / 64 ^ count % 64 = n / 64 ^ count := by
        rw [Nat.pow_succ, ← Nat.div_div_eq_div_mul]
        omega
      rw [continuations, codeOf_cons, toNat_byte (by omega), Nat.add_sub_cancel, step, ih]

theorem fits_continuations (n count : Nat) :
    Fits (List.replicate count continuation) (continuations n count) := by
  induction count with
  | zero => rfl
  | succ count ih =>
      have first : Within continuation (UInt8.ofNat (n / 64 ^ count % 64 + 128)) := by
        rw [within_continuation, toNat_byte (by omega)]
        omega
      exact ⟨first, ih⟩

/-- Continuation bytes are those of the number that they make. -/
theorem eq_continuations (code : Nat) {count : Nat} {behind : Bytes}
    (fits : Fits (List.replicate count continuation) behind) :
    codeOf code behind / 64 ^ count = code ∧
      behind = continuations (codeOf code behind) count := by
  induction count generalizing code behind with
  | zero =>
      cases fits
      simp [codeOf, continuations]
  | succ count ih =>
      cases behind with
      | nil => exact fits.elim
      | cons b rest =>
          have range := within_continuation.mp fits.1
          have bits := @ih (code * 64 + (b.toNat - 0x80)) rest fits.2
          have same : UInt8.ofNat ((code * 64 + (b.toNat - 0x80)) % 64 + 128) = b := by
            rw [← UInt8.toNat_inj, toNat_byte (by omega)]
            omega
          rw [codeOf_cons, continuations, Nat.pow_succ, ← Nat.div_div_eq_div_mul, bits.1, ← bits.2,
            same]
          exact ⟨by omega, rfl⟩

/-! ## The table of lead bytes -/

/-- The range of the byte behind a lead byte. -/
def secondRange (b : UInt8) : UInt8 × UInt8 :=
  if b = 0xE0 then (0xA0, 0xBF)
  else if b = 0xED then (0x80, 0x9F)
  else if b = 0xF0 then (0x90, 0xBF)
  else if b = 0xF4 then (0x80, 0x8F)
  else continuation

/-- How many bytes follow behind a lead byte and the one after it. -/
def later? (b : UInt8) : Option Nat :=
  if 0xC2 ≤ b ∧ b ≤ 0xDF then some 0
  else if 0xE0 ≤ b ∧ b ≤ 0xEF then some 1
  else if 0xF0 ≤ b ∧ b ≤ 0xF4 then some 2
  else none

theorem later?_eq_some_iff {b : UInt8} {count : Nat} : later? b = some count ↔
    (0xC2 ≤ b.toNat ∧ b.toNat ≤ 0xDF ∧ count = 0) ∨
      (0xE0 ≤ b.toNat ∧ b.toNat ≤ 0xEF ∧ count = 1) ∨
        (0xF0 ≤ b.toNat ∧ b.toNat ≤ 0xF4 ∧ count = 2) := by
  simp only [later?, UInt8.le_iff_toNat_le, UInt8.reduceToNat]
  split
  · rw [Option.some.injEq]
    omega
  · split
    · rw [Option.some.injEq]
      omega
    · split
      · rw [Option.some.injEq]
        omega
      · simp only [reduceCtorEq, false_iff]
        omega

/-- The table, checked byte by byte. -/
theorem lead?_eq (b : UInt8) : lead? b = (later? b).map fun count =>
    ⟨b.toNat - markFor (count + 1), secondRange b :: List.replicate count continuation⟩ := by
  have table : ∀ n : Fin 256,
      (lead? (UInt8.ofNat n)).map (fun begun => (begun.code, begun.expected)) =
        (later? (UInt8.ofNat n)).map fun count => (n.val - markFor (count + 1),
          secondRange (UInt8.ofNat n) :: List.replicate count continuation) := by
    decide +kernel
  have here := table ⟨b.toNat, b.toNat_lt⟩
  rw [UInt8.ofNat_toNat] at here
  cases later : later? b with
  | none =>
      rw [later] at here
      simpa using here
  | some count =>
      rw [later] at here
      rcases Option.map_eq_some_iff.mp here with ⟨⟨code, expected⟩, found, same⟩
      cases same
      exact found

theorem secondRange_cases (b : UInt8) :
    (b.toNat = 0xE0 ∧ secondRange b = (0xA0, 0xBF)) ∨
      (b.toNat = 0xED ∧ secondRange b = (0x80, 0x9F)) ∨
        (b.toNat = 0xF0 ∧ secondRange b = (0x90, 0xBF)) ∨
          (b.toNat = 0xF4 ∧ secondRange b = (0x80, 0x8F)) ∨
            (b.toNat ≠ 0xE0 ∧ b.toNat ≠ 0xED ∧ b.toNat ≠ 0xF0 ∧ b.toNat ≠ 0xF4 ∧
              secondRange b = continuation) := by
  unfold secondRange
  split
  · next here => exact .inl ⟨congrArg UInt8.toNat here, rfl⟩
  · split
    · next here => exact .inr (.inl ⟨congrArg UInt8.toNat here, rfl⟩)
    · split
      · next here => exact .inr (.inr (.inl ⟨congrArg UInt8.toNat here, rfl⟩))
      · split
        · next here => exact .inr (.inr (.inr (.inl ⟨congrArg UInt8.toNat here, rfl⟩)))
        · simp_all [← UInt8.toNat_inj]

/-- A second byte lies in its range if it goes on with a character, which then has as many
bytes as the lead byte says. -/
theorem within_secondRange_iff {b w : UInt8} {n count : Nat} (later : later? b = some count)
    (same : n / 64 ^ count = (b.toNat - markFor (count + 1)) * 64 + (w.toNat - 0x80)) :
    Within (secondRange b) w ↔
      Within continuation w ∧ n.isValidChar ∧ behindFirst n = count + 1 := by
  have cases := behindFirst_cases n
  rw [within_continuation, Nat.isValidChar]
  rcases later?_eq_some_iff.mp later with ⟨low, high, rfl⟩ | ⟨low, high, rfl⟩ | ⟨low, high, rfl⟩
  all_goals
    simp only [markFor] at same
    rcases secondRange_cases b with ⟨here, range⟩ | ⟨here, range⟩ | ⟨here, range⟩ | ⟨here, range⟩ |
      ⟨_, _, _, _, range⟩
    all_goals
      rw [range, within_iff]
      simp only [continuation, UInt8.reduceToNat]
      omega

theorem utf8EncodeChar_leading {c : Char} {count : Nat} (behind : behindFirst c.toNat = count) :
    String.utf8EncodeChar c = leading c.toNat (markFor count) count := by
  rw [utf8EncodeChar_eq, encoded, behind]

/-- The first byte of a character of several bytes is a lead byte for this many. -/
theorem later?_leading {n count : Nat} (valid : n.isValidChar)
    (several : behindFirst n = count + 1) :
    (UInt8.ofNat (n / 64 ^ (count + 1) + markFor (count + 1))).toNat =
        n / 64 ^ (count + 1) + markFor (count + 1) ∧
      later? (UInt8.ofNat (n / 64 ^ (count + 1) + markFor (count + 1))) = some count := by
  rw [later?_eq_some_iff]
  rw [Nat.isValidChar] at valid
  rcases behindFirst_cases n with ⟨_, same⟩ | ⟨_, _, same⟩ | ⟨_, _, same⟩ | ⟨_, same⟩
  · omega
  all_goals
    obtain rfl : count = _ := Nat.succ.inj (several.symm.trans same)
    simp only [markFor, and_true]
    rw [toNat_byte (by omega)]
    omega

theorem exists_ascii {b : UInt8} (plain : b < 0x80) : ∃ c, String.utf8EncodeChar c = [b] := by
  have small : b.toNat < 128 := UInt8.lt_iff_toNat_lt.mp plain
  have number : (Char.ofNat b.toNat).toNat = b.toNat := toNat_ofNat (.inl (by omega))
  refine ⟨Char.ofNat b.toNat, ?_⟩
  rw [utf8EncodeChar_ascii (by rwa [number]), number, Nat.toUInt8, UInt8.ofNat_toNat]

/-- A character of several bytes begins with a lead byte, and its other bytes fit. -/
theorem exists_lead {c : Char} (beyond : 0x7F < c.toNat) :
    ∃ b behind begun, String.utf8EncodeChar c = b :: behind ∧ lead? b = some begun ∧
      Fits begun.expected behind ∧ codeOf begun.code behind = c.toNat := by
  have valid : c.toNat.isValidChar := c.valid
  have bytes := utf8EncodeChar_leading (c := c) rfl
  cases several : behindFirst c.toNat with
  | zero =>
      have cases := behindFirst_cases c.toNat
      omega
  | succ count =>
      rcases later?_leading valid several with ⟨first, later⟩
      have quotient : c.toNat / 64 ^ count =
          c.toNat / 64 ^ (count + 1) * 64 + c.toNat / 64 ^ count % 64 := by
        rw [Nat.pow_succ, ← Nat.div_div_eq_div_mul]
        omega
      have second := (within_secondRange_iff (w := UInt8.ofNat (c.toNat / 64 ^ count % 64 + 128))
        later (by rwa [first, toNat_byte (by omega), Nat.add_sub_cancel, Nat.add_sub_cancel])).mpr
          ⟨(fits_continuations c.toNat (count + 1)).1, valid, several⟩
      rw [several] at bytes
      have lead := lead?_eq (UInt8.ofNat (c.toNat / 64 ^ (count + 1) + markFor (count + 1)))
      simp only [later, Option.map_some, first, Nat.add_sub_cancel] at lead
      refine ⟨_, _, _, bytes, lead, ⟨second, fits_continuations c.toNat count⟩, ?_⟩
      exact codeOf_continuations c.toNat (count + 1)

/-- Bytes that fit behind a lead byte are those of a character behind it. -/
theorem exists_char {b : UInt8} {begun : Begun} {behind : Bytes} (lead : lead? b = some begun)
    (fits : Fits begun.expected behind) : ∃ c, String.utf8EncodeChar c = b :: behind := by
  rw [lead?_eq] at lead
  rcases Option.map_eq_some_iff.mp lead with ⟨count, later, rfl⟩
  cases behind with
  | nil => exact fits.elim
  | cons w rest =>
      have second : Within (secondRange b) w := fits.1
      have quotient :=
        (eq_continuations ((b.toNat - markFor (count + 1)) * 64 + (w.toNat - 0x80)) fits.2).1
      rw [← codeOf_cons] at quotient
      rcases (within_secondRange_iff later quotient).mp second with ⟨inside, valid, several⟩
      have continued : Fits (List.replicate (count + 1) continuation) (w :: rest) :=
        ⟨inside, fits.2⟩
      rcases eq_continuations (b.toNat - markFor (count + 1)) continued with ⟨first, same⟩
      have number := toNat_ofNat valid
      have enough : markFor (count + 1) ≤ b.toNat := by
        rcases later?_eq_some_iff.mp later with ⟨low, _, rfl⟩ | ⟨low, _, rfl⟩ | ⟨low, _, rfl⟩
        all_goals exact Nat.le_trans (by decide) low
      refine ⟨Char.ofNat (codeOf (b.toNat - markFor (count + 1)) (w :: rest)), ?_⟩
      rw [utf8EncodeChar_leading (number.symm ▸ several), number, leading, ← same, first,
        Nat.sub_add_cancel enough, UInt8.ofNat_toNat]

/-- A character behind a lead byte has the bytes that fit, and the number that they make. -/
theorem fits_of_lead? {c : Char} {b : UInt8} {begun : Begun} {behind : Bytes}
    (bytes : String.utf8EncodeChar c = b :: behind) (lead : lead? b = some begun) :
    Fits begun.expected behind ∧ codeOf begun.code behind = c.toNat := by
  by_cases ascii : c.toNat < 128
  · rw [utf8EncodeChar_ascii ascii, List.cons.injEq] at bytes
    rw [lead?_eq, ← bytes.1] at lead
    rcases Option.map_eq_some_iff.mp lead with ⟨count, later, -⟩
    have low := later?_eq_some_iff.mp later
    rw [Nat.toUInt8, toNat_byte (by omega)] at low
    omega
  · rcases exists_lead (Nat.le_of_not_lt ascii) with ⟨first, others, known, same, found, fits⟩
    rw [same, List.cons.injEq] at bytes
    rw [bytes.1, lead] at found
    cases found
    rw [← bytes.2]
    exact fits

/-! ## Sequences that have begun -/

/-- A sequence has begun with some bytes: a character follows from the bytes that fit the
ranges, and from no others. -/
structure HasBegun (part : Bytes) (begun : Begun) : Prop where
  unfinished : begun.expected ≠ []
  begins : BeginsChar part
  fits_iff : ∀ behind, Fits begun.expected behind ↔
    ∃ c, String.utf8EncodeChar c = part ++ behind

theorem exists_fits (b : UInt8) (count : Nat) :
    ∃ behind, Fits (secondRange b :: List.replicate count continuation) behind := by
  have second : ∃ w, Within (secondRange b) w := by
    rcases secondRange_cases b with ⟨_, range⟩ | ⟨_, range⟩ | ⟨_, range⟩ | ⟨_, range⟩ |
      ⟨_, _, _, _, range⟩
    all_goals
      rw [range]
      exact ⟨_, UInt8.le_refl _, by decide⟩
  rcases second with ⟨w, inside⟩
  exact ⟨w :: continuations 0 count, inside, fits_continuations 0 count⟩

theorem hasBegun_of_lead? {b : UInt8} {begun : Begun} (lead : lead? b = some begun) :
    HasBegun [b] begun := by
  have fits_iff : ∀ behind, Fits begun.expected behind ↔
      ∃ c, String.utf8EncodeChar c = [b] ++ behind := by
    intro behind
    constructor
    · exact exists_char lead
    · intro read
      cases read with
      | intro c bytes => exact (fits_of_lead? bytes lead).1
  have table := lead
  rw [lead?_eq] at table
  rcases Option.map_eq_some_iff.mp table with ⟨count, -, rfl⟩
  rcases exists_fits b count with ⟨behind, fits⟩
  rcases (fits_iff behind).mp fits with ⟨c, bytes⟩
  exact ⟨List.cons_ne_nil _ _, ⟨c, behind, bytes.symm⟩, fits_iff⟩

variable {part rest : Bytes}

/-- A byte in its range continues the sequence, unless it is the last one. -/
theorem HasBegun.next {code : Nat} (further : Nat) {range : UInt8 × UInt8}
    {ranges : List (UInt8 × UInt8)} (begun : HasBegun part ⟨code, range :: ranges⟩)
    (more : ranges ≠ []) {b : UInt8} (inside : Within range b) :
    HasBegun (part ++ [b]) ⟨further, ranges⟩ := by
  have fits_iff : ∀ behind, Fits ranges behind ↔
      ∃ c, String.utf8EncodeChar c = part ++ [b] ++ behind := by
    intro behind
    rw [List.append_assoc, List.singleton_append, ← begun.fits_iff]
    exact (and_iff_right inside).symm
  rcases begun.begins with ⟨c, behind, bytes⟩
  have fits := (begun.fits_iff behind).mpr ⟨c, bytes.symm⟩
  cases behind with
  | nil => exact fits.elim
  | cons w others =>
      rcases (fits_iff others).mp fits.2 with ⟨other, same⟩
      exact ⟨more, ⟨other, others, same.symm⟩, fits_iff⟩

/-! ## Reading -/

theorem lenientAfter_none (b : UInt8) (rest : Bytes) :
    lenientAfter none (b :: rest) = (start b).2 ++ lenientAfter (start b).1 rest := rfl

section Some

variable {code : Nat} {range : UInt8 × UInt8} {ranges : List (UInt8 × UInt8)} {b : UInt8}

theorem lenientAfter_within (inside : Within range b) (more : ranges ≠ []) (rest : Bytes) :
    lenientAfter (some ⟨code, range :: ranges⟩) (b :: rest) =
      lenientAfter (some ⟨code * 64 + (b.toNat - 0x80), ranges⟩) rest := by
  have unfinished : ¬ ranges.isEmpty = true := fun done => more (List.isEmpty_iff.mp done)
  rw [lenientAfter]
  exact (if_pos inside).trans (if_neg unfinished)

theorem lenientAfter_last (inside : Within range b) (rest : Bytes) :
    lenientAfter (some ⟨code, [range]⟩) (b :: rest) =
      Char.ofNat (code * 64 + (b.toNat - 0x80)) :: lenientAfter none rest := by
  rw [lenientAfter]
  exact if_pos inside

theorem lenientAfter_outside (outside : ¬ Within range b) (rest : Bytes) :
    lenientAfter (some ⟨code, range :: ranges⟩) (b :: rest) =
      '\uFFFD' :: lenientAfter none (b :: rest) := by
  rw [lenientAfter_none, lenientAfter]
  exact if_neg outside

end Some

/-- Bytes that fit are read as the character with their number. -/
theorem lenientAfter_fits {code : Nat} {ranges : List (UInt8 × UInt8)} {behind : Bytes}
    (unfinished : ranges ≠ []) (fits : Fits ranges behind) (rest : Bytes) :
    lenientAfter (some ⟨code, ranges⟩) (behind ++ rest) =
      Char.ofNat (codeOf code behind) :: lenientAfter none rest := by
  induction ranges generalizing code behind with
  | nil => contradiction
  | cons range ranges ih =>
      cases behind with
      | nil => exact fits.elim
      | cons b behind =>
          rw [List.cons_append, codeOf_cons]
          cases ranges with
          | nil =>
              obtain rfl : behind = [] := fits.2
              exact lenientAfter_last fits.1 rest
          | cons next others =>
              rw [lenientAfter_within fits.1 (List.cons_ne_nil next others)]
              exact ih (List.cons_ne_nil next others) fits.2

/-- A character is read where it stands. -/
theorem lenientAfter_char (c : Char) (rest : Bytes) :
    lenientAfter none (String.utf8EncodeChar c ++ rest) = c :: lenientAfter none rest := by
  by_cases ascii : c.toNat < 128
  · have first : (UInt8.ofNat c.toNat).toNat = c.toNat := toNat_byte (by omega)
    have plain : UInt8.ofNat c.toNat < 0x80 := by
      rw [UInt8.lt_iff_toNat_lt, first]
      exact ascii
    rw [utf8EncodeChar_ascii ascii, List.singleton_append, lenientAfter_none, Nat.toUInt8, start,
      if_pos plain, first, Char.ofNat_toNat]
    rfl
  · rcases exists_lead (Nat.le_of_not_lt ascii) with ⟨b, behind, begun, bytes, lead, fits, number⟩
    have beyond : ¬ b < 0x80 := by
      have member : b ∈ String.utf8EncodeChar c := bytes ▸ List.mem_cons_self
      have far := beyond_ascii (Nat.le_of_not_lt ascii) member
      rw [UInt8.le_iff_toNat_le] at far
      rw [UInt8.lt_iff_toNat_lt]
      exact Nat.not_lt.mpr far
    have starts : start b = (some begun, []) := by
      rw [start, if_neg beyond, lead]
    rw [bytes, List.cons_append, lenientAfter_none, starts, List.nil_append,
      lenientAfter_fits (hasBegun_of_lead? lead).unfinished fits, number, Char.ofNat_toNat]

/-- Of a part of several bytes a character might still have come. -/
theorem IsIllFormed.begins (ill : IsIllFormed part rest) (several : part.length ≠ 1) :
    BeginsChar part :=
  ill.begun.resolve_left several

/-- A sequence that is broken off is replaced as far as it goes. -/
theorem lenientAfter_broken {code : Nat} {ranges : List (UInt8 × UInt8)} {behind : Bytes}
    (begun : HasBegun part ⟨code, ranges⟩) (filled : part ≠ [])
    (ill : IsIllFormed (part ++ behind) rest) :
    lenientAfter (some ⟨code, ranges⟩) (behind ++ rest) = '\uFFFD' :: lenientAfter none rest := by
  induction ranges generalizing part code behind with
  | nil => exact absurd rfl begun.unfinished
  | cons range ranges ih =>
      cases behind with
      | nil =>
          rw [List.append_nil] at ill
          cases rest with
          | nil => rfl
          | cons b rest =>
              rw [List.nil_append, lenientAfter_outside]
              intro inside
              have longer : BeginsChar (part ++ [b]) := by
                cases ranges with
                | nil =>
                    rcases (begun.fits_iff [b]).mp ⟨inside, rfl⟩ with ⟨c, bytes⟩
                    exact ⟨c, [], by rw [List.append_nil, bytes]⟩
                | cons next others =>
                    exact (begun.next 0 (List.cons_ne_nil next others) inside).begins
              have bound := ill.longest (part ++ [b]) ⟨rest, List.append_assoc ..⟩ longer
              rw [List.length_append, List.length_singleton] at bound
              omega
      | cons b behind =>
          have several : (part ++ b :: behind).length ≠ 1 := by
            have long := List.length_pos_iff.mpr filled
            rw [List.length_append, List.length_cons]
            omega
          rcases ill.begins several with ⟨c, others, bytes⟩
          have fits := (begun.fits_iff (b :: behind ++ others)).mpr
            ⟨c, by rw [← bytes, List.append_assoc]⟩
          cases ranges with
          | nil =>
              have ended : behind ++ others = [] := fits.2
              rw [List.append_eq_nil_iff] at ended
              refine absurd ⟨rest, ?_⟩ (ill.unread c)
              rw [← bytes, ended.2, List.append_nil]
          | cons next others =>
              have more := List.cons_ne_nil next others
              rw [List.cons_append, lenientAfter_within fits.1 more]
              apply ih (begun.next _ more fits.1)
              · exact List.append_ne_nil_of_right_ne_nil part (List.cons_ne_nil b [])
              · rwa [List.append_assoc]

theorem start_beyond {b : UInt8} (beyond : ¬ b < 0x80) :
    start b = match lead? b with
      | some begun => (some begun, [])
      | none => (none, ['\uFFFD']) := by
  rw [start, if_neg beyond]
  rfl

/-- The replacement character is read where an ill-formed part stands. -/
theorem lenientAfter_illFormed (ill : IsIllFormed part rest) :
    lenientAfter none (part ++ rest) = '\uFFFD' :: lenientAfter none rest := by
  cases part with
  | nil => exact absurd rfl ill.nonempty
  | cons b behind =>
      have beyond : ¬ b < 0x80 := by
        intro plain
        rcases exists_ascii plain with ⟨c, bytes⟩
        exact ill.unread c ⟨behind ++ rest, by rw [bytes]; rfl⟩
      rw [List.cons_append, lenientAfter_none, start_beyond beyond]
      cases lead : lead? b with
      | some begun =>
          exact lenientAfter_broken (hasBegun_of_lead? lead) (List.cons_ne_nil b []) ill
      | none =>
          cases behind with
          | nil => rfl
          | cons w others =>
              rcases ill.begins (by simp) with ⟨c, more, bytes⟩
              by_cases ascii : c.toNat < 128
              · rw [utf8EncodeChar_ascii ascii] at bytes
                simp at bytes
              · rcases exists_lead (Nat.le_of_not_lt ascii) with ⟨first, _, begun, same, found, _⟩
                rw [same, List.cons_append, List.cons.injEq] at bytes
                rw [← bytes.1, lead] at found
                contradiction

/-- What bytes stand for is what is read of them. -/
theorem readsAs_iff {bytes : Bytes} {text : List Char} :
    ReadsAs bytes text ↔ lenientAfter none bytes = text := by
  have read : ∀ {bytes text}, ReadsAs bytes text → lenientAfter none bytes = text := by
    intro bytes text reads
    induction reads with
    | nil => rfl
    | char c _ ih => rw [lenientAfter_char, ih]
    | illFormed ill _ ih => rw [lenientAfter_illFormed ill, ih]
  constructor
  · exact read
  · rintro rfl
    rcases exists_readsAs bytes with ⟨text, reads⟩
    rw [read reads]
    exact reads

end Gatehouse.Utf8
