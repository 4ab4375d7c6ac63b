import Gatehouse.Proofs.Json.Integers

/-!
# The texts of numbers

A number is read up to the first byte that cannot belong to it. What is read depends on these
bytes alone, as long as a blank, a mark or nothing follows them. A number is an integer only
if nothing but its decimal digits were written, with a sign if it is negative.
-/

namespace Gatehouse.Json

variable {exact negative : Bool} {bytes rest after : Bytes}

/-- Whether a byte stands between the parts of arrays and objects. -/
def isMark (b : UInt8) : Bool :=
  b == 0x5B || b == 0x5D || b == 0x7B || b == 0x7D || b == 0x3A || b == 0x2C

/-- Whether a byte may belong to a number or a word. -/
def isSolid (b : UInt8) : Bool := !(isSpace b || isMark b || b == 0x22)

/-- Nothing follows that could belong to a number or a word. -/
def Stops (rest : Bytes) : Prop := ∀ b ∈ rest.head?, isSolid b = false

theorem stops_nil : Stops [] := by
  intro b first
  injection first

/-- A reading takes solid bytes and no others, and depends on nothing else. -/
structure Takes {α : Type} (read : Bytes → Reading α) (taken : Bytes) (value : α) : Prop where
  solid : ∀ b ∈ taken, isSolid b = true
  reads : ∀ rest, Stops rest → read (taken ++ rest) = .ok (value, rest)

/-- Whatever a reading gives, it has taken solid bytes for it. -/
def IsLocal {α : Type} (read : Bytes → Reading α) : Prop :=
  ∀ {bytes value rest}, read bytes = .ok (value, rest) → Stops rest →
    ∃ taken, bytes = taken ++ rest ∧ Takes read taken value

/-! ## Digits -/

/-- What holds of the bytes one by one holds of each of them. -/
theorem holds_of_codes {holds : UInt8 → Prop} (each : ∀ code < 256, holds code.toUInt8)
    (b : UInt8) : holds b := by
  have known := each b.toNat b.toNat_lt
  rwa [show b.toNat.toUInt8 = b from UInt8.ofNat_toNat] at known

theorem isSolid_of_digit {b : UInt8} (digit : isDigit b = true) : isSolid b = true :=
  @holds_of_codes (fun b => isDigit b = true → isSolid b = true) (by decide +kernel) b digit

theorem isSolid_of_digits {digits : Bytes} (all : ∀ b ∈ digits, isDigit b = true) :
    ∀ b ∈ digits, isSolid b = true :=
  fun b among => isSolid_of_digit (all b among)

theorem Stops.endsDigits (stops : Stops rest) : EndsDigits rest := by
  intro b first
  cases digit : isDigit b with
  | false => rfl
  | true =>
      have solid := isSolid_of_digit digit
      rw [stops b first] at solid
      exact absurd solid Bool.false_ne_true

theorem Stops.ne {b : UInt8} (stops : Stops (b :: rest)) (other : UInt8)
    (solid : isSolid other = true) : b ≠ other := by
  rintro rfl
  rw [stops b rfl] at solid
  exact Bool.false_ne_true solid

/-- No exponent follows. -/
theorem Stops.noLetter {b : UInt8} (stops : Stops (b :: rest)) : ¬ (b = 0x65 ∨ b = 0x45) := by
  rintro (letter | letter)
  · exact stops.ne _ (by decide) letter
  · exact stops.ne _ (by decide) letter

/-- If digits end somewhere, they end there before anything that ends digits. -/
theorem EndsDigits.append {taken : Bytes} (ends : EndsDigits (taken ++ rest))
    (others : EndsDigits after) : EndsDigits (taken ++ after) := by
  cases taken with
  | nil => exact others
  | cons b more => exact ends

theorem endsDigits_dropWhile (bytes : Bytes) : EndsDigits (bytes.dropWhile isDigit) := by
  intro b first
  have known := List.head?_dropWhile_not isDigit bytes
  rw [Option.mem_def.mp first] at known
  exact known

/-! ## Exponents -/

/-- A loose reading finds a value, if only that of a number that is too large. -/
theorem exists_readScaled (negative : Bool) (significand : Nat) (exponent : Int) :
    ∃ value, ∀ after,
      readScaled false negative significand exponent after = .ok (value, after) := by
  refine ⟨(Binary64.ofDecimal? negative significand exponent).map .binary, fun after => ?_⟩
  rw [readScaled]
  cases Binary64.ofDecimal? negative significand exponent <;> rfl

/-- The digits of an exponent are taken up to their end, or up to the one that is too much. -/
theorem readExponentDigits_digits {digits : Bytes} (all : ∀ b ∈ digits, isDigit b = true)
    (exponent : Nat) :
    (∃ n, ∀ after, EndsDigits after →
      readExponentDigits exponent (digits ++ after) = .ok (n, after)) ∨
    ∃ left, (∀ b ∈ left, isDigit b = true) ∧
      ∀ after, readExponentDigits exponent (digits ++ after) = .error (left ++ after) := by
  induction digits generalizing exponent with
  | nil =>
      refine .inl ⟨exponent, fun after ends => ?_⟩
      cases after with
      | nil => rfl
      | cons b more =>
          have noDigit : ¬ isDigit b = true := Bool.not_eq_true _ ▸ ends b rfl
          rw [List.nil_append, readExponentDigits, if_neg noDigit]
  | cons d digits ih =>
      obtain ⟨digit, others⟩ := List.forall_mem_cons.mp all
      by_cases fits : exponent * 10 + (d.toNat - 0x30) ≤ exponentLimit
      · simp only [List.cons_append, readExponentDigits, if_pos digit, if_pos fits]
        exact ih others _
      · refine .inr ⟨digits, others, fun after => ?_⟩
        simp only [List.cons_append, readExponentDigits, if_pos digit, if_neg fits]

/-- Read an exponent behind its sign. -/
def readUnsigned (exact negative : Bool) (significand : Nat) (start : Int) (down : Bool)
    (bytes : Bytes) : Reading (Option Number) :=
  match bytes with
  | [] => .error ⟨.endInValue, []⟩
  | d :: rest =>
      if isDigit d then
        match readExponentDigits (d.toNat - 0x30) rest with
        | .ok (exponent, rest) =>
            readScaled exact negative significand
              (if down then start - exponent else start + exponent) rest
        | .error rest =>
            if significand ≠ 0 ∧ !down then
              if exact then .error ⟨.numberTooLarge, rest⟩ else .ok (none, rest.dropWhile isDigit)
            else readScaled exact negative 0 0 (rest.dropWhile isDigit)
      else .error ⟨.badNumber, rest⟩

variable {significand : Nat} {start : Int}

theorem readExponent_plus :
    readExponent exact negative significand start (0x2B :: rest) =
      readUnsigned exact negative significand start false rest := rfl

theorem readExponent_minus :
    readExponent exact negative significand start (0x2D :: rest) =
      readUnsigned exact negative significand start true rest := rfl

theorem readExponent_unsigned {b : UInt8} (noPlus : b ≠ 0x2B) (noMinus : b ≠ 0x2D) :
    readExponent exact negative significand start (b :: rest) =
      readUnsigned exact negative significand start false (b :: rest) := by
  simp only [readExponent, if_neg noPlus, if_neg noMinus]
  rfl

/-- Behind the first digit of an exponent, every other one is taken. -/
theorem readUnsigned_digits {d : UInt8} {digits : Bytes} (digit : isDigit d = true)
    (all : ∀ b ∈ digits, isDigit b = true) (down : Bool) :
    ∃ value, ∀ after, EndsDigits after →
      readUnsigned false negative significand start down (d :: (digits ++ after)) =
        .ok (value, after) := by
  rcases readExponentDigits_digits all (d.toNat - 0x30) with ⟨n, reads⟩ | ⟨left, digits, reads⟩
  · obtain ⟨value, scaled⟩ := exists_readScaled negative significand
      (if down then start - n else start + n)
    refine ⟨value, fun after ends => ?_⟩
    simp only [readUnsigned, if_pos digit, reads after ends, scaled]
  · by_cases large : significand ≠ 0 ∧ (!down) = true
    · refine ⟨none, fun after ends => ?_⟩
      simp only [readUnsigned, if_pos digit, reads after, if_pos large,
        dropWhile_digits digits ends]
      rfl
    · obtain ⟨value, scaled⟩ := exists_readScaled negative 0 0
      refine ⟨value, fun after ends => ?_⟩
      simp only [readUnsigned, if_pos digit, reads after, if_neg large,
        dropWhile_digits digits ends, scaled]

/-! ## Readings that depend on what they take -/

theorem Takes.cons {α : Type} {read inner : Bytes → Reading α} {b : UInt8} {taken : Bytes}
    {value : α} (takes : Takes inner taken value) (solid : isSolid b = true)
    (same : ∀ rest, read (b :: rest) = inner rest) : Takes read (b :: taken) value where
  solid := List.forall_mem_cons.mpr ⟨solid, takes.solid⟩
  reads rest stops := (same _).trans (takes.reads rest stops)

/-- A reading that has its value at once takes nothing. -/
theorem exists_takes_nil {α : Type} {read ending : Bytes → Reading α} {value : α}
    (leaves : ∃ value, ∀ after, ending after = .ok (value, after))
    (ends : ∀ after, Stops after → read after = ending after)
    (found : ending bytes = .ok (value, rest)) :
    ∃ taken, bytes = taken ++ rest ∧ Takes read taken value := by
  obtain ⟨known, leaves⟩ := leaves
  rw [leaves] at found
  injection found with same
  obtain ⟨rfl, rfl⟩ := Prod.ext_iff.mp same
  exact ⟨[], rfl, nofun, fun after stops => (ends after stops).trans (leaves after)⟩

theorem exists_digits (bytes : Bytes) :
    ∃ digits rest, bytes = digits ++ rest ∧ (∀ b ∈ digits, isDigit b = true) ∧
      EndsDigits rest :=
  ⟨bytes.takeWhile isDigit, bytes.dropWhile isDigit, List.takeWhile_append_dropWhile.symm,
    List.all_eq_true.mp List.all_takeWhile, endsDigits_dropWhile bytes⟩

theorem isLocal_readUnsigned (down : Bool) :
    IsLocal (readUnsigned false negative significand start down) := by
  intro bytes value rest read stops
  cases bytes with
  | nil => injection read
  | cons d bytes =>
      by_cases digit : isDigit d = true
      · obtain ⟨digits, behind, rfl, all, ends⟩ := exists_digits bytes
        obtain ⟨known, reads⟩ := readUnsigned_digits digit all down
        rw [reads behind ends] at read
        injection read with same
        obtain ⟨rfl, rfl⟩ := Prod.ext_iff.mp same
        refine ⟨d :: digits, rfl, ?_, fun after stops => reads after stops.endsDigits⟩
        exact isSolid_of_digits (List.forall_mem_cons.mpr ⟨digit, all⟩)
      · rw [readUnsigned, if_neg digit] at read
        injection read

theorem isLocal_readExponent : IsLocal (readExponent false negative significand start) := by
  intro bytes value rest read stops
  cases bytes with
  | nil => injection read
  | cons b bytes =>
      by_cases plus : b = 0x2B
      · subst plus
        obtain ⟨taken, rfl, takes⟩ := isLocal_readUnsigned false read stops
        exact ⟨_, rfl, takes.cons (by decide) fun _ => readExponent_plus⟩
      by_cases minus : b = 0x2D
      · subst minus
        obtain ⟨taken, rfl, takes⟩ := isLocal_readUnsigned true read stops
        exact ⟨_, rfl, takes.cons (by decide) fun _ => readExponent_minus⟩
      rw [readExponent_unsigned plus minus] at read
      obtain ⟨taken, shape, takes⟩ := isLocal_readUnsigned false read stops
      refine ⟨taken, shape, takes.solid, fun after others => ?_⟩
      cases taken with
      | nil => injection takes.reads [] stops_nil
      | cons d more =>
          obtain rfl := (List.cons.inj shape).1
          exact (readExponent_unsigned plus minus).trans (takes.reads after others)

theorem readScale_of_stops (stops : Stops bytes) :
    readScale exact negative significand start bytes =
      readScaled exact negative significand start bytes := by
  cases bytes with
  | nil => rfl
  | cons b more => rw [readScale, if_neg stops.noLetter]

theorem isLocal_readScale : IsLocal (readScale false negative significand start) := by
  intro bytes value rest read stops
  have leaves := exists_readScaled negative significand start
  cases bytes with
  | nil => exact exists_takes_nil leaves (fun _ => readScale_of_stops) read
  | cons b bytes =>
      by_cases letter : b = 0x65 ∨ b = 0x45
      · rw [readScale, if_pos letter] at read
        obtain ⟨taken, rfl, takes⟩ := isLocal_readExponent read stops
        refine ⟨_, rfl, takes.cons ?_ fun _ => ?_⟩
        · rcases letter with rfl | rfl <;> decide
        · rw [readScale, if_pos letter]
      · rw [readScale, if_neg letter] at read
        exact exists_takes_nil leaves (fun _ => readScale_of_stops) read

/-! ## Numbers -/

/-- The value of digits that nothing belongs to behind them. -/
def readPlain (exact negative : Bool) (significand dropped : Nat) (rest : Bytes) :
    Reading (Option Number) :=
  match dropped, integer? negative significand with
  | 0, some value => .ok (some value, rest)
  | _, _ => readScaled exact negative significand dropped rest

/-- Read the digits behind the point and what may follow them. -/
def readPlaces (exact negative : Bool) (significand dropped : Nat) (bytes : Bytes) :
    Reading (Option Number) :=
  match bytes.takeWhile isDigit with
  | [] =>
      match bytes with
      | [] => .error ⟨.endInValue, []⟩
      | _ :: after => .error ⟨.badNumber, after⟩
  | first :: more =>
      let (longer, cut) := pushDigits significand (first :: more)
      readScale exact negative longer (dropped - ((first :: more).length - cut : Nat))
        (bytes.dropWhile isDigit)

/-- Read what may follow the digits in front of the point. -/
def readBehindDigits (exact negative : Bool) (digits : Bytes) (bytes : Bytes) :
    Reading (Option Number) :=
  let (significand, dropped) := pushDigits 0 digits
  match bytes with
  | b :: rest =>
      if b = 0x2E then readPlaces exact negative significand dropped rest
      else if b = 0x65 ∨ b = 0x45 then readExponent exact negative significand dropped rest
      else readPlain exact negative significand dropped (b :: rest)
  | [] => readPlain exact negative significand dropped []

/-- Digits that a number may begin with: no zero is in front of another digit. -/
structure BeginsNumber (digits : Bytes) : Prop where
  some : digits ≠ []
  all : ∀ b ∈ digits, isDigit b = true
  plain : digits.head? = .some 0x30 → digits = [0x30]

theorem readNumber_append {digits : Bytes} (begins : BeginsNumber digits)
    (ends : EndsDigits rest) :
    readNumber exact negative (digits ++ rest) =
      readBehindDigits exact negative digits rest := by
  obtain ⟨first, more, rfl⟩ := List.exists_cons_of_ne_nil begins.some
  have digit := begins.all first List.mem_cons_self
  have noZero : ¬ (first = 0x30 ∧ (more ++ rest).head?.any isDigit = true) := by
    rintro ⟨rfl, follows⟩
    obtain rfl := (List.cons.inj (begins.plain rfl)).2
    cases rest with
    | nil => exact Bool.false_ne_true follows
    | cons b after => exact Bool.false_ne_true ((ends b rfl).symm.trans follows)
  have taken := takeWhile_digits begins.all ends
  have left := dropWhile_digits begins.all ends
  rw [List.cons_append] at taken left ⊢
  simp only [readNumber, digit, Bool.not_true, Bool.false_eq_true, if_false, if_neg noZero,
    taken, left]
  cases rest with
  | nil => rfl
  | cons b after =>
      simp only [readBehindDigits, readPlaces]
      cases after.takeWhile isDigit <;> rfl

/-- A number that is read begins with such digits. -/
theorem exists_beginsNumber {value : Option Number}
    (read : readNumber exact negative bytes = .ok (value, rest)) :
    ∃ digits behind, bytes = digits ++ behind ∧ BeginsNumber digits ∧ EndsDigits behind := by
  obtain ⟨digits, behind, rfl, all, ends⟩ := exists_digits bytes
  refine ⟨digits, behind, rfl, ⟨?_, all, ?_⟩, ends⟩
  · rintro rfl
    cases behind with
    | nil => injection read
    | cons b more =>
        simp only [List.nil_append, readNumber, ends b rfl, Bool.not_false, if_true] at read
        injection read
  · intro zero
    cases digits with
    | nil => injection zero
    | cons first more =>
        obtain rfl := Option.some.inj zero
        cases more with
        | nil => rfl
        | cons second more =>
            have digit := all second (List.mem_cons_of_mem _ List.mem_cons_self)
            simp only [List.cons_append, readNumber, List.head?_cons, Option.any_some, digit,
              and_self, if_true] at read
            split at read <;> injection read

theorem exists_readPlain (negative : Bool) (significand dropped : Nat) :
    ∃ value, ∀ after, readPlain false negative significand dropped after = .ok (value, after) := by
  obtain ⟨value, scaled⟩ := exists_readScaled negative significand dropped
  unfold readPlain
  split
  · next found _ => exact ⟨some found, fun _ => rfl⟩
  · exact ⟨value, scaled⟩

theorem isLocal_readPlaces {dropped : Nat} :
    IsLocal (readPlaces false negative significand dropped) := by
  intro bytes value rest read stops
  obtain ⟨places, behind, rfl, all, ends⟩ := exists_digits bytes
  simp only [readPlaces, takeWhile_digits all ends, dropWhile_digits all ends] at read
  cases places with
  | nil =>
      cases behind with
      | nil => injection read
      | cons b more => injection read
  | cons first more =>
      obtain ⟨taken, rfl, takes⟩ := isLocal_readScale read stops
      refine ⟨first :: more ++ taken, (List.append_assoc _ _ _).symm, ?_, fun after others => ?_⟩
      · exact List.forall_mem_append.mpr ⟨isSolid_of_digits all, takes.solid⟩
      · have ends := ends.append others.endsDigits
        rw [List.append_assoc]
        simp only [readPlaces, takeWhile_digits all ends, dropWhile_digits all ends]
        exact takes.reads after others

theorem readBehindDigits_of_stops {digits : Bytes} (stops : Stops bytes) :
    readBehindDigits exact negative digits bytes =
      readPlain exact negative (pushDigits 0 digits).1 (pushDigits 0 digits).2 bytes := by
  cases bytes with
  | nil => rfl
  | cons b more =>
      simp only [readBehindDigits, if_neg (stops.ne 0x2E (by decide)), if_neg stops.noLetter]

theorem isLocal_readBehindDigits (digits : Bytes) :
    IsLocal (readBehindDigits false negative digits) := by
  intro bytes value rest read stops
  have leaves := exists_readPlain negative (pushDigits 0 digits).1 (pushDigits 0 digits).2
  cases bytes with
  | nil => exact exists_takes_nil leaves (fun _ => readBehindDigits_of_stops) read
  | cons b bytes =>
      simp only [readBehindDigits] at read
      by_cases point : b = 0x2E
      · subst point
        obtain ⟨taken, rfl, takes⟩ := isLocal_readPlaces read stops
        exact ⟨_, rfl, takes.cons (by decide) fun _ => rfl⟩
      rw [if_neg point] at read
      by_cases letter : b = 0x65 ∨ b = 0x45
      · rw [if_pos letter] at read
        obtain ⟨taken, rfl, takes⟩ := isLocal_readExponent read stops
        refine ⟨_, rfl, takes.cons ?_ fun _ => ?_⟩
        · rcases letter with rfl | rfl <;> decide
        · simp only [readBehindDigits, if_neg point, if_pos letter]
      · rw [if_neg letter] at read
        exact exists_takes_nil leaves (fun _ => readBehindDigits_of_stops) read

/-- A number is read of its own bytes, whatever follows that cannot belong to it. -/
theorem isLocal_readNumber : IsLocal (readNumber false negative) := by
  intro bytes value rest read stops
  obtain ⟨digits, behind, rfl, begins, ends⟩ := exists_beginsNumber read
  rw [readNumber_append begins ends] at read
  obtain ⟨taken, rfl, takes⟩ := isLocal_readBehindDigits digits read stops
  refine ⟨digits ++ taken, (List.append_assoc _ _ _).symm, ?_, fun after others => ?_⟩
  · exact List.forall_mem_append.mpr ⟨isSolid_of_digits begins.all, takes.solid⟩
  · rw [List.append_assoc, readNumber_append begins (ends.append others.endsDigits)]
    exact takes.reads after others

/-! ## Integers -/

/-- What is read is no integer. -/
def Floats (reading : Reading (Option Number)) : Prop :=
  ∀ value rest, reading ≠ .ok (some (.integer value), rest)

theorem floats_readScaled (exponent : Int) :
    Floats (readScaled false negative significand exponent rest) := by
  intro value after read
  rw [readScaled] at read
  split at read
  · injection read with same
    injection same with same
    injection same with same
    injection same
  · injection read with same
    injection same with same
    injection same

theorem floats_readUnsigned {down : Bool} :
    Floats (readUnsigned false negative significand start down bytes) := by
  intro value after read
  unfold readUnsigned at read
  split at read
  · injection read
  · split at read
    · split at read
      · exact floats_readScaled _ _ _ read
      · split at read
        · injection read with same
          injection same with same
          injection same
        · exact floats_readScaled _ _ _ read
    · injection read

theorem floats_readExponent : Floats (readExponent false negative significand start bytes) := by
  cases bytes with
  | nil => exact nofun
  | cons b rest =>
      by_cases plus : b = 0x2B
      · rw [plus, readExponent_plus]
        exact floats_readUnsigned
      by_cases minus : b = 0x2D
      · rw [minus, readExponent_minus]
        exact floats_readUnsigned
      rw [readExponent_unsigned plus minus]
      exact floats_readUnsigned

theorem floats_readScale : Floats (readScale false negative significand start bytes) := by
  unfold readScale
  split
  · split
    · exact floats_readExponent
    · exact floats_readScaled _
  · exact floats_readScaled _

theorem floats_readPlaces {dropped : Nat} :
    Floats (readPlaces false negative significand dropped bytes) := by
  intro value after read
  unfold readPlaces at read
  split at read
  · split at read <;> injection read
  · exact floats_readScale _ _ read

theorem toDigits_digit {c : Char} (digit : c.isDigit) :
    Nat.toDigits 10 (c.toNat - '0'.toNat) = [c] := by
  have range := toNat_digit digit
  have each : ∀ code < 58, 48 ≤ code → Nat.toDigits 10 (code - '0'.toNat) = [Char.ofNat code] := by
    decide
  rw [each c.toNat (by omega) range.1, Char.ofNat_toNat]

/-- Digits behind a positive number prolong its own. -/
theorem toDigits_append {digits : List Char} {start : Nat} (decimal : ∀ c ∈ digits, c.isDigit)
    (positive : 0 < start) :
    Nat.toDigits 10 start ++ digits = Nat.toDigits 10 (Nat.ofDigitChars 10 digits start) := by
  induction digits generalizing start with
  | nil => rw [List.append_nil, Nat.ofDigitChars_nil]
  | cons c more ih =>
      obtain ⟨digit, others⟩ := List.forall_mem_cons.mp decimal
      have range := toNat_digit digit
      have small : c.toNat - '0'.toNat < 10 := by
        change c.toNat - 48 < 10
        omega
      have longer := Nat.toDigits_append_toDigits (by decide) positive small
      rw [toDigits_digit digit] at longer
      rw [Nat.ofDigitChars_cons, ← ih others (by omega), ← longer, List.append_assoc]
      rfl

/-- Digits are those of their value, if no zero is in front of another digit. -/
theorem toDigits_ofDigitChars {digits : List Char} (decimal : ∀ c ∈ digits, c.isDigit)
    (some : digits ≠ []) (plain : digits.head? = .some '0' → digits = ['0']) :
    Nat.toDigits 10 (Nat.ofDigitChars 10 digits 0) = digits := by
  obtain ⟨c, more, rfl⟩ := List.exists_cons_of_ne_nil some
  obtain ⟨digit, others⟩ := List.forall_mem_cons.mp decimal
  by_cases zero : c = '0'
  · subst zero
    rw [plain rfl]
    rfl
  · have range := toNat_digit digit
    have other : c.toNat ≠ '0'.toNat := fun same => zero (Char.toNat_inj.mp same)
    have positive : 0 < c.toNat - '0'.toNat := by
      change c.toNat ≠ 48 at other
      change 0 < c.toNat - 48
      omega
    rw [Nat.ofDigitChars_cons, Nat.mul_zero, Nat.zero_add, ← toDigits_append others positive,
      toDigits_digit digit]
    rfl

/-- If no digit was dropped, the significand is the value of all of them. -/
theorem pushDigits_of_kept {digits : List Char} {start : Nat} (decimal : ∀ c ∈ digits, c.isDigit)
    (kept : (pushDigits start (digits.map digitByte)).2 = 0) :
    (pushDigits start (digits.map digitByte)).1 = Nat.ofDigitChars 10 digits start ∧
      (start < UInt64.size → Nat.ofDigitChars 10 digits start < UInt64.size) := by
  induction digits generalizing start with
  | nil => exact ⟨rfl, id⟩
  | cons c more ih =>
      obtain ⟨digit, others⟩ := List.forall_mem_cons.mp decimal
      have value : start * 10 + ((digitByte c).toNat - 0x30) =
          10 * start + (c.toNat - '0'.toNat) := by
        rw [toNat_digitByte digit, Nat.mul_comm]
        rfl
      simp only [List.map_cons, pushDigits, value, Nat.ofDigitChars_cons] at kept ⊢
      by_cases fits : 10 * start + (c.toNat - '0'.toNat) < UInt64.size
      · rw [if_pos fits] at kept ⊢
        obtain ⟨shown, small⟩ := ih others kept
        exact ⟨shown, fun _ => small fits⟩
      · rw [if_neg fits] at kept
        exact absurd kept (Nat.succ_ne_zero _)

/-- Every digit's byte is that of its character. -/
theorem exists_digitByte {digits : Bytes} (all : ∀ b ∈ digits, isDigit b = true) :
    ∃ chars : List Char, (∀ c ∈ chars, c.isDigit) ∧ digits = chars.map digitByte := by
  induction digits with
  | nil => exact ⟨[], nofun, rfl⟩
  | cons b digits ih =>
      obtain ⟨digit, others⟩ := List.forall_mem_cons.mp all
      obtain ⟨chars, decimal, rfl⟩ := ih others
      have each : isDigit b = true →
          (Char.ofNat b.toNat).isDigit ∧ b = digitByte (Char.ofNat b.toNat) :=
        @holds_of_codes (fun b => isDigit b = true →
          (Char.ofNat b.toNat).isDigit ∧ b = digitByte (Char.ofNat b.toNat)) (by decide +kernel) b
      obtain ⟨first, same⟩ := each digit
      rw [same]
      exact ⟨_ :: chars, List.forall_mem_cons.mpr ⟨first, decimal⟩, rfl⟩

theorem integer_of_readPlain {dropped : Nat} {value : Int}
    (read : readPlain false negative significand dropped bytes =
      .ok (some (.integer value), rest)) :
    bytes = rest ∧ dropped = 0 ∧ integer? negative significand = some (.integer value) := by
  unfold readPlain at read
  split at read
  · next known =>
      injection read with same
      injection same with same left
      exact ⟨left, rfl, known.trans same⟩
  · exact absurd read (floats_readScaled _ _ _)

/-- What is read as an integer has nothing behind its digits. -/
theorem integer_of_readBehindDigits {digits : Bytes} {value : Int}
    (read : readBehindDigits false negative digits bytes = .ok (some (.integer value), rest)) :
    bytes = rest ∧ (pushDigits 0 digits).2 = 0 ∧
      integer? negative (pushDigits 0 digits).1 = some (.integer value) := by
  cases bytes with
  | nil => exact integer_of_readPlain read
  | cons b bytes =>
      simp only [readBehindDigits] at read
      split at read
      · exact absurd read (floats_readPlaces _ _)
      · split at read
        · exact absurd read (floats_readExponent _ _)
        · exact integer_of_readPlain read

/-- An integer is read of its digits and of nothing else. -/
theorem digits_of_readNumber {value : Int}
    (read : readNumber false negative bytes = .ok (some (.integer value), rest)) :
    ∃ n < UInt64.size, bytes = bytesOfChars (Nat.toDigits 10 n) ++ rest ∧
      integer? negative n = some (.integer value) := by
  obtain ⟨digits, behind, rfl, begins, ends⟩ := exists_beginsNumber read
  rw [readNumber_append begins ends] at read
  obtain ⟨rfl, kept, known⟩ := integer_of_readBehindDigits read
  obtain ⟨chars, decimal, rfl⟩ := exists_digitByte begins.all
  have plain : chars.head? = some '0' → chars = ['0'] := by
    intro zero
    obtain ⟨more, rfl⟩ := List.head?_eq_some_iff.mp zero
    have single := (List.cons.inj (begins.plain rfl)).2
    rw [List.map_eq_nil_iff.mp single]
  have some : chars ≠ [] := fun none => begins.some (by rw [none, List.map_nil])
  obtain ⟨shown, small⟩ := pushDigits_of_kept decimal kept
  rw [shown] at known
  refine ⟨_, small (by decide), ?_, known⟩
  rw [toDigits_ofDigitChars decimal some plain, bytesOfChars_digits decimal]

theorem beginsNumber_toDigits (n : Nat) : BeginsNumber (bytesOfChars (Nat.toDigits 10 n)) := by
  have decimal : ∀ c ∈ Nat.toDigits 10 n, c.isDigit := fun c =>
    Nat.isDigit_of_mem_toDigits (by decide) (by decide)
  rw [bytesOfChars_digits decimal]
  refine ⟨?_, isDigit_of_mem decimal, fun zero => ?_⟩
  · intro none
    exact Nat.toDigits_ne_nil (List.map_eq_nil_iff.mp none)
  · have front : (Nat.toDigits 10 n).head? = some '0' := by
      cases digits : Nat.toDigits 10 n with
      | nil => exact absurd digits Nat.toDigits_ne_nil
      | cons c more =>
          rw [digits] at zero decimal
          have code : c.toNat = 0x30 := by
            rw [← toNat_digitByte (decimal c List.mem_cons_self), Option.some.inj zero]
            rfl
          have isZero : c = '0' := Char.toNat_inj.mp code
          rw [isZero, List.head?_cons]
    rw [eq_zero_of_head? front]
    rfl

/-- The digits of an integer are read as the integer. -/
theorem takes_digits {n : Nat} {value : Number} (fits : n < UInt64.size)
    (known : integer? negative n = some value) :
    Takes (readNumber false negative) (bytesOfChars (Nat.toDigits 10 n)) (some value) where
  solid := isSolid_of_digits (beginsNumber_toDigits n).all
  reads rest stops := by
    have decimal : ∀ c ∈ Nat.toDigits 10 n, c.isDigit := fun c =>
      Nat.isDigit_of_mem_toDigits (by decide) (by decide)
    have pushed : pushDigits 0 (bytesOfChars (Nat.toDigits 10 n)) = (n, 0) := by
      rw [bytesOfChars_digits decimal,
        pushDigits_digits decimal (by rw [Nat.ofDigitChars_ten_toDigits]; exact fits),
        Nat.ofDigitChars_ten_toDigits]
    rw [readNumber_append (beginsNumber_toDigits n) stops.endsDigits,
      readBehindDigits_of_stops stops]
    simp only [pushed, readPlain, known]

end Gatehouse.Json
