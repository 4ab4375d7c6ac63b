import Gatehouse.Proofs.Time.Calendar
import Gatehouse.Time.Moment

/-!
# Reading the time stamps that are written

The reader of time stamps admits more than is written, but what is written for a
moment that can be represented is read as that moment.
-/

namespace Gatehouse.Moment

variable {rest : List Char}

/-- A moment that can be represented: its second lies in the calendar, and only the
last second of a minute may be a leap second. -/
structure IsProper (moment : Moment) : Prop where
  low : minSeconds ≤ moment.seconds
  high : moment.seconds ≤ maxSeconds
  nanos : moment.nanos < 2000000000
  leap : 1000000000 ≤ moment.nanos → moment.seconds % 60 = 59

/-! ## Digits -/

/-- No digit follows. -/
def Stops (rest : List Char) : Prop := ∀ c ∈ rest.head?, c.isDigit = false

theorem stops_cons {c : Char} (other : c.isDigit = false) : Stops (c :: rest) := by
  intro head same
  rwa [← Option.some.inj same]

theorem takeWhile_stops (stops : Stops rest) : rest.takeWhile Char.isDigit = [] := by
  cases rest with
  | nil => rfl
  | cons c more => rw [List.takeWhile_cons_of_neg (by simpa using stops c rfl)]

theorem run_of_digits {digits : List Char} (decimal : ∀ c ∈ digits, c.isDigit)
    (stops : Stops rest) : (digits ++ rest).takeWhile Char.isDigit = digits := by
  rw [List.takeWhile_append_of_pos decimal, takeWhile_stops stops, List.append_nil]

theorem numberOfDigits_eq (digits : List Char) :
    numberOfDigits digits = Nat.ofDigitChars 10 digits 0 := by
  have general : ∀ start, digits.foldl (fun n c => n * 10 + (c.toNat - 48)) start =
      Nat.ofDigitChars 10 digits start := by
    induction digits with
    | nil => exact fun start => (Nat.ofDigitChars_nil).symm
    | cons c more ih =>
        intro start
        rw [List.foldl_cons, ih, Nat.ofDigitChars_cons, Nat.mul_comm]
        rfl
  exact general 0

theorem isDigit_padded {width n : Nat} : ∀ c ∈ padded width n, c.isDigit := by
  intro c member
  rcases List.mem_append.mp member with zero | digit
  · rw [List.eq_of_mem_replicate zero]
    rfl
  · exact Nat.isDigit_of_mem_toDigits (by decide) (by decide) digit

@[simp] theorem numberOfDigits_padded (width n : Nat) : numberOfDigits (padded width n) = n := by
  have zeros : ∀ count,
      Nat.ofDigitChars 10 (List.replicate count '0' ++ Nat.toDigits 10 n) 0 = n := by
    intro count
    induction count with
    | zero => exact Nat.ofDigitChars_ten_toDigits
    | succ count ih =>
        rw [List.replicate_succ, List.cons_append, Nat.ofDigitChars_cons]
        exact ih
  rw [numberOfDigits_eq]
  exact zeros _

theorem length_padded {width n : Nat} (wide : 0 < width) (fits : n < Nat.pow 10 width) :
    (padded width n).length = width := by
  have short := (Nat.length_toDigits_le_iff (by decide) wide).mpr fits
  rw [padded, List.length_append, List.length_replicate]
  omega

theorem padded_ne_nil (width n : Nat) : padded width n ≠ [] := by
  simp [padded, Nat.toDigits_ne_nil]

theorem scanDigits_all {digits : List Char} (decimal : ∀ c ∈ digits, c.isDigit)
    (some : digits ≠ []) (stops : Stops rest) :
    scanDigits none (digits ++ rest) = Option.some (numberOfDigits digits, rest) := by
  simp [scanDigits, run_of_digits decimal stops, some]

theorem scanDigits_within {digits : List Char} {width : Nat} (decimal : ∀ c ∈ digits, c.isDigit)
    (some : digits ≠ []) (fits : digits.length ≤ width) (stops : Stops rest) :
    scanDigits (Option.some width) (digits ++ rest) =
      Option.some (numberOfDigits digits, rest) := by
  simp [scanDigits, run_of_digits decimal stops, List.take_of_length_le fits, some]

/-! ## Fields -/

theorem isBlank_digit {c : Char} (digit : c.isDigit) : isBlank c = false := by
  have range : 48 ≤ c.toNat ∧ c.toNat ≤ 57 := by
    simp only [Char.isDigit, Bool.and_eq_true, decide_eq_true_eq] at digit
    exact digit
  simp [isBlank, blankRanges]
  omega

theorem trimStart_padded (width n : Nat) :
    trimStart (padded width n ++ rest) = padded width n ++ rest := by
  cases shown : padded width n with
  | nil => exact absurd shown (padded_ne_nil width n)
  | cons c more =>
      have digit : c.isDigit := isDigit_padded c (by rw [shown]; exact List.mem_cons_self)
      rw [List.cons_append, trimStart, List.dropWhile_cons_of_neg (by simp [isBlank_digit digit])]

theorem scanField_padded {n : Nat} (fits : n < 100) (stops : Stops rest) :
    scanField (padded 2 n ++ rest) = some (n, rest) := by
  rw [scanField, trimStart_padded, scanDigits_within isDigit_padded (padded_ne_nil 2 n)
    (Nat.le_of_eq (length_padded (by decide) fits)) stops, numberOfDigits_padded]

theorem skipMark_self {mark : Char} (visible : isBlank mark = false) :
    skipMark mark (mark :: rest) = some rest := by
  simp [skipMark, trimStart, visible]

theorem padded_append_ne {width n : Nat} {mark : Char} {more : List Char}
    (other : mark.isDigit = false) : padded width n ++ rest ≠ mark :: more := by
  intro same
  cases shown : padded width n with
  | nil => exact padded_ne_nil width n shown
  | cons c digits =>
      rw [shown] at same
      have digit : c.isDigit := isDigit_padded c (by rw [shown]; exact List.mem_cons_self)
      rw [(List.cons.inj same).1, other] at digit
      contradiction

theorem scanYear_signed {mark : Char} (n : Nat) (stops : Stops rest)
    (visible : trimStart (mark :: (padded 4 n ++ rest)) = mark :: (padded 4 n ++ rest)) :
    (mark = '-' → scanYear (mark :: (padded 4 n ++ rest)) = some (-(n : Int), rest)) ∧
      (mark = '+' → scanYear (mark :: (padded 4 n ++ rest)) = some ((n : Int), rest)) := by
  constructor
  all_goals
    rintro rfl
    rw [scanYear, visible]
    simp only [scanDigits_all isDigit_padded (padded_ne_nil 4 n) stops, numberOfDigits_padded,
      Option.map_some]

theorem scanYear_yearText (year : Int) (stops : Stops rest) :
    scanYear (yearText year ++ rest) = some (year, rest) := by
  rw [yearText]
  split
  · next short =>
      have fits : year.toNat < 10 ^ 4 := by omega
      rw [scanYear, trimStart_padded]
      split
      · next minus => exact absurd minus (padded_append_ne rfl)
      · next plus => exact absurd plus (padded_append_ne rfl)
      · rw [scanDigits_within isDigit_padded (padded_ne_nil 4 _)
          (Nat.le_of_eq (length_padded (by decide) fits)) stops, numberOfDigits_padded,
          Option.map_some]
        simp only [Int.toNat_of_nonneg short.1]
  · next long =>
      rw [List.cons_append]
      split
      · next negative =>
          rw [(scanYear_signed year.natAbs stops rfl).1 rfl]
          congr 2
          omega
      · next positive =>
          rw [(scanYear_signed year.natAbs stops rfl).2 rfl]
          congr 2
          omega

theorem scanFraction_padded {width n : Nat} (wide : 0 < width) (narrow : width ≤ 9)
    (fits : n < Nat.pow 10 width) (stops : Stops rest) :
    scanFraction ('.' :: (padded width n ++ rest)) =
      some (n * Nat.pow 10 (9 - width), rest) := by
  have length := length_padded wide fits
  have dropped : (padded width n ++ rest).dropWhile Char.isDigit = rest := by
    rw [List.dropWhile_append_of_pos isDigit_padded]
    cases rest with
    | nil => rfl
    | cons c more => rw [List.dropWhile_cons_of_neg (by simpa using stops c rfl)]
  have whole : (padded width n).take 9 = padded width n :=
    List.take_of_length_le (by omega)
  simp [scanFraction, run_of_digits isDigit_padded stops, dropped, padded_ne_nil, whole, length]

theorem scanFraction_fractionText {nanos : Nat} (fits : nanos < 1000000000) :
    scanFraction (fractionText nanos ++ ['Z']) = some (nanos, ['Z']) := by
  have stops : Stops ['Z'] := stops_cons rfl
  rw [fractionText]
  split
  · next zero =>
      rw [zero]
      rfl
  · split
    · next millis =>
        have fits : nanos / 1000000 < 1000 := by omega
        have whole : nanos / 1000000 * 1000000 = nanos := by omega
        rw [List.cons_append, scanFraction_padded (by decide) (by decide) fits stops]
        exact congrArg (fun n => some (n, ['Z'])) whole
    · split
      · next micros =>
          have fits : nanos / 1000 < 1000000 := by omega
          have whole : nanos / 1000 * 1000 = nanos := by omega
          rw [List.cons_append, scanFraction_padded (by decide) (by decide) fits stops]
          exact congrArg (fun n => some (n, ['Z'])) whole
      · rw [List.cons_append, scanFraction_padded (by decide) (by decide) fits stops]
        exact congrArg (fun n => some (n, ['Z'])) (Nat.mul_one nanos)

/-! ## Time stamps -/

theorem monthLength_le (year : Int) (month : Nat) : Date.monthLength year month ≤ 31 := by
  rw [Date.monthLength]
  split
  · split <;> decide
  · split <;> decide

theorem isValid_fields {date : Date} (valid : date.isValid = true) :
    date.month < 100 ∧ date.day < 100 := by
  have length := monthLength_le date.year date.month
  simp only [Date.isValid, Bool.and_eq_true, decide_eq_true_eq] at valid
  omega

theorem stops_fractionText (nanos : Nat) : Stops (fractionText nanos ++ ['Z']) := by
  rw [fractionText]
  split
  · exact stops_cons rfl
  · split
    · exact stops_cons rfl
    · split <;> exact stops_cons rfl

/-- What is written for a moment is read as that moment. -/
theorem parse?_text {moment : Moment} (proper : moment.IsProper) :
    parse? moment.text = some moment := by
  have valid := Date.isValid_ofDays (moment.seconds / secondsPerDay)
  have days := Date.toDays_ofDays (moment.seconds / secondsPerDay)
  have bounds := proper.nanos
  have leapSecond := proper.leap
  rw [text, render]
  simp only [List.append_assoc, List.cons_append]
  rw [parse?, String.toList_ofList]
  generalize Date.ofDays (moment.seconds / secondsPerDay) = date at valid days ⊢
  generalize clock : (moment.seconds % secondsPerDay).toNat = time
  have inDay : time < 86400 := by
    rw [← clock, secondsPerDay]
    omega
  have ofLeap : moment.nanos / 1000000000 = 0 ∨
      moment.nanos / 1000000000 = 1 ∧ time % 60 = 59 := by
    rw [← clock, secondsPerDay]
    omega
  have fields := isValid_fields valid
  have hyphen : ∀ rest, skipMark '-' ('-' :: rest) = some rest := fun _ => skipMark_self rfl
  have colon : ∀ rest, skipMark ':' (':' :: rest) = some rest := fun _ => skipMark_self rfl
  have year : ∀ rest,
      scanYear (yearText date.year ++ '-' :: rest) = some (date.year, '-' :: rest) :=
    fun _ => scanYear_yearText _ (stops_cons rfl)
  have month : ∀ rest, scanField (padded 2 date.month ++ '-' :: rest) =
      some (date.month, '-' :: rest) := fun _ => scanField_padded fields.1 (stops_cons rfl)
  have day : ∀ rest, scanField (padded 2 date.day ++ 'T' :: rest) =
      some (date.day, 'T' :: rest) := fun _ => scanField_padded fields.2 (stops_cons rfl)
  have hour : ∀ rest, scanField (padded 2 (time / 3600) ++ ':' :: rest) =
      some (time / 3600, ':' :: rest) := fun _ => scanField_padded (by omega) (stops_cons rfl)
  have minute : ∀ rest, scanField (padded 2 (time / 60 % 60) ++ ':' :: rest) =
      some (time / 60 % 60, ':' :: rest) := fun _ => scanField_padded (by omega) (stops_cons rfl)
  have second := @scanField_padded _ (time % 60 + moment.nanos / 1000000000) (by omega)
    (stops_fractionText (moment.nanos % 1000000000))
  have fraction := @scanFraction_fractionText (moment.nanos % 1000000000) (by omega)
  have offset : scanOffset (trimStart ['Z']) = some (0, []) := rfl
  have ended : (trimStart []).isEmpty = true := rfl
  -- The readers run one after the other, each up to the first character of the next one.
  rw [year]
  dsimp only [Option.bind_eq_bind, Option.bind_some]
  rw [hyphen, Option.bind_some, month]
  dsimp only [Option.bind_some]
  rw [hyphen, Option.bind_some, day]
  dsimp only [Option.bind_some]
  rw [if_pos (.inl rfl), hour]
  dsimp only [Option.bind_some]
  rw [colon, Option.bind_some, minute]
  dsimp only [Option.bind_some]
  rw [colon, Option.bind_some, second]
  dsimp only [Option.bind_some]
  rw [fraction]
  dsimp only [Option.bind_some]
  rw [offset]
  dsimp only [Option.bind_some]
  rw [ended, valid]
  have inClock : ¬(24 ≤ time / 3600 ∨ 60 ≤ time / 60 % 60 ∨
      61 ≤ time % 60 + moment.nanos / 1000000000) := by omega
  have total : date.toDays * secondsPerDay + (time : Int) = moment.seconds := by
    rw [days, ← clock, secondsPerDay]
    omega
  have leap : (if time % 60 + moment.nanos / 1000000000 = 60 then 1 else 0) =
      moment.nanos / 1000000000 := by
    split <;> omega
  have whole : time / 3600 * 3600 + time / 60 % 60 * 60 +
      (time % 60 + moment.nanos / 1000000000 - moment.nanos / 1000000000) = time := by omega
  have nanos : moment.nanos / 1000000000 * 1000000000 + moment.nanos % 1000000000 =
      moment.nanos := Nat.div_add_mod' ..
  simp only [Bool.not_true, Bool.false_eq_true, false_or, if_false, if_neg inClock, leap, whole,
    total, Int.sub_zero, nanos]
  rw [if_pos ⟨proper.low, proper.high⟩]

theorem read_write {moment : Moment} (proper : moment.IsProper) :
    codec.read (codec.write moment) = .ok moment := by
  simp only [codec, Json.Codec.spelled, parse?_text proper]
  rfl

end Gatehouse.Moment
