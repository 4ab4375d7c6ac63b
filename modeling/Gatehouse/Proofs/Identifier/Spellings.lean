import Gatehouse.Proofs.Identifier.Text
import Gatehouse.Proofs.Text.Bytes
import Mathlib.Algebra.Group.Nat.Defs
import Mathlib.Data.List.Induction

/-!
# The spellings of identifiers

An identifier is spelled by the hexadecimal digits of its number: by themselves, in hyphenated
groups, and in hyphenated groups between braces or behind `urn:uuid:`, each in any letter case.
These are the only texts that are read as identifiers, and the one that is shown is the second
of them in lower case.
-/

namespace Gatehouse

/-! ## Digits of either case -/

theorem toLower_of_not_ascii {c : Char} (wide : ¬ c.toNat < 128) : c.toLower = c := by
  apply dif_neg
  intro upper
  exact wide (Nat.lt_of_le_of_lt upper.2 (by decide))

theorem hexValue?_toLower (c : Char) : hexValue? c.toLower = hexValue? c := by
  by_cases ascii : c.toNat < 128
  · exact @holds_of_ascii (fun c => hexValue? c.toLower = hexValue? c) (by decide) c ascii
  · rw [toLower_of_not_ascii ascii]

theorem ascii_of_hexValue? {c : Char} {value : Nat} (spells : hexValue? c = some value) :
    c.toNat < 128 := by
  have below : ∀ {last : Char}, c ≤ last → last.toNat < 128 → c.toNat < 128 :=
    fun least small => Nat.lt_of_le_of_lt least small
  rw [hexValue?] at spells
  split at spells
  · next decimal => exact below decimal.2 (by decide)
  · split at spells
    · next lower => exact below lower.2 (by decide)
    · split at spells
      · next upper => exact below upper.2 (by decide)
      · contradiction

/-- A character spells a value if and only if it is the digit of the value in either case. -/
theorem hexValue?_eq_some_iff {c : Char} {value : Nat} :
    hexValue? c = some value ↔ value < 16 ∧ c.toLower = hexDigit value := by
  constructor
  · intro spells
    have lower := @holds_of_ascii (fun c => (hexValue? c).all fun value =>
      value < 16 ∧ c.toLower = hexDigit value) (by decide) c (ascii_of_hexValue? spells)
    rw [spells, Option.all_some, decide_eq_true_eq] at lower
    exact lower
  · rintro ⟨small, lower⟩
    rw [← hexValue?_toLower, lower, hexValue?_hexDigit small]

theorem digitChar_eq_hexDigit {value : Nat} (small : value < 16) :
    value.digitChar = hexDigit value := by
  have each : ∀ n < 16, Nat.digitChar n = hexDigit n := by decide
  exact each value small

/-! ## The digits of a number -/

/-- The last digits of a number in base 16, the first one first. -/
def lastDigits : Nat → Nat → List Nat
  | 0, _ => []
  | count + 1, n => lastDigits count (n / 16) ++ [n % 16]

theorem lt_of_mem_lastDigits {count n value : Nat} (member : value ∈ lastDigits count n) :
    value < 16 := by
  induction count generalizing n with
  | zero => contradiction
  | succ count ih =>
      rcases List.mem_append.mp member with front | last
      · exact ih front
      · rw [List.mem_singleton.mp last]
        exact Nat.mod_lt n (by decide)

theorem map_range_eq_lastDigits (count n : Nat) :
    ((List.range count).map fun i => (n >>> (4 * (count - 1 - i))) % 16) = lastDigits count n := by
  induction count generalizing n with
  | zero => rfl
  | succ count ih =>
      rw [List.range_succ, List.map_append, lastDigits, ← ih]
      congr 1
      · apply List.map_congr_left
        intro i inside
        have early : 4 * (count + 1 - 1 - i) = 4 + 4 * (count - 1 - i) := by
          have := List.mem_range.mp inside
          omega
        rw [early, Nat.shiftRight_add, Nat.shiftRight_eq_div_pow n 4]
      · simp

/-- Digits are the last ones of the number that they spell. -/
theorem lastDigits_foldl {values : List Nat} (small : ∀ value ∈ values, value < 16) (n : Nat) :
    lastDigits values.length (values.foldl (fun n value => n * 16 + value) n) = values := by
  induction values using List.reverseRecOn with
  | nil => rfl
  | append_singleton values value ih =>
      rcases List.forall_mem_append.mp small with ⟨front, last⟩
      have bound := last value (List.mem_singleton_self value)
      rw [List.length_append, List.length_singleton, List.foldl_append, List.foldl_cons,
        List.foldl_nil, lastDigits]
      generalize values.foldl (fun n value => n * 16 + value) n = number at ih ⊢
      have rest : (number * 16 + value) / 16 = number := by omega
      have digit : (number * 16 + value) % 16 = value := by omega
      rw [rest, digit, ih front]

theorem foldl_lt {values : List Nat} (small : ∀ value ∈ values, value < 16) (n : Nat) :
    values.foldl (fun n value => n * 16 + value) n < (n + 1) * 16 ^ values.length := by
  induction values generalizing n with
  | nil => simp
  | cons value values ih =>
      rcases List.forall_mem_cons.mp small with ⟨first, others⟩
      have step : n * 16 + value + 1 ≤ (n + 1) * 16 := by omega
      calc values.foldl (fun n value => n * 16 + value) (n * 16 + value)
          < (n * 16 + value + 1) * 16 ^ values.length := ih others (n * 16 + value)
        _ ≤ (n + 1) * 16 * 16 ^ values.length := Nat.mul_le_mul_right _ step
        _ = (n + 1) * 16 ^ (values.length + 1) := by rw [Nat.mul_assoc, ← Nat.pow_succ']

theorem leftpad_append_singleton {digits : List Char} (count : Nat) (digit : Char) :
    (digits ++ [digit]).leftpad (count + 1) '0' = digits.leftpad count '0' ++ [digit] := by
  simp [List.leftpad]

/-- The digits of a number in base 16 are its last ones behind zeros. -/
theorem leftpad_toDigits {count n : Nat} (fits : n < 16 ^ (count + 1)) :
    (Nat.toDigits 16 n).leftpad (count + 1) '0' = (lastDigits (count + 1) n).map hexDigit := by
  induction count generalizing n with
  | zero =>
      have small : n < 16 := by simpa using fits
      rw [Nat.toDigits_of_lt_base small, digitChar_eq_hexDigit small, lastDigits, lastDigits,
        Nat.mod_eq_of_lt small]
      rfl
  | succ count ih =>
      have next : n / 16 < 16 ^ (count + 1) := by omega
      rw [lastDigits, List.map_append, ← ih next, List.map_singleton,
        ← digitChar_eq_hexDigit (Nat.mod_lt n (by decide))]
      by_cases small : n < 16
      · rw [Nat.toDigits_of_lt_base small, Nat.div_eq_of_lt small, Nat.mod_eq_of_lt small]
        simp [List.leftpad, List.replicate_succ']
      · rw [Nat.toDigits_of_base_le (by decide) (Nat.le_of_not_lt small)]
        exact leftpad_append_singleton (count + 1) (n % 16).digitChar

namespace Identifier

variable {kind : IdentifierKind}

/-- The digits of an identifier are its last 32 in base 16. -/
theorem digits_eq_map (bits : BitVec 128) :
    digits bits = (lastDigits 32 bits.toNat).map hexDigit := by
  rw [← map_range_eq_lastDigits, List.map_map]
  rfl

/-- The digits of an identifier are those of its number behind zeros. -/
theorem digits_eq_leftpad (bits : BitVec 128) :
    digits bits = (Nat.toDigits 16 bits.toNat).leftpad 32 '0' := by
  rw [digits_eq_map, leftpad_toDigits (Nat.lt_of_lt_of_le bits.isLt (by decide))]

theorem exists_of_mapM_hexValue? {text : List Char} {values : List Nat}
    (spells : text.mapM hexValue? = some values) :
    (∀ value ∈ values, value < 16) ∧ text.map Char.toLower = values.map hexDigit := by
  induction text generalizing values with
  | nil =>
      obtain rfl := Option.some.inj spells
      exact ⟨nofun, rfl⟩
  | cons c text ih =>
      rw [List.mapM_cons] at spells
      simp only [Option.bind_eq_bind, Option.bind_eq_some_iff] at spells
      rcases spells with ⟨value, first, others, behind, same⟩
      obtain rfl := Option.some.inj same
      rcases hexValue?_eq_some_iff.mp first with ⟨small, lower⟩
      rcases ih behind with ⟨allSmall, allLower⟩
      constructor
      · exact List.forall_mem_cons.mpr ⟨small, allSmall⟩
      · rw [List.map_cons, List.map_cons, lower, allLower]

theorem mapM_hexValue?_toLower (text : List Char) :
    (text.map Char.toLower).mapM hexValue? = text.mapM hexValue? := by
  induction text with
  | nil => rfl
  | cons c text ih => rw [List.map_cons, List.mapM_cons, List.mapM_cons, ih, hexValue?_toLower]

/-- Characters spell a number if and only if they are its digits in any letter case. -/
theorem ofDigits?_eq_some_iff {text : List Char} {bits : BitVec 128} :
    ofDigits? text = some bits ↔ text.map Char.toLower = digits bits := by
  constructor
  · intro spells
    simp only [ofDigits?] at spells
    split at spells
    · next whole =>
        rcases Option.map_eq_some_iff.mp spells with ⟨values, each, rfl⟩
        rcases exists_of_mapM_hexValue? each with ⟨small, lower⟩
        have length : values.length = 32 := by
          rw [← whole, ← List.length_map Char.toLower, lower, List.length_map]
        have fits := foldl_lt small 0
        rw [length] at fits
        rw [digits_eq_map, BitVec.toNat_ofNat, Nat.mod_eq_of_lt (by simpa using fits), ← length,
          lastDigits_foldl small, lower]
    · contradiction
  · intro lower
    rw [← ofDigits?_digits bits, ← lower, ofDigits?, ofDigits?, mapM_hexValue?_toLower,
      List.length_map]

/-! ## Groups -/

/-- Digits in hyphenated groups of 8, 4, 4, 4 and 12. -/
inductive Grouped : List Char → List Char → Prop
  | intro {a b c d e : List Char} (first : a.length = 8) (second : b.length = 4)
      (third : c.length = 4) (fourth : d.length = 4) (fifth : e.length = 12) :
      Grouped (a ++ (b ++ (c ++ (d ++ e))))
        (a ++ '-' :: (b ++ '-' :: (c ++ '-' :: (d ++ '-' :: e))))

theorem ungrouped?_singleton_iff {size : Nat} {text digits : List Char} :
    ungrouped? [size] text = some digits ↔ digits.length = size ∧ text = digits := by
  simp only [ungrouped?]
  split
  · next whole =>
      rw [Option.some.injEq]
      constructor
      · rintro rfl
        exact ⟨whole, rfl⟩
      · exact And.right
  · next other =>
      constructor
      · intro none
        contradiction
      · rintro ⟨whole, rfl⟩
        exact absurd whole other

/-- The digits of the first group stand in front of a hyphen. -/
theorem ungrouped?_cons_iff {size next : Nat} {sizes : List Nat} {text digits : List Char} :
    ungrouped? (size :: next :: sizes) text = some digits ↔
      ∃ front rest others, front.length = size ∧ text = front ++ '-' :: rest ∧
        ungrouped? (next :: sizes) rest = some others ∧ digits = front ++ others := by
  simp only [ungrouped?]
  constructor
  · intro read
    split at read
    · next rest behind =>
        rcases Option.map_eq_some_iff.mp read with ⟨others, grouped, rfl⟩
        have shorter : size < text.length := by
          apply Nat.lt_of_not_le
          intro short
          rw [List.drop_eq_nil_of_le short] at behind
          contradiction
        exact ⟨_, rest, others, List.length_take_of_le (Nat.le_of_lt shorter),
          by rw [← behind, List.take_append_drop], grouped, rfl⟩
    · contradiction
  · rintro ⟨front, rest, others, rfl, rfl, grouped, rfl⟩
    rw [List.drop_left, List.take_left]
    simp only [grouped, Option.map_some]

/-- The digits of a text in groups are those that the text groups. -/
theorem ungrouped?_groups_iff {text digits : List Char} :
    ungrouped? groups text = some digits ↔ Grouped digits text := by
  constructor
  · intro read
    rcases ungrouped?_cons_iff.mp read with ⟨a, _, _, first, rfl, afterFirst, rfl⟩
    rcases ungrouped?_cons_iff.mp afterFirst with ⟨b, _, _, second, rfl, afterSecond, rfl⟩
    rcases ungrouped?_cons_iff.mp afterSecond with ⟨c, _, _, third, rfl, afterThird, rfl⟩
    rcases ungrouped?_cons_iff.mp afterThird with ⟨d, _, _, fourth, rfl, afterFourth, rfl⟩
    rcases ungrouped?_singleton_iff.mp afterFourth with ⟨fifth, rfl⟩
    exact .intro first second third fourth fifth
  · intro grouped
    cases grouped with
    | intro first second third fourth fifth =>
        apply ungrouped?_cons_iff.mpr
        refine ⟨_, _, _, first, rfl, ungrouped?_cons_iff.mpr ?_, rfl⟩
        refine ⟨_, _, _, second, rfl, ungrouped?_cons_iff.mpr ?_, rfl⟩
        refine ⟨_, _, _, third, rfl, ungrouped?_cons_iff.mpr ?_, rfl⟩
        exact ⟨_, _, _, fourth, rfl, ungrouped?_singleton_iff.mpr ⟨fifth, rfl⟩, rfl⟩

theorem Grouped.length {digits text : List Char} (grouped : Grouped digits text) :
    digits.length = 32 ∧ text.length = 36 := by
  cases grouped with
  | intro first second third fourth fifth =>
      simp [first, second, third, fourth, fifth]

/-- Hyphens and braces have no other letter case. -/
theorem toLower_eq_mark_iff {c mark : Char} (isMark : mark ∈ ['-', '\x7b', '\x7d']) :
    c.toLower = mark ↔ c = mark := by
  have each : ∀ mark ∈ ['-', '\x7b', '\x7d'], mark.toLower = mark ∧
      ∀ code < 128, (Char.ofNat code).toLower = mark → Char.ofNat code = mark := by
    simp only [List.forall_mem_cons, List.not_mem_nil, false_imp_iff, implies_true]
    decide
  constructor
  · intro lower
    by_cases ascii : c.toNat < 128
    · have same := (each mark isMark).2
      exact @holds_of_ascii (fun c => c.toLower = mark → c = mark) same c ascii lower
    · rwa [toLower_of_not_ascii ascii] at lower
  · rintro rfl
    exact (each c isMark).1

theorem toLower_eq_hyphen_iff {c : Char} : c.toLower = '-' ↔ c = '-' :=
  toLower_eq_mark_iff (by decide)

/-- A text groups digits in any letter case if and only if it groups such digits in lower case. -/
theorem grouped_toLower_iff {digits text : List Char} :
    Grouped digits (text.map Char.toLower) ↔
      ∃ written, Grouped written text ∧ written.map Char.toLower = digits := by
  constructor
  · intro grouped
    generalize lowered : text.map Char.toLower = lower at grouped
    cases grouped with
    | intro first second third fourth fifth =>
        simp only [List.map_eq_append_iff, List.map_eq_cons_iff, toLower_eq_hyphen_iff] at lowered
        rcases lowered with ⟨a, _, rfl, rfl, _, _, rfl, rfl, b, _, rfl, rfl, _, _, rfl, rfl, c, _,
          rfl, rfl, _, _, rfl, rfl, d, _, rfl, rfl, _, e, rfl, rfl, rfl⟩
        simp only [List.length_map] at first second third fourth fifth
        exact ⟨_, .intro first second third fourth fifth, by simp only [List.map_append]⟩
  · rintro ⟨written, grouped, rfl⟩
    cases grouped with
    | intro first second third fourth fifth =>
        simp only [List.map_append, List.map_cons]
        apply Grouped.intro <;> rwa [List.length_map]

/-! ## Forms -/

/-- The ways to spell digits: by themselves, in hyphenated groups, and in hyphenated groups
between braces or behind `urn:uuid:`. -/
inductive Spelled (digits : List Char) : List Char → Prop
  | plain : Spelled digits digits
  | grouped {text : List Char} (grouped : Grouped digits text) : Spelled digits text
  | braced {text : List Char} (grouped : Grouped digits text) :
      Spelled digits ('\x7b' :: (text ++ ['\x7d']))
  | named {text : List Char} (grouped : Grouped digits text) :
      Spelled digits ("urn:uuid:".toList ++ text)

theorem unbraced?_eq_some_iff {text inner : List Char} :
    unbraced? text = some inner ↔ text = '\x7b' :: (inner ++ ['\x7d']) := by
  constructor
  · intro read
    simp only [unbraced?] at read
    split at read
    · next rest =>
        split at read
        · next reversed back =>
            obtain rfl := Option.some.inj read
            rw [← List.reverse_reverse rest, back, List.reverse_cons]
        · contradiction
    · contradiction
  · rintro rfl
    simp [unbraced?]

theorem unnamed?_eq_some_iff {text inner : List Char} :
    unnamed? text = some inner ↔
      ∃ mark, mark.map Char.toLower = resourceMark ∧ text = mark ++ inner := by
  simp only [unnamed?]
  constructor
  · intro read
    split at read
    · next mark =>
        obtain rfl := Option.some.inj read
        exact ⟨text.take 9, mark, (List.take_append_drop 9 text).symm⟩
    · contradiction
  · rintro ⟨mark, named, rfl⟩
    have length : mark.length = 9 := by
      rw [← List.length_map Char.toLower, named]
      rfl
    rw [← length, List.take_left, List.drop_left, if_pos named]

theorem ungrouped?_groups_eq_none {text : List Char} (other : text.length ≠ 36) :
    ungrouped? groups text = none := by
  apply Option.eq_none_iff_forall_ne_some.mpr
  intro digits read
  exact other (ungrouped?_groups_iff.mp read).length.2

/-- The length of a text decides in which of the forms it may be. -/
theorem written?_eq_some_iff {text digits : List Char} :
    written? text = some digits ↔ digits.length = 32 ∧ text = digits ∨ Grouped digits text ∨
      (∃ inner, text = '\x7b' :: (inner ++ ['\x7d']) ∧ Grouped digits inner) ∨
        ∃ inner mark, mark.map Char.toLower = resourceMark ∧ text = mark ++ inner ∧
          Grouped digits inner := by
  constructor
  · intro read
    simp only [written?] at read
    split at read
    · next whole =>
        obtain rfl := Option.some.inj read
        exact .inl ⟨whole, rfl⟩
    · rcases Option.or_eq_some_iff.mp read with grouped | ⟨-, read⟩
      · exact .inr (.inl (ungrouped?_groups_iff.mp grouped))
      · rcases Option.or_eq_some_iff.mp read with braced | ⟨-, named⟩
        · rcases Option.bind_eq_some_iff.mp braced with ⟨inner, marked, grouped⟩
          exact .inr (.inr (.inl ⟨inner, unbraced?_eq_some_iff.mp marked,
            ungrouped?_groups_iff.mp grouped⟩))
        · rcases Option.bind_eq_some_iff.mp named with ⟨inner, marked, grouped⟩
          rcases unnamed?_eq_some_iff.mp marked with ⟨mark, same, rfl⟩
          exact .inr (.inr (.inr ⟨inner, mark, same, rfl, ungrouped?_groups_iff.mp grouped⟩))
  -- The forms have 32, 36, 38 and 45 characters, so none is taken for one that is tried before.
  · rintro (⟨whole, rfl⟩ | grouped | ⟨inner, rfl, grouped⟩ | ⟨inner, mark, same, rfl, grouped⟩)
    · rw [written?, if_pos whole]
    · have length := grouped.length.2
      rw [written?, if_neg (by omega), ungrouped?_groups_iff.mpr grouped, Option.some_or]
    · have length : ('\x7b' :: (inner ++ ['\x7d'])).length = 38 := by
        simp [grouped.length.2]
      rw [written?, if_neg (by omega), ungrouped?_groups_eq_none (by omega), Option.none_or,
        unbraced?_eq_some_iff.mpr rfl, Option.bind_some, ungrouped?_groups_iff.mpr grouped,
        Option.some_or]
    · have length : (mark ++ inner).length = 45 := by
        rw [List.length_append, ← List.length_map Char.toLower, same, grouped.length.2]
        rfl
      have bare : (unbraced? (mark ++ inner)).bind (ungrouped? groups) = none := by
        apply Option.bind_eq_none_iff.mpr
        intro other read
        rw [unbraced?_eq_some_iff.mp read, List.length_cons, List.length_append,
          List.length_singleton] at length
        exact ungrouped?_groups_eq_none (by omega)
      rw [written?, if_neg (by omega), ungrouped?_groups_eq_none (by omega), Option.none_or, bare,
        Option.none_or, unnamed?_eq_some_iff.mpr ⟨mark, same, rfl⟩, Option.bind_some,
        ungrouped?_groups_iff.mpr grouped]

/-- A text spells digits in any letter case if and only if such digits are read from it. -/
theorem spelled_toLower_iff {digits text : List Char} (whole : digits.length = 32) :
    Spelled digits (text.map Char.toLower) ↔
      ∃ written, written? text = some written ∧ written.map Char.toLower = digits := by
  constructor
  · intro spelled
    generalize lowered : text.map Char.toLower = lower at spelled
    cases spelled with
    | plain =>
        rw [← lowered, List.length_map] at whole
        exact ⟨text, written?_eq_some_iff.mpr (.inl ⟨whole, rfl⟩), lowered⟩
    | grouped grouped =>
        rw [← lowered] at grouped
        rcases grouped_toLower_iff.mp grouped with ⟨written, shown, rfl⟩
        exact ⟨written, written?_eq_some_iff.mpr (.inr (.inl shown)), rfl⟩
    | braced grouped =>
        rcases List.map_eq_cons_iff.mp lowered with ⟨first, rest, rfl, opened, behind⟩
        rcases List.map_eq_append_iff.mp behind with ⟨inner, last, rfl, rfl, closed⟩
        rcases List.map_eq_singleton_iff.mp closed with ⟨brace, rfl, closing⟩
        obtain rfl := (toLower_eq_mark_iff (by decide)).mp opened
        obtain rfl := (toLower_eq_mark_iff (by decide)).mp closing
        rcases grouped_toLower_iff.mp grouped with ⟨written, shown, rfl⟩
        exact ⟨written, written?_eq_some_iff.mpr (.inr (.inr (.inl ⟨inner, rfl, shown⟩))), rfl⟩
    | named grouped =>
        rcases List.map_eq_append_iff.mp lowered with ⟨mark, inner, rfl, same, rfl⟩
        rcases grouped_toLower_iff.mp grouped with ⟨written, shown, rfl⟩
        exact ⟨written, written?_eq_some_iff.mpr (.inr (.inr (.inr ⟨inner, mark, same, rfl,
          shown⟩))), rfl⟩
  · rintro ⟨written, read, rfl⟩
    rcases written?_eq_some_iff.mp read with
      ⟨-, rfl⟩ | grouped | ⟨inner, rfl, grouped⟩ | ⟨inner, mark, same, rfl, grouped⟩
    · exact .plain
    · exact .grouped (grouped_toLower_iff.mpr ⟨written, grouped, rfl⟩)
    · rw [List.map_cons, List.map_append]
      exact .braced (grouped_toLower_iff.mpr ⟨written, grouped, rfl⟩)
    · rw [List.map_append, same]
      exact .named (grouped_toLower_iff.mpr ⟨written, grouped, rfl⟩)

/-! ## Faults -/

/-- The runs between hyphens with the hyphens are the text. -/
theorem sum_runLengths (text : List Char) :
    (runLengths text).foldr (· + ·) 0 + (runLengths text).length = text.length + 1 := by
  induction text with
  | nil => rfl
  | cons c text ih =>
      simp only [runLengths] at ih ⊢
      rw [List.splitOn_cons_eq_if_modifyHead]
      cases runs : text.splitOn '-' with
      | nil => exact absurd runs (List.splitOn_ne_nil '-' text)
      | cons run runs =>
          rw [runs] at ih
          split
          · simp only [List.map_cons, List.foldr_cons, List.length_cons, List.length_nil] at ih ⊢
            omega
          · rw [List.modifyHead_cons]
            simp only [List.map_cons, List.foldr_cons, List.length_cons] at ih ⊢
            omega

theorem length_le_byteLength (text : List Char) : text.length ≤ byteLength text := by
  induction text with
  | nil => exact Nat.le_refl 0
  | cons c text ih =>
      have positive := c.utf8Size_pos
      simp only [byteLength, List.map_cons, List.foldr_cons, List.length_cons] at ih ⊢
      omega

theorem length_body_le (text : List Char) : (body text).text.length ≤ text.length := by
  simp only [body]
  split
  · next inner marked =>
      rw [unbraced?_eq_some_iff.mp marked, List.length_cons, List.length_append]
      change inner.length ≤ _
      omega
  · next inner _ marked =>
      rcases unnamed?_eq_some_iff.mp marked with ⟨mark, -, rfl⟩
      rw [List.length_append]
      exact Nat.le_add_left inner.length mark.length
  · exact Nat.le_refl _

/-- If the first four of five runs are as long as the groups, they have twenty digits. -/
theorem le_sum_of_find?_eq_none {runs : List Nat} (five : runs.length = 5)
    (whole : (((runs.zip groups).take 4).zipIdx.find? fun entry => entry.1.1 != entry.1.2) =
      none) : 20 ≤ runs.foldr (· + ·) 0 := by
  match runs with
  | [a, b, c, d, e] =>
      simp [groups] at whole
      simp
      omega

/-- No length of a group that is reported is below zero. -/
theorem fault_groupLength_nonneg {text : List Char} {group expected : Nat} {found : Int}
    (reported : fault text = .groupLength group expected found) : 0 ≤ found := by
  have long := length_le_byteLength text
  have inside := length_body_le text
  have total := sum_runLengths (body text).text
  simp only [fault] at reported
  split at reported
  · injection reported
  · split at reported
    · injection reported
    · split at reported
      · injection reported
      · split at reported
        · injection reported
        · next five =>
            split at reported
            · injection reported with _ _ same
              omega
            · next whole =>
                injection reported with _ _ same
                have digits := le_sum_of_find?_eq_none (Decidable.not_not.mp five) whole
                omega

/-! ## Identifiers -/

/-- Digits of 128 bits in base 16, in lower case. -/
def IsHexadecimal (digits : List Char) : Prop :=
  digits.length = 32 ∧ ∀ digit ∈ digits, digit ∈ "0123456789abcdef".toList

theorem isHexadecimal_digits (bits : BitVec 128) : IsHexadecimal (digits bits) := by
  have each : ∀ value < 16, hexDigit value ∈ "0123456789abcdef".toList := by decide
  constructor
  · exact length_digits bits
  · intro digit member
    rw [digits_eq_map] at member
    rcases List.mem_map.mp member with ⟨value, among, rfl⟩
    exact each value (lt_of_mem_lastDigits among)

/-- Lower-case digits of 128 bits are those of an identifier. -/
theorem IsHexadecimal.exists_bits {text : List Char} (hexadecimal : IsHexadecimal text) :
    ∃ bits, digits bits = text := by
  have each : ∀ digit ∈ "0123456789abcdef".toList,
      digit.toLower = digit ∧ (hexValue? digit).isSome := by
    have all : ("0123456789abcdef".toList.all fun digit =>
        digit.toLower = digit ∧ (hexValue? digit).isSome) = true := by
      decide
    intro digit member
    exact of_decide_eq_true (List.all_eq_true.mp all digit member)
  rcases hexadecimal with ⟨whole, lower⟩
  have read : ∃ values, text.mapM hexValue? = some values := by
    clear whole
    induction text with
    | nil => exact ⟨[], rfl⟩
    | cons c text ih =>
        rcases List.forall_mem_cons.mp lower with ⟨first, others⟩
        rcases Option.isSome_iff_exists.mp (each c first).2 with ⟨value, spells⟩
        rcases ih others with ⟨values, behind⟩
        exact ⟨value :: values, by rw [List.mapM_cons, spells, behind]; rfl⟩
  have same : text.map Char.toLower = text := by
    rw [List.map_congr_left fun c member => (each c (lower c member)).1, List.map_id']
  rcases read with ⟨values, read⟩
  have spells : ofDigits? text =
      some (BitVec.ofNat 128 (values.foldl (fun n value => n * 16 + value) 0)) := by
    rw [ofDigits?, if_pos whole, read, Option.map_some]
  exact ⟨_, (ofDigits?_eq_some_iff.mp spells).symm.trans same⟩

theorem parse_eq_ok_iff {text : String} {id : Identifier kind} :
    parse kind text = .ok id ↔ Spelled (digits id.bits) (text.toList.map Char.toLower) := by
  rw [spelled_toLower_iff (length_digits id.bits)]
  constructor
  · intro read
    simp only [parse] at read
    split at read
    · next bits spells =>
        obtain rfl := Except.ok.inj read
        rcases Option.bind_eq_some_iff.mp spells with ⟨written, shown, spells⟩
        exact ⟨written, shown, ofDigits?_eq_some_iff.mp spells⟩
    · injection read
  · rintro ⟨written, shown, lower⟩
    rw [parse, shown, Option.bind_some, ofDigits?_eq_some_iff.mpr lower]

/-- The texts of identifiers of a kind: the spellings of digits in any letter case, of which
each identifier has its own and is shown by one. A text that is refused is so with the name of
the kind, and a length that is reported with it is not below zero. -/
structure ReadsSpellings (kind : IdentifierKind) : Prop where
  accepts : ∀ text, ∀ id : Identifier kind, parse kind text = .ok id ↔
    Spelled ((Nat.toDigits 16 id.bits.toNat).leftpad 32 '0') (text.toList.map Char.toLower)
  succeeds : ∀ text, (∃ id, parse kind text = .ok id) ↔
    ∃ digits, IsHexadecimal digits ∧ Spelled digits (text.toList.map Char.toLower)
  agrees : ∀ digits, IsHexadecimal digits → ∀ one other : String,
    Spelled digits (one.toList.map Char.toLower) →
      Spelled digits (other.toList.map Char.toLower) → parse kind one = parse kind other
  shows : ∀ id : Identifier kind,
    Grouped ((Nat.toDigits 16 id.bits.toNat).leftpad 32 '0') id.text.toList
  returns : ∀ id : Identifier kind, parse kind id.text = .ok id
  refuses : ∀ text : String,
    (∀ digits, IsHexadecimal digits → ¬ Spelled digits (text.toList.map Char.toLower)) →
      ∃ fault, parse kind text = .error fault ∧
        (∃ reason, kind.refusal fault = "invalid identifier: " ++ kind.name ++ ": " ++ reason) ∧
          ∀ group expected found, fault = .groupLength group expected found → 0 ≤ found

theorem reads_spellings (kind : IdentifierKind) : ReadsSpellings kind := by
  have succeeds : ∀ text, (∃ id, parse kind text = .ok id) ↔
      ∃ digits, IsHexadecimal digits ∧ Spelled digits (text.toList.map Char.toLower) := by
    intro text
    constructor
    · rintro ⟨id, read⟩
      exact ⟨digits id.bits, isHexadecimal_digits id.bits, parse_eq_ok_iff.mp read⟩
    · rintro ⟨text, hexadecimal, spelled⟩
      rcases hexadecimal.exists_bits with ⟨bits, rfl⟩
      exact ⟨⟨bits⟩, parse_eq_ok_iff.mpr spelled⟩
  constructor
  · intro text id
    rw [parse_eq_ok_iff, digits_eq_leftpad]
  · exact succeeds
  · intro text hexadecimal one other oneSpelled otherSpelled
    rcases hexadecimal.exists_bits with ⟨bits, rfl⟩
    have read : parse kind one = .ok ⟨bits⟩ := parse_eq_ok_iff.mpr oneSpelled
    have otherRead : parse kind other = .ok ⟨bits⟩ := parse_eq_ok_iff.mpr otherSpelled
    rw [read, otherRead]
  · intro id
    rw [text, String.toList_ofList, ← digits_eq_leftpad, ← ungrouped?_groups_iff]
    exact ungrouped?_hyphenated (by decide) (length_digits id.bits)
  · exact parse_text
  · intro text strange
    cases read : parse kind text with
    | ok id =>
        rcases (succeeds text).mp ⟨id, read⟩ with ⟨digits, hexadecimal, spelled⟩
        exact absurd spelled (strange digits hexadecimal)
    | error reported =>
        have same : fault text.toList = reported := by
          simp only [parse] at read
          split at read
          · injection read
          · injection read
        refine ⟨reported, rfl, ⟨reported.message, rfl⟩, ?_⟩
        rintro group expected found rfl
        exact fault_groupLength_nonneg same

end Identifier

end Gatehouse
