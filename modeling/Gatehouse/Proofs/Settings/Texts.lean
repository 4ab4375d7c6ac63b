import Gatehouse.Settings.Setting
import Gatehouse.Proofs.Json.Integers

/-!
# What the texts of variables stand for

Some texts stand for themselves. Numbers are written in decimal digits, truth values and
named values by their names, the latter in any letter case, and blanks around any of them
do not count. The readers find the values that are written, and fail if there is none.
-/

namespace Gatehouse

/-! ## Numbers -/

/-- Digits, at least one of them, are those of a number. -/
def AreDigitsOf (digits : List Char) (number : Nat) : Prop :=
  digits ≠ [] ∧ (∀ c ∈ digits, c.isDigit) ∧ Nat.ofDigitChars 10 digits 0 = number

/-- A text writes a number in its digits, behind a plus sign or none. -/
def WritesNumber (text : List Char) (number : Nat) : Prop :=
  ∃ digits, (text = digits ∨ text = '+' :: digits) ∧ AreDigitsOf digits number

theorem not_areDigitsOf_plus {rest : List Char} {number : Nat} :
    ¬ AreDigitsOf ('+' :: rest) number := fun are =>
  absurd (are.2.1 '+' List.mem_cons_self) (by decide)

theorem writesNumber_plus_iff {digits : List Char} {number : Nat} :
    WritesNumber ('+' :: digits) number ↔ AreDigitsOf digits number := by
  constructor
  · rintro ⟨_, rfl | same, are⟩
    · exact absurd are not_areDigitsOf_plus
    · rwa [(List.cons.inj same).2]
  · exact fun are => ⟨digits, .inr rfl, are⟩

theorem writesNumber_iff_of_unsigned {text : List Char} {number : Nat}
    (unsigned : ∀ digits, text ≠ '+' :: digits) :
    WritesNumber text number ↔ AreDigitsOf text number := by
  constructor
  · rintro ⟨digits, rfl | same, are⟩
    · exact are
    · exact absurd same (unsigned digits)
  · exact fun are => ⟨text, .inl rfl, are⟩

namespace SettingKind

variable {bound : Nat} {positive : 0 < bound}

/-- Digits are read as the number that they add up to behind the number so far. A number
that is too large stays so, whatever stands behind it. -/
theorem readDigits_eq_ok_iff {digits : List Char} {start value : Fin bound} :
    readDigits bound digits start = .ok value ↔
      (∀ c ∈ digits, c.isDigit) ∧ Nat.ofDigitChars 10 digits start = value := by
  induction digits generalizing start with
  | nil =>
      rw [readDigits, Nat.ofDigitChars_nil, Except.ok.injEq, Fin.ext_iff]
      exact ⟨fun same => ⟨nofun, same⟩, fun read => read.2⟩
  | cons c more ih =>
      have next : 10 * start.val + (c.toNat - '0'.toNat) = start.val * 10 + (c.toNat - 48) := by
        rw [Nat.mul_comm]
        rfl
      rw [readDigits, List.forall_mem_cons, Nat.ofDigitChars_cons, next]
      by_cases digit : c.isDigit
      · rw [if_pos digit]
        by_cases fits : start.val * 10 + (c.toNat - 48) < bound
        · simp only [dif_pos fits, ih, digit, true_and]
        · have beyond := Json.le_ofDigitChars more (start.val * 10 + (c.toNat - 48))
          have within := value.isLt
          simp only [dif_neg fits, reduceCtorEq, false_iff, not_and]
          omega
      · rw [if_neg digit]
        simp only [reduceCtorEq, digit, false_and]

theorem readDigits_eq_ok_iff_areDigitsOf {digits : List Char} (some : digits ≠ [])
    {value : Fin bound} :
    readDigits bound digits ⟨0, positive⟩ = .ok value ↔ AreDigitsOf digits value := by
  rw [readDigits_eq_ok_iff, AreDigitsOf]
  exact ⟨fun read => ⟨some, read⟩, fun are => are.2⟩

theorem readNumber_eq_ok_iff {text : List Char} {value : Fin bound} :
    readNumber bound positive text = .ok value ↔ WritesNumber text value := by
  unfold readNumber
  split
  · rw [writesNumber_iff_of_unsigned fun _ => (List.cons_ne_nil _ _).symm]
    exact ⟨nofun, fun are => absurd rfl are.1⟩
  · rw [writesNumber_plus_iff]
    exact ⟨nofun, fun are => absurd rfl are.1⟩
  · next digits some =>
      rw [writesNumber_plus_iff]
      exact readDigits_eq_ok_iff_areDigitsOf some
  · next some _ unsigned =>
      rw [writesNumber_iff_of_unsigned unsigned]
      exact readDigits_eq_ok_iff_areDigitsOf some

end SettingKind

/-! ## Names -/

namespace Choice

variable {α : Type} {choice : Choice α}

/-- No value lacks a name or shares it with another. -/
structure TellsApart (choice : Choice α) : Prop where
  complete : ∀ value, value ∈ choice.all
  distinct : ∀ {a b}, choice.name a = choice.name b → a = b

theorem TellsApart.ofName?_eq_some_iff (apart : choice.TellsApart) {name : String} {value : α} :
    choice.ofName? name = some value ↔ name = choice.name value := by
  have named {other : α} (found : choice.ofName? name = some other) :
      choice.name other = name := by simpa using List.find?_some found
  constructor
  · exact fun found => (named found).symm
  · rintro rfl
    have known : (choice.ofName? (choice.name value)).isSome :=
      List.find?_isSome.mpr ⟨value, apart.complete value, beq_iff_eq.mpr rfl⟩
    obtain ⟨other, found⟩ := Option.isSome_iff_exists.mp known
    rw [found, apart.distinct (named found)]

end Choice

theorem ExecutionOrder.tellsApart : choice.TellsApart where
  complete := by intro value; cases value <;> decide
  distinct := by intro a b; cases a <;> cases b <;> decide

theorem LookupFailurePolicy.tellsApart : choice.TellsApart where
  complete := by intro value; cases value <;> decide
  distinct := by intro a b; cases a <;> cases b <;> decide

theorem CacheBackend.tellsApart : choice.TellsApart where
  complete := by intro value; cases value <;> decide
  distinct := by intro a b; cases a <;> cases b <;> decide

/-! ## Settings -/

namespace Setting

/-- A text stands for a value of a setting. -/
def Denotes : (setting : Setting) → String → setting.Value → Prop
  | .appName | .host | .secret | .redisUrl | .logFilter => fun text value => value = text
  | .databaseUrl => fun text value => value = if trim text = "" then none else some text
  | .port => fun text value => WritesNumber (trim text).toList value.val
  | .accessTtl | .refreshTtl | .leeway | .auditCapacity | .permissionsTtl | .storeTimeout =>
      fun text value => WritesNumber (trim text).toList value.val
  | .trackSessions | .singleFlight | .audit | .logJson =>
      fun text value => trim text = if value then "true" else "false"
  | .order => fun text value => lowerAscii (trim text) = ExecutionOrder.choice.name value
  | .onLookupFailure => fun text value =>
      lowerAscii (trim text) = LookupFailurePolicy.choice.name value
  | .cacheBackend => fun text value => lowerAscii (trim text) = CacheBackend.choice.name value

end Setting

namespace SettingKind

variable {α : Type} {text : String}

theorem text_ofText_eq_ok_iff {value : String} :
    SettingKind.text.ofText text = .ok value ↔ value = text := by
  rw [SettingKind.text, Except.ok.injEq, eq_comm]

theorem optionalText_ofText_eq_ok_iff {value : Option String} :
    optionalText.ofText text = .ok value ↔
      value = if trim text = "" then none else some text := by
  simp only [optionalText, String.isEmpty_iff, Except.ok.injEq]
  exact eq_comm

theorem number_ofText_eq_ok_iff {bound : Nat} {positive : 0 < bound} {value : Fin bound} :
    (number bound positive).ofText text = .ok value ↔
      WritesNumber (trim text).toList value := by
  simp only [number]
  rw [readNumber_eq_ok_iff]

theorem flag_ofText_eq_ok_iff {value : Bool} :
    flag.ofText text = .ok value ↔ trim text = if value then "true" else "false" := by
  simp only [flag]
  cases value <;> grind

theorem named_ofText_eq_ok_iff {choice : Choice α} (apart : choice.TellsApart) {value : α} :
    (named choice).ofText text = .ok value ↔ lowerAscii (trim text) = choice.name value := by
  rw [← Choice.plain, ← apart.ofName?_eq_some_iff]
  simp only [named, Choice.ofText?]
  split
  · next found => rw [found, Except.ok.injEq, Option.some.injEq]
  · next missing => rw [missing]; exact ⟨nofun, nofun⟩

end SettingKind

/-- What is read for a setting is what the text stands for. -/
theorem Setting.ofText_eq_ok_iff {setting : Setting} {text : String} {value : setting.Value} :
    setting.kind.ofText text = .ok value ↔ setting.Denotes text value := by
  cases setting <;>
    simp only [kind, Denotes, SettingKind.text_ofText_eq_ok_iff,
      SettingKind.optionalText_ofText_eq_ok_iff, SettingKind.number_ofText_eq_ok_iff,
      SettingKind.flag_ofText_eq_ok_iff,
      SettingKind.named_ofText_eq_ok_iff ExecutionOrder.tellsApart,
      SettingKind.named_ofText_eq_ok_iff LookupFailurePolicy.tellsApart,
      SettingKind.named_ofText_eq_ok_iff CacheBackend.tellsApart]

/-- A text stands for one value at most. -/
theorem Setting.Denotes.unique {setting : Setting} {text : String} {a b : setting.Value}
    (denoted : setting.Denotes text a) (also : setting.Denotes text b) : a = b :=
  Except.ok.inj ((ofText_eq_ok_iff.mpr denoted).symm.trans (ofText_eq_ok_iff.mpr also))

end Gatehouse
