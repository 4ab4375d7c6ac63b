import Gatehouse.Json.Printer
import Gatehouse.Json.Reader
import Gatehouse.Proofs.Text.Bytes

/-!
# The digits of integers

An integer is written in decimal digits without leading zeros. Digits are taken as long as
they follow, and their value is the integer that they were written for if it fits 64 bits.
-/

namespace Gatehouse.Json

variable {rest : Bytes}

/-- The byte of a digit. -/
def digitByte (c : Char) : UInt8 := c.toNat.toUInt8

theorem ne_of_digit {b : UInt8} (digit : isDigit b = true) (other : UInt8)
    (noDigit : isDigit other = false) : b ≠ other := by
  intro same
  rw [same, noDigit] at digit
  exact Bool.false_ne_true digit

theorem toNat_digit {c : Char} (digit : c.isDigit) : 48 ≤ c.toNat ∧ c.toNat ≤ 57 := by
  simp only [Char.isDigit, Bool.and_eq_true, decide_eq_true_eq] at digit
  exact digit

theorem toNat_digitByte {c : Char} (digit : c.isDigit) : (digitByte c).toNat = c.toNat := by
  have range := toNat_digit digit
  exact UInt8.toNat_ofNat_of_lt' (Nat.lt_of_le_of_lt range.2 (by decide))

theorem isDigit_digitByte {c : Char} (digit : c.isDigit) : isDigit (digitByte c) = true := by
  have range := toNat_digit digit
  simp only [isDigit, Bool.and_eq_true, decide_eq_true_eq, UInt8.le_iff_toNat_le,
    toNat_digitByte digit]
  exact range

theorem isDigit_of_mem {digits : List Char} (decimal : ∀ c ∈ digits, c.isDigit) :
    ∀ b ∈ digits.map digitByte, isDigit b = true := by
  intro b member
  rcases List.mem_map.mp member with ⟨c, among, rfl⟩
  exact isDigit_digitByte (decimal c among)

theorem bytesOfChars_digits {digits : List Char} (decimal : ∀ c ∈ digits, c.isDigit) :
    bytesOfChars digits = digits.map digitByte := by
  induction digits with
  | nil => rfl
  | cons c more ih =>
      have range := toNat_digit (decimal c List.mem_cons_self)
      rw [bytesOfChars_cons, utf8EncodeChar_ascii (by omega),
        ih fun other member => decimal other (List.mem_cons_of_mem c member)]
      rfl

/-! ## The value of digits -/

theorem le_ofDigitChars (digits : List Char) (start : Nat) :
    start ≤ Nat.ofDigitChars 10 digits start := by
  rw [Nat.ofDigitChars_eq_ofDigitChars_zero]
  have power : 1 * start ≤ 10 ^ digits.length * start :=
    Nat.mul_le_mul_right start (Nat.pow_pos (by decide))
  omega

/-- Digits whose value fits 64 bits are all taken up. -/
theorem pushDigits_digits {digits : List Char} {start : Nat}
    (decimal : ∀ c ∈ digits, c.isDigit)
    (fits : Nat.ofDigitChars 10 digits start < UInt64.size) :
    pushDigits start (digits.map digitByte) = (Nat.ofDigitChars 10 digits start, 0) := by
  induction digits generalizing start with
  | nil => rw [List.map_nil, pushDigits, Nat.ofDigitChars_nil]
  | cons c more ih =>
      have value : start * 10 + ((digitByte c).toNat - 0x30) =
          10 * start + (c.toNat - '0'.toNat) := by
        rw [toNat_digitByte (decimal c List.mem_cons_self), Nat.mul_comm]
        rfl
      rw [Nat.ofDigitChars_cons] at fits ⊢
      have prefixFits := Nat.lt_of_le_of_lt (le_ofDigitChars more _) fits
      rw [List.map_cons, pushDigits]
      simp only [value, if_pos prefixFits]
      exact ih (fun other member => decimal other (List.mem_cons_of_mem c member)) fits

/-- Only zero is written with a zero in front. -/
theorem eq_zero_of_head? {n : Nat} (zero : (Nat.toDigits 10 n).head? = some '0') : n = 0 := by
  induction n using Nat.strongRecOn with
  | ind n ih =>
      rw [Nat.toDigits_eq_if (by decide)] at zero
      split at zero
      · next small =>
          have each : ∀ n : Fin 10, n.val.digitChar = '0' → n.val = 0 := by decide
          exact each ⟨n, small⟩ (Option.some.inj zero)
      · next large =>
          rw [List.head?_append, Option.or_of_isSome (by simp [Nat.toDigits_ne_nil])] at zero
          have zeroTenth := ih (n / 10) (by omega) zero
          omega

/-! ## Runs of digits -/

/-- No digit follows. -/
def EndsDigits (rest : Bytes) : Prop := ∀ b ∈ rest.head?, isDigit b = false

/-- A run of bytes of a kind ends where another byte follows. -/
theorem takeWhile_run {kind : UInt8 → Bool} {run : Bytes} (all : ∀ b ∈ run, kind b = true)
    (ends : ∀ b ∈ rest.head?, kind b = false) : (run ++ rest).takeWhile kind = run := by
  rw [List.takeWhile_append_of_pos all]
  cases rest with
  | nil => exact List.append_nil _
  | cons b more =>
      rw [List.takeWhile_cons_of_neg (Bool.not_eq_true _ ▸ ends b rfl), List.append_nil]

theorem takeWhile_digits {digits : Bytes} (all : ∀ b ∈ digits, isDigit b = true)
    (ends : EndsDigits rest) : (digits ++ rest).takeWhile isDigit = digits :=
  takeWhile_run all ends

theorem dropWhile_digits {digits : Bytes} (all : ∀ b ∈ digits, isDigit b = true)
    (ends : EndsDigits rest) : (digits ++ rest).dropWhile isDigit = rest := by
  have whole := List.takeWhile_append_dropWhile (p := isDigit) (l := digits ++ rest)
  rw [takeWhile_digits all ends] at whole
  exact List.append_cancel_left whole

end Gatehouse.Json
