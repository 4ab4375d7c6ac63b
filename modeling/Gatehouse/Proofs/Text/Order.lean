import Gatehouse.Ordered.Set
import Gatehouse.Proofs.Text.Bytes
import Mathlib.Algebra.Group.Nat.Defs

/-!
# The order of texts is that of their bytes

Texts are compared by their characters. A character with a greater number has a greater
first byte, or the same one and greater bytes behind it, so the bytes of two texts compare
in the same way.
-/

namespace Gatehouse

/-- Bytes come before others, whatever follows either of them. -/
def Precedes (left right : Bytes) : Prop := ∀ after behind, left ++ after < right ++ behind

/-- The first bytes decide, and if they are the same those behind them. -/
theorem precedes_cons {a b : Nat} {left right : Bytes} (small : b < 256)
    (order : a < b ∨ a = b ∧ Precedes left right) :
    Precedes (UInt8.ofNat a :: left) (UInt8.ofNat b :: right) := by
  intro after behind
  rcases order with less | ⟨rfl, precedes⟩
  · apply List.Lex.rel
    rw [UInt8.lt_iff_toNat_lt, UInt8.toNat_ofNat_of_lt' small,
      UInt8.toNat_ofNat_of_lt' (Nat.lt_trans less small)]
    exact less
  · exact List.Lex.cons (precedes after behind)

/-- The last bytes of a character with a number, each of six bits. -/
def continuations (n : Nat) : Nat → Bytes
  | 0 => []
  | count + 1 => UInt8.ofNat (n / 64 ^ count % 64 + 128) :: continuations n count

theorem precedes_continuations {m n : Nat} (count : Nat)
    (less : m % 64 ^ count < n % 64 ^ count) :
    Precedes (continuations m count) (continuations n count) := by
  induction count with
  | zero => omega
  | succ count ih =>
      rw [Nat.pow_succ, Nat.mod_mul, Nat.mod_mul] at less
      apply precedes_cons (by omega)
      have first : m % 64 ^ count < 64 ^ count := Nat.mod_lt _ (Nat.pow_pos (by decide))
      have second : n % 64 ^ count < 64 ^ count := Nat.mod_lt _ (Nat.pow_pos (by decide))
      rcases Nat.lt_trichotomy (m / 64 ^ count % 64) (n / 64 ^ count % 64) with lower | same | upper
      · exact .inl (by omega)
      · refine .inr ⟨by omega, ih ?_⟩
        rw [same] at less
        omega
      · have steps := Nat.mul_le_mul_left (64 ^ count) upper
        rw [Nat.mul_succ] at steps
        omega

/-- The bytes of a character begin with what does not fit into those behind. -/
def leading (n mark count : Nat) : Bytes :=
  UInt8.ofNat (n / 64 ^ count + mark) :: continuations n count

theorem precedes_leading {m n mark count : Nat} (less : m < n)
    (small : n / 64 ^ count + mark < 256) :
    Precedes (leading m mark count) (leading n mark count) := by
  apply precedes_cons small
  have parts := Nat.div_add_mod m (64 ^ count)
  have others := Nat.div_add_mod n (64 ^ count)
  have ordered : m / 64 ^ count ≤ n / 64 ^ count := Nat.div_le_div_right (Nat.le_of_lt less)
  rcases Nat.lt_or_eq_of_le ordered with lower | same
  · exact .inl (by omega)
  · refine .inr ⟨by omega, precedes_continuations count ?_⟩
    rw [same] at parts
    omega

/-- How many bytes stand behind the first one of the character with a number. -/
def behindFirst (n : Nat) : Nat :=
  if n ≤ 0x7F then 0 else if n ≤ 0x7FF then 1 else if n ≤ 0xFFFF then 2 else 3

/-- The mark in the first byte of a character for the number of those behind it. -/
def markFor : Nat → Nat
  | 0 => 0
  | 1 => 192
  | 2 => 224
  | _ => 240

/-- The bytes of the character with a number. -/
def encoded (n : Nat) : Bytes := leading n (markFor (behindFirst n)) (behindFirst n)

theorem behindFirst_cases (n : Nat) :
    (n ≤ 0x7F ∧ behindFirst n = 0) ∨ (0x7F < n ∧ n ≤ 0x7FF ∧ behindFirst n = 1) ∨
      (0x7FF < n ∧ n ≤ 0xFFFF ∧ behindFirst n = 2) ∨ (0xFFFF < n ∧ behindFirst n = 3) := by
  rw [behindFirst]
  split
  · omega
  · split
    · omega
    · split <;> omega

theorem toNat_lt (c : Char) : c.val.toNat < 0x110000 := by
  rcases c.valid with low | ⟨-, high⟩
  · exact Nat.lt_trans low (by decide)
  · exact high

theorem utf8EncodeChar_eq (c : Char) : String.utf8EncodeChar c = encoded c.toNat := by
  have bound := toNat_lt c
  change String.utf8EncodeChar c = encoded c.val.toNat
  simp only [String.utf8EncodeChar]
  generalize c.val.toNat = n at bound
  rcases behindFirst_cases n with ⟨most, count⟩ | ⟨least, most, count⟩ | ⟨least, most, count⟩ |
    ⟨least, count⟩
  · simp [encoded, count, leading, markFor, continuations, most]
  · rw [if_neg (by omega), if_pos most]
    have first : n / 64 % 32 = n / 64 := Nat.mod_eq_of_lt (by omega)
    simp [encoded, count, leading, markFor, continuations, first]
  · rw [if_neg (by omega), if_neg (by omega), if_pos most]
    have first : n / 4096 % 16 = n / 4096 := Nat.mod_eq_of_lt (by omega)
    simp [encoded, count, leading, markFor, continuations, first]
  · rw [if_neg (by omega), if_neg (by omega), if_neg (by omega)]
    have first : n / 262144 % 8 = n / 262144 := Nat.mod_eq_of_lt (by omega)
    simp [encoded, count, leading, markFor, continuations, first]

theorem precedes_encoded {m n : Nat} (less : m < n) (bound : n < 0x110000) :
    Precedes (encoded m) (encoded n) := by
  have small : n / 64 ^ behindFirst n + markFor (behindFirst n) < 256 := by
    rcases behindFirst_cases n with ⟨_, count⟩ | ⟨_, _, count⟩ | ⟨_, _, count⟩ | ⟨_, count⟩
    all_goals
      simp only [count, markFor]
      omega
  by_cases same : behindFirst m = behindFirst n
  · rw [encoded, encoded, same]
    exact precedes_leading less small
  · refine precedes_cons small (.inl ?_)
    rcases behindFirst_cases m with ⟨_, one⟩ | ⟨_, _, one⟩ | ⟨_, _, one⟩ | ⟨_, one⟩
    all_goals
      rcases behindFirst_cases n with ⟨_, two⟩ | ⟨_, _, two⟩ | ⟨_, _, two⟩ | ⟨_, two⟩
      all_goals
        simp only [one, two, markFor]
        omega

theorem bytesOfChars_lt {left right : List Char} (less : left < right) :
    bytesOfChars left < bytesOfChars right := by
  induction left generalizing right with
  | nil =>
      cases less with
      | nil =>
          rw [bytesOfChars_cons, utf8EncodeChar_eq, encoded, leading]
          exact List.Lex.nil
  | cons c rest ih =>
      cases less with
      | rel lower =>
          rw [bytesOfChars_cons, bytesOfChars_cons, utf8EncodeChar_eq, utf8EncodeChar_eq]
          exact precedes_encoded lower (toNat_lt _) _ _
      | cons later =>
          rw [bytesOfChars_cons, bytesOfChars_cons]
          exact List.append_left_lt (ih later)

/-- Texts compare as their bytes do. -/
theorem compare_eq_lt_iff {left right : String} :
    compare left right = .lt ↔ bytesOfText left < bytesOfText right := by
  have lower : ∀ {left right : String}, left < right →
      bytesOfText left < bytesOfText right := by
    intro left right less
    rw [← String.ofList_toList (s := left), ← String.ofList_toList (s := right),
      bytesOfText_ofList, bytesOfText_ofList]
    exact bytesOfChars_lt less
  have order : compare left right = .lt ↔ left < right := compareOfLessAndEq_eq_lt
  rw [order]
  constructor
  · exact lower
  · intro less
    rcases Std.lt_trichotomy left right with before | same | after
    · exact before
    · rw [same] at less
      exact absurd less (List.lt_irrefl _)
    · exact absurd less (List.lt_asymm (lower after))

/-- Texts in the order of their bytes, each once. -/
def AscendInBytes (texts : List String) : Prop :=
  texts.Pairwise fun a b => bytesOfText a < bytesOfText b

theorem ascendInBytes_iff {texts : List String} :
    AscendInBytes texts ↔ texts.Pairwise fun a b => compare a b = .lt := by
  simp only [AscendInBytes, compare_eq_lt_iff]

end Gatehouse
