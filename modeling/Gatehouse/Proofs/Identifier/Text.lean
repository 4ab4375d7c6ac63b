import Gatehouse.Identifier

/-!
# Reading the identifiers that are written

An identifier is written as its digits in hyphenated groups. These are read as the
identifier, so no two identifiers are written alike.
-/

namespace Gatehouse.Identifier

variable {kind : IdentifierKind}

/-! ## Groups -/

theorem length_hyphenated {sizes : List Nat} {digits : List Char} (some : sizes ≠ [])
    (whole : digits.length = sizes.foldr (· + ·) 0) :
    (hyphenated sizes digits).length + 1 = digits.length + sizes.length := by
  induction sizes generalizing digits with
  | nil => contradiction
  | cons size sizes ih =>
      cases sizes with
      | nil => simp_all [hyphenated]
      | cons next sizes =>
          rw [List.foldr_cons] at whole
          have rest := @ih (digits.drop size) (by simp) (by rw [List.length_drop]; omega)
          rw [List.length_drop] at rest
          simp only [hyphenated, List.length_append, List.length_cons, List.length_take] at rest ⊢
          omega

/-- Digits in hyphenated groups are taken out of the groups again. -/
theorem ungrouped?_hyphenated {sizes : List Nat} {digits : List Char} (some : sizes ≠ [])
    (whole : digits.length = sizes.foldr (· + ·) 0) :
    ungrouped? sizes (hyphenated sizes digits) = Option.some digits := by
  induction sizes generalizing digits with
  | nil => contradiction
  | cons size sizes ih =>
      cases sizes with
      | nil => simp_all [hyphenated, ungrouped?, List.take_of_length_le]
      | cons next sizes =>
          rw [List.foldr_cons] at whole
          have rest := @ih (digits.drop size) (by simp) (by rw [List.length_drop]; omega)
          have length : (digits.take size).length = size := by
            rw [List.length_take]
            omega
          simp only [hyphenated, ungrouped?]
          rw [List.drop_left' length, List.take_left' length]
          simp only [rest, Option.map_some, List.take_append_drop]

/-! ## Digits -/

@[simp] theorem length_digits (bits : BitVec 128) : (digits bits).length = 32 := by
  simp [digits]

/-- The first digits of a number are those of the number without the other ones. -/
theorem foldl_digits {n : Nat} (fits : n < Nat.pow 16 32) {count : Nat} (few : count ≤ 32) :
    ((List.range count).map fun i => (n >>> (4 * (31 - i))) % 16).foldl
      (fun n value => n * 16 + value) 0 = n >>> (4 * (32 - count)) := by
  induction count with
  | zero => exact (Nat.shiftRight_eq_zero _ _ (by simpa using fits)).symm
  | succ count ih =>
      have split : 4 * (32 - count) = 4 * (31 - count) + 4 := by omega
      have next : 32 - (count + 1) = 31 - count := by omega
      rw [List.range_succ, List.map_append, List.foldl_append, ih (by omega), split, next,
        Nat.shiftRight_add]
      simp only [List.map_cons, List.map_nil, List.foldl_cons, List.foldl_nil,
        Nat.shiftRight_eq_div_pow _ 4]
      omega

theorem mapM_hexValue? {values : List Nat} (small : ∀ value ∈ values, value < 16) :
    (values.map hexDigit).mapM hexValue? = some values := by
  induction values with
  | nil => rfl
  | cons value rest ih =>
      rw [List.map_cons, List.mapM_cons, hexValue?_hexDigit (small value List.mem_cons_self),
        ih fun other member => small other (List.mem_cons_of_mem value member)]
      rfl

@[simp] theorem ofDigits?_digits (bits : BitVec 128) : ofDigits? (digits bits) = some bits := by
  have values : (digits bits).mapM hexValue? =
      some ((List.range 32).map fun i => (bits.toNat >>> (4 * (31 - i))) % 16) := by
    have spelled : digits bits =
        ((List.range 32).map fun i => (bits.toNat >>> (4 * (31 - i))) % 16).map hexDigit := by
      rw [List.map_map]
      rfl
    rw [spelled, mapM_hexValue?]
    intro value member
    obtain ⟨i, -, rfl⟩ := List.mem_map.mp member
    exact Nat.mod_lt _ (by decide)
  rw [ofDigits?, if_pos (length_digits bits), values, Option.map_some,
    foldl_digits (Nat.lt_of_lt_of_le bits.isLt (by decide)) (Nat.le_refl 32)]
  simp

/-! ## Texts -/

@[simp] theorem length_render (id : Identifier kind) : id.render.length = 36 := by
  have length := @length_hyphenated groups (digits id.bits) (by decide) (by simp [groups])
  simpa [render, groups] using length

@[simp] theorem parse_text (id : Identifier kind) : parse kind id.text = .ok id := by
  have grouped : ungrouped? groups id.render = some (digits id.bits) :=
    ungrouped?_hyphenated (by decide) (by simp [groups])
  simp [parse, text, written?, grouped]

@[simp] theorem read_write (id : Identifier kind) :
    (codec kind).read ((codec kind).write id) = .ok id := by
  simp only [codec, Json.Codec.spelled, parse_text]
  rfl

theorem text_injective {left right : Identifier kind} (same : left.text = right.text) :
    left = right := by
  have read := parse_text left
  rw [same, parse_text] at read
  exact (Except.ok.inj read).symm

end Gatehouse.Identifier
