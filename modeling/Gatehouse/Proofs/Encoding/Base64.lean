import Gatehouse.Encoding.Base64

/-!
# Reading base 64 that was written

The digits of some bytes are read as these bytes, over every alphabet whose digits have
the values that they are written for, and no other digits are read as them. The bytes are
cut into values of six bits, and the values into digits.
-/

namespace Gatehouse.Base64

/-- Every digit of an alphabet has the value that it is written for. -/
def IsSound (alphabet : Base64) : Prop :=
  ∀ value < 64, alphabet.value? (alphabet.digit value) = some value

theorem isSound_url : url.IsSound := by
  unfold IsSound
  decide

theorem isSound_plain : plain.IsSound := by
  unfold IsSound
  decide

variable {alphabet : Base64}

/-- Bytes in values of six bits. -/
def sextets : Bytes → List Nat
  | [] => []
  | [a] => [a.toNat / 4, a.toNat % 4 * 16]
  | [a, b] => [a.toNat / 4, a.toNat % 4 * 16 + b.toNat / 16, b.toNat % 16 * 4]
  | a :: b :: c :: rest =>
      a.toNat / 4 :: (a.toNat % 4 * 16 + b.toNat / 16) :: (b.toNat % 16 * 4 + c.toNat / 64) ::
        c.toNat % 64 :: sextets rest

theorem encode_eq (alphabet : Base64) (bytes : Bytes) :
    alphabet.encode bytes = (sextets bytes).map alphabet.digit := by
  induction bytes using sextets.induct with
  | case1 => rfl
  | case2 a => rfl
  | case3 a b => rfl
  | case4 a b c rest ih => simp [encode, sextets, ih]

theorem sextets_lt (bytes : Bytes) : ∀ value ∈ sextets bytes, value < 64 := by
  induction bytes using sextets.induct with
  | case1 => simp [sextets]
  | case2 a =>
      have bound := a.toNat_lt
      simp only [sextets, List.forall_mem_cons]
      exact ⟨by omega, by omega, by simp⟩
  | case3 a b =>
      have boundA := a.toNat_lt
      have boundB := b.toNat_lt
      simp only [sextets, List.forall_mem_cons]
      exact ⟨by omega, by omega, by omega, by simp⟩
  | case4 a b c rest ih =>
      have boundA := a.toNat_lt
      have boundB := b.toNat_lt
      have boundC := c.toNat_lt
      simp only [sextets, List.forall_mem_cons]
      exact ⟨by omega, by omega, by omega, by omega, ih⟩

/-- A byte is put together of its parts. -/
theorem toUInt8_eq (byte : UInt8) {value : Nat} (same : value = byte.toNat) :
    value.toUInt8 = byte := by
  rw [same]
  exact UInt8.ofNat_toNat

theorem ofValues?_sextets (bytes : Bytes) : ofValues? (sextets bytes) = some bytes := by
  induction bytes using sextets.induct with
  | case1 => rfl
  | case2 a =>
      rw [sextets, ofValues?, if_pos (by omega), toUInt8_eq a (by omega)]
  | case3 a b =>
      have bound := b.toNat_lt
      rw [sextets, ofValues?, if_pos (by omega), toUInt8_eq a (by omega),
        toUInt8_eq b (by omega)]
  | case4 a b c rest ih =>
      have boundB := b.toNat_lt
      have boundC := c.toNat_lt
      rw [sextets, ofValues?, ih, Option.map_some, toUInt8_eq a (by omega),
        toUInt8_eq b (by omega), toUInt8_eq c (by omega)]

theorem mapM_value?_digits (sound : alphabet.IsSound) {values : List Nat}
    (small : ∀ value ∈ values, value < 64) :
    (values.map alphabet.digit).mapM alphabet.value? = some values := by
  induction values with
  | nil => rfl
  | cons value rest ih =>
      obtain ⟨head, tail⟩ := List.forall_mem_cons.mp small
      rw [List.map_cons, List.mapM_cons, sound value head, ih tail]
      rfl

/-- The digits of some bytes spell these bytes. -/
theorem decode?_encode (sound : alphabet.IsSound) (bytes : Bytes) :
    alphabet.decode? (alphabet.encode bytes) = some bytes := by
  rw [decode?, encode_eq, mapM_value?_digits sound (sextets_lt bytes)]
  exact ofValues?_sextets bytes

/-! ## What is written in them only -/

/-- A character that has a value is the digit of this value. -/
theorem digit_of_value? {c : Char} {value : Nat} (valued : alphabet.value? c = some value) :
    value < 64 ∧ alphabet.digit value = c := by
  simp only [value?] at valued
  split at valued
  · next upper =>
      have low : 65 ≤ c.toNat := upper.1
      have high : c.toNat ≤ 90 := upper.2
      cases valued
      constructor
      · omega
      · rw [digit, if_pos (by omega), Nat.add_sub_cancel' low, Char.ofNat_toNat]
  split at valued
  · next lower =>
      have low : 97 ≤ c.toNat := lower.1
      have high : c.toNat ≤ 122 := lower.2
      cases valued
      constructor
      · omega
      · rw [digit, if_neg (by omega), if_pos (by omega), Nat.add_sub_cancel' (by omega),
          Char.ofNat_toNat]
  split at valued
  · next decimal =>
      have low : 48 ≤ c.toNat := decimal.1
      have high : c.toNat ≤ 57 := decimal.2
      cases valued
      constructor
      · omega
      · rw [digit, if_neg (by omega), if_neg (by omega), if_pos (by omega),
          Nat.add_sub_cancel, Char.ofNat_toNat]
  split at valued
  · next same =>
      cases valued
      exact ⟨by decide, same.symm⟩
  split at valued
  · next same =>
      cases valued
      exact ⟨by decide, same.symm⟩
  · contradiction

theorem toNat_toUInt8 {value : Nat} (small : value < 256) : value.toUInt8.toNat = value :=
  UInt8.toNat_ofNat_of_lt' small

/-- Values of six bits that spell bytes are those that the bytes are cut into: the bits
that are left over are zero. -/
theorem eq_sextets {values : List Nat} {bytes : Bytes} (small : ∀ value ∈ values, value < 64)
    (spelled : ofValues? values = some bytes) : values = sextets bytes := by
  induction values using ofValues?.induct generalizing bytes with
  | case1 =>
      cases spelled
      rfl
  | case2 v => contradiction
  | case3 v w zero =>
      simp only [List.forall_mem_cons] at small
      rw [ofValues?, if_pos zero] at spelled
      rw [← Option.some.inj spelled, sextets, toNat_toUInt8 (by omega)]
      simp only [List.cons.injEq, and_true]
      omega
  | case4 v w nonzero =>
      rw [ofValues?, if_neg nonzero] at spelled
      contradiction
  | case5 v w x zero =>
      simp only [List.forall_mem_cons] at small
      rw [ofValues?, if_pos zero] at spelled
      rw [← Option.some.inj spelled, sextets, toNat_toUInt8 (by omega), toNat_toUInt8 (by omega)]
      simp only [List.cons.injEq, and_true]
      omega
  | case6 v w x nonzero =>
      rw [ofValues?, if_neg nonzero] at spelled
      contradiction
  | case7 v w x y rest ih =>
      simp only [List.forall_mem_cons] at small
      simp only [ofValues?, Option.map_eq_some_iff] at spelled
      cases spelled with
      | intro others spelled =>
          rw [← spelled.2, sextets, toNat_toUInt8 (by omega), toNat_toUInt8 (by omega),
            toNat_toUInt8 (by omega), ← ih small.2.2.2.2 spelled.1]
          simp only [List.cons.injEq, and_true]
          omega

theorem map_digit_of_mapM_value? {digits : List Char} {values : List Nat}
    (valued : digits.mapM alphabet.value? = some values) :
    (∀ value ∈ values, value < 64) ∧ values.map alphabet.digit = digits := by
  induction digits generalizing values with
  | nil =>
      cases valued
      simp
  | cons c rest ih =>
      simp only [List.mapM_cons, Option.bind_eq_bind, Option.bind_eq_some_iff, Option.pure_def,
        Option.some.injEq] at valued
      rcases valued with ⟨value, head, others, tail, rfl⟩
      have first := digit_of_value? head
      have later := ih tail
      constructor
      · exact List.forall_mem_cons.mpr ⟨first.1, later.1⟩
      · rw [List.map_cons, first.2, later.2]

/-- Bytes are spelled by one text only, that in which they are written. -/
theorem decode?_eq_some_iff (sound : alphabet.IsSound) {digits : List Char} {bytes : Bytes} :
    alphabet.decode? digits = some bytes ↔ digits = alphabet.encode bytes := by
  constructor
  · intro spelled
    rcases Option.bind_eq_some_iff.mp spelled with ⟨values, valued, bytesOf⟩
    have digitsOf := map_digit_of_mapM_value? valued
    rw [encode_eq, ← eq_sextets digitsOf.1 bytesOf, digitsOf.2]
  · intro written
    rw [written, decode?_encode sound]

/-! ## Which digits there are -/

/-- What holds of all digits holds of what is written in them. -/
theorem all_encode {holds : Char → Bool}
    (digits : ∀ value < 64, holds (alphabet.digit value) = true) (bytes : Bytes) :
    (alphabet.encode bytes).all holds = true := by
  rw [encode_eq, List.all_eq_true]
  intro c member
  obtain ⟨value, among, rfl⟩ := List.mem_map.mp member
  exact digits value (sextets_lt bytes value among)

theorem length_encode (alphabet : Base64) (bytes : Bytes) :
    (alphabet.encode bytes).length = (4 * bytes.length + 2) / 3 := by
  rw [encode_eq, List.length_map]
  induction bytes using sextets.induct with
  | case1 => rfl
  | case2 a => simp [sextets]
  | case3 a b => simp [sextets]
  | case4 a b c rest ih =>
      simp only [sextets, List.length_cons, ih]
      omega

/-- No digit for URLs is a point. -/
theorem point_not_mem_encode (bytes : Bytes) : '.' ∉ url.encode bytes := by
  have digits : ∀ value < 64, (url.digit value != '.') = true := by decide
  have plain : (url.encode bytes).all (· != '.') = true := all_encode digits bytes
  intro member
  have apart := List.all_eq_true.mp plain '.' member
  simp at apart

end Gatehouse.Base64
