import Gatehouse.Password
import Gatehouse.Proofs.Password.Grammar

/-!
# Hash texts read back

The text of a hash that was made for a password is read as this hash, whatever the
digest comes to, since the digest has the length that the costs give. A password is verified
against the hash that a text writes, and no password against a text that writes none.
-/

namespace Gatehouse

/-! ## The lengths of digests -/

namespace Blake2b

@[simp] theorem size_compress (chain : Array UInt64) (block : Bytes) (passed : Nat) (last : Bool) :
    (compress chain block passed last).size = 8 := by
  simp [compress]

@[simp] theorem size_absorb (chain : Array UInt64) (passed : Nat) (blocks : List Bytes) :
    (absorb chain passed blocks).size = 8 := by
  induction chain, passed, blocks using absorb.induct with
  | case1 chain passed => exact size_compress _ _ _ _
  | case2 chain passed block => exact size_compress _ _ _ _
  | case3 chain passed block rest _ ih => rw [absorb, ih]; assumption

theorem length_flatMap_bytesLowFirst (words : List UInt64) :
    (words.flatMap bytesLowFirst).length = 8 * words.length := by
  induction words with
  | nil => rfl
  | cons word rest ih =>
      simp only [List.flatMap_cons, List.length_append, ih, List.length_cons]
      have eight : (bytesLowFirst word).length = 8 := rfl
      omega

theorem length_digest {length : Nat} (short : length ≤ 64) (message : Bytes) :
    (digest length message).length = length := by
  rw [digest, List.length_take, length_flatMap_bytesLowFirst, Array.length_toList, size_absorb]
  omega

end Blake2b

theorem Argon2.length_digest {params : Params} (short : params.length ≤ 64)
    (password salt : Bytes) : (digest params password salt).length = params.length := by
  rw [digest, longDigest, if_pos short, Blake2b.length_digest short]

/-! ## Texts of hashes -/

namespace PasswordHash

/-- The text of a hash at the costs of new hashes writes the hash. -/
theorem writes_text {salt digest : Bytes} (salted : salt.length = 16)
    (digested : digest.length = Password.costs.length) :
    Writes (text ⟨Password.costs, salt, digest⟩).toList ⟨Password.costs, salt, digest⟩ := by
  have length : digest.length = 32 := digested
  have version : Versioned 19 ["v=".toList ++ Nat.toDigits 10 19] := .present (.inr rfl)
  have sets : SetsAll (defaults .hybrid 19 digest.length)
      ("m=".toList ++ Nat.toDigits 10 19456 ++ ',' :: ("t=".toList ++ Nat.toDigits 10 2 ++
        ',' :: ("p=".toList ++ Nat.toDigits 10 1))) Password.costs := by
    rw [length]
    exact .more (.memory (by decide)) (.more (.passes (by decide)) (.one (.lanes (by decide))))
  have saltBounds : 8 ≤ salt.length ∧ salt.length ≤ 48 := by omega
  have digestBounds : 10 ≤ digest.length ∧ digest.length ≤ 64 := by omega
  have writes := Writes.intro version (.present (by decide) sets) saltBounds digestBounds
    (by decide) (by decide) (by decide)
  rw [text, String.toList_ofList]
  simpa [render, Password.costs, defaults] using writes

/-- The text of a hash at the costs of new hashes is read as the hash. -/
theorem parse?_text {salt digest : Bytes} (salted : salt.length = 16)
    (digested : digest.length = Password.costs.length) :
    parse? (text ⟨Password.costs, salt, digest⟩) = some ⟨Password.costs, salt, digest⟩ :=
  parse?_eq_some_iff.mpr (writes_text salted digested)

end PasswordHash

/-- A password belongs to the hashes that are made for it. -/
theorem Password.verify_hash {salt : Bytes} (salted : salt.length = 16) (password : String) :
    verify (hash password salt) password = true := by
  have short : costs.length ≤ 64 := by decide
  have digested := Argon2.length_digest short (bytesOfText password) salt
  rw [verify, hash, hashed, PasswordHash.parse?_text salted digested]
  exact beq_self_eq_true _

/-- Hash texts are read by their grammar. The text that is made for a password is read as the
hash it was made of, and the password belongs to it. A password belongs to a text if and only if
the text writes a hash with the digest that the password has at the costs and with the salt of
that hash, so it belongs to no text that writes none. -/
structure Password.VerifiesHashes : Prop where
  reads : ∀ text hash, PasswordHash.parse? text = some hash ↔ PasswordHash.Writes text.toList hash
  returns : ∀ password (salt : Bytes), salt.length = 16 →
    PasswordHash.parse? (hash password salt) =
      some ⟨costs, salt, Argon2.digest costs (bytesOfText password) salt⟩
  matchesOwn : ∀ password (salt : Bytes), salt.length = 16 →
    verify (hash password salt) password = true
  verifies : ∀ text password, verify text password = true ↔
    ∃ hash, PasswordHash.Writes text.toList hash ∧
      Argon2.digest hash.params (bytesOfText password) hash.salt = hash.digest
  malformed : ∀ text, (∀ hash, ¬ PasswordHash.Writes text.toList hash) →
    ∀ password, verify text password = false

theorem Password.verifies_hashes : VerifiesHashes := by
  constructor
  · intro text hash
    exact PasswordHash.parse?_eq_some_iff
  · intro password salt salted
    have short : costs.length ≤ 64 := by decide
    exact PasswordHash.parse?_text salted (Argon2.length_digest short (bytesOfText password) salt)
  · intro password salt salted
    exact verify_hash salted password
  · intro text password
    rw [verify]
    cases read : PasswordHash.parse? text with
    | none =>
        constructor
        · exact nofun
        · rintro ⟨hash, writes, -⟩
          rw [PasswordHash.parse?_eq_some_iff.mpr writes] at read
          contradiction
    | some parsed =>
        constructor
        · intro belongs
          exact ⟨parsed, PasswordHash.parse?_eq_some_iff.mp read, beq_iff_eq.mp belongs⟩
        · rintro ⟨hash, writes, same⟩
          rw [PasswordHash.parse?_eq_some_iff.mpr writes] at read
          obtain rfl := Option.some.inj read
          exact beq_iff_eq.mpr same
  · intro text strange password
    rw [verify]
    cases read : PasswordHash.parse? text with
    | none => rfl
    | some parsed => exact absurd (PasswordHash.parse?_eq_some_iff.mp read) (strange parsed)

end Gatehouse
