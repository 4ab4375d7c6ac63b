import Gatehouse.Proofs.Encoding.Base64
import Gatehouse.Proofs.Token.Payloads
import Gatehouse.Token.Codec

/-!
# Checking tokens that were signed

A token that a codec signed for some claims passes every check of the codec but for
the expiry, and what is read of it are these claims. The check of the expiry takes the
leeway off the clock as an unsigned word, and is right as soon as the leeway has elapsed.
-/

namespace Gatehouse

namespace TokenCodec

/-! ## The parts of a token -/

/-- A text is cut at its last point. -/
theorem splitLast_append {before tail : List Char} (plain : '.' ∉ tail) :
    splitLast (before ++ '.' :: tail) = some (before, tail) := by
  have kept : ∀ c ∈ tail.reverse, (c != '.') = true := by
    intro c member
    rw [bne_iff_ne]
    rintro rfl
    exact plain (List.mem_reverse.mp member)
  have last : (before ++ '.' :: tail).reverse.takeWhile (· != '.') = tail.reverse := by
    rw [List.reverse_append, List.reverse_cons, List.append_assoc,
      List.takeWhile_append_of_pos kept, List.singleton_append,
      List.takeWhile_cons_of_neg (by simp), List.append_nil]
  have rest : (before ++ '.' :: tail).reverse.drop tail.reverse.length =
      '.' :: before.reverse := by
    rw [List.reverse_append, List.reverse_cons, List.append_assoc, List.drop_left,
      List.singleton_append]
  simp only [splitLast, last, rest, List.reverse_reverse]

theorem algorithmOfBytes?_text :
    TokenHeader.algorithmOfBytes? (bytesOfText (String.ofList TokenHeader.text)) =
      some .hs512 := by
  decide +kernel

/-- A token that was signed is refused only where it has expired. -/
theorem check_sign (codec : TokenCodec) (now : Int) (claims : Claims) :
    codec.check now (codec.sign claims) = codec.checkExpiry (.ofNat now.toNat) claims := by
  have signature : splitLast (codec.sign claims).toList =
      some (signingInput claims, codec.signature (signingInput claims)) := by
    rw [sign, String.toList_ofList]
    exact splitLast_append (Base64.point_not_mem_encode _)
  have payload : splitLast (signingInput claims) =
      some (Base64.url.encode (bytesOfText (String.ofList TokenHeader.text)),
        Base64.url.encode (bytesOfText claims.encode)) :=
    splitLast_append (Base64.point_not_mem_encode _)
  simp only [check, signature, payload, Base64.decode?_encode Base64.isSound_url,
    Option.bind_some, algorithmOfBytes?_text, Payload.claims?_encode, ne_eq, not_true_eq_false,
    if_false]

/-- A token that was signed is judged by its expiry alone. -/
theorem verify_sign_eq {codec : TokenCodec} {now : Int} {claims : Claims} :
    codec.signer.verify now (codec.sign claims) =
      (codec.checkExpiry (.ofNat now.toNat) claims).mapError TokenFault.toAuthFault := by
  simp only [signer, check_sign]

/-- Claims that are found to count are not altered. -/
theorem eq_of_checkExpiry {codec : TokenCodec} {second : UInt64} {claims shown : Claims}
    (counts : (codec.checkExpiry second claims).mapError TokenFault.toAuthFault = .ok shown) :
    shown = claims := by
  rw [checkExpiry] at counts
  split at counts
  · injection counts
  · split at counts
    · injection counts
    · exact (Except.ok.inj counts).symm

/-- Claims without an expiry do not count at any second. -/
theorem refused_of_checkExpiry {codec : TokenCodec} {second later : UInt64} {claims : Claims}
    {reason : String} (other : reason ≠ "token has expired")
    (refused : (codec.checkExpiry second claims).mapError TokenFault.toAuthFault =
      .error (.invalidToken reason)) :
    (codec.checkExpiry later claims).mapError TokenFault.toAuthFault =
      .error (.invalidToken reason) := by
  rw [checkExpiry] at refused
  split at refused
  · next negative => rwa [checkExpiry, if_pos negative]
  · split at refused
    · injection refused with refused
      injection refused with same
      exact absurd same.symm other
    · injection refused

/-- Claims that are read of a token that was signed are those it was signed for. -/
theorem verify_sign {codec : TokenCodec} {now : Int} {claims shown : Claims}
    (counts : codec.signer.verify now (codec.sign claims) = .ok shown) : shown = claims := by
  rw [verify_sign_eq] at counts
  exact eq_of_checkExpiry counts

/-! ## The leeway -/

variable {codec : TokenCodec} {now : Int} {claims : Claims}

/-- The clock, which shows unsigned words, has gone beyond the leeway. -/
structure Elapsed (codec : TokenCodec) (now : Int) : Prop where
  leeway : codec.leeway ≤ now
  represented : now < UInt64.size

/-- The leeway can be taken off the clock. -/
theorem Elapsed.ordered (elapsed : codec.Elapsed now) :
    UInt64.ofNat codec.leeway ≤ UInt64.ofNat now.toNat := by
  have behind := elapsed.leeway
  have represented := elapsed.represented
  rw [UInt64.le_iff_toNat_le, UInt64.toNat_ofNat_of_lt' (by omega),
    UInt64.toNat_ofNat_of_lt' (by omega)]
  omega

theorem Elapsed.toNat_sub (elapsed : codec.Elapsed now) :
    (UInt64.ofNat now.toNat - UInt64.ofNat codec.leeway).toNat = now.toNat - codec.leeway := by
  have behind := elapsed.leeway
  have represented := elapsed.represented
  rw [UInt64.toNat_sub_of_le _ _ elapsed.ordered, UInt64.toNat_ofNat_of_lt' (by omega),
    UInt64.toNat_ofNat_of_lt' (by omega)]

/-- From then on the words of the check find what the numbers say. -/
theorem checkExpiry_eq (elapsed : codec.Elapsed now) (claims : Claims) :
    codec.checkExpiry (.ofNat now.toNat) claims =
      if claims.expires.toInt < 0 then .error .missingExpiry
      else if claims.expires.toInt < now - codec.leeway then .error .expired
      else .ok claims := by
  have behind := elapsed.leeway
  rw [checkExpiry]
  by_cases negative : claims.expires.toInt < 0
  · rw [if_pos (Int64.lt_iff_toInt_lt.mpr negative), if_pos negative]
  · have nonnegative : 0 ≤ claims.expires := Int64.le_iff_toInt_le.mpr (Int.not_lt.mp negative)
    have word : claims.expires.toUInt64 < .ofNat now.toNat - .ofNat codec.leeway ↔
        claims.expires.toInt < now - codec.leeway := by
      rw [UInt64.lt_iff_toNat_lt, Int64.toNat_toUInt64_of_le nonnegative, elapsed.toNat_sub,
        ← Int64.toNat_toInt]
      omega
    rw [if_neg (mt Int64.lt_iff_toInt_lt.mp negative), if_neg negative]
    simp only [word]

theorem checkExpiry_of_negative {second : UInt64} (negative : claims.expires.toInt < 0) :
    codec.checkExpiry second claims = .error .missingExpiry := by
  rw [checkExpiry, if_pos (Int64.lt_iff_toInt_lt.mpr negative)]

theorem checkExpiry_of_current (elapsed : codec.Elapsed now)
    (nonnegative : 0 ≤ claims.expires.toInt) (current : now - codec.leeway ≤ claims.expires.toInt) :
    codec.checkExpiry (.ofNat now.toNat) claims = .ok claims := by
  rw [checkExpiry_eq elapsed, if_neg (Int.not_lt.mpr nonnegative), if_neg (Int.not_lt.mpr current)]

theorem checkExpiry_of_past (elapsed : codec.Elapsed now) (nonnegative : 0 ≤ claims.expires.toInt)
    (past : claims.expires.toInt < now - codec.leeway) :
    codec.checkExpiry (.ofNat now.toNat) claims = .error .expired := by
  rw [checkExpiry_eq elapsed, if_neg (Int.not_lt.mpr nonnegative), if_pos past]

theorem verify_sign_of_current (elapsed : codec.Elapsed now)
    (nonnegative : 0 ≤ claims.expires.toInt) (current : now - codec.leeway ≤ claims.expires.toInt) :
    codec.signer.verify now (codec.sign claims) = .ok claims := by
  rw [verify_sign_eq, checkExpiry_of_current elapsed nonnegative current]
  rfl

theorem verify_sign_of_past (elapsed : codec.Elapsed now)
    (nonnegative : 0 ≤ claims.expires.toInt)
    (past : claims.expires.toInt < now - codec.leeway) :
    codec.signer.verify now (codec.sign claims) = .error (.invalidToken "token has expired") := by
  rw [verify_sign_eq, checkExpiry_of_past elapsed nonnegative past]
  rfl

end TokenCodec

end Gatehouse
