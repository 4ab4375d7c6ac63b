import Gatehouse.Proofs.Call.Credentials
import Gatehouse.Proofs.Encoding.Base64
import Gatehouse.Token.Codec

/-!
# Presenting credentials

A call presents its credential in a header, behind a scheme. Characters of ASCII that are
neither blank nor invisible arrive there as they were sent, and a token that was signed is
made of such characters, so that whoever is given one can present it.
-/

namespace Gatehouse

namespace Credential

/-- The headers that present a credential. -/
def headers (token : String) : Headers :=
  .ofList [("Authorization", bytesOfText (String.ofList (scheme ++ token.toList)))]

/-- A credential of visible characters arrives as it was sent. -/
theorem ofHeaders_headers {token : String} (filled : token.toList ≠ [])
    (marks : ∀ c ∈ token.toList, IsMark c) : ofHeaders (headers token) = .ok token := by
  have name : lowerAscii "Authorization" = "authorization" := by decide
  rw [headers, bytesOfText_scheme marks]
  exact ofHeaders_of_presents ⟨[], _, [], rfl, name, by simp⟩
    (presents_scheme (by simpa using filled) marks)

end Credential

/-- A token that was signed can be presented. -/
theorem TokenCodec.presented_sign (codec : TokenCodec) (claims : Claims) :
    Credential.ofHeaders (Credential.headers (codec.sign claims)) = .ok (codec.sign claims) := by
  have digits : ∀ bytes, ∀ c ∈ Base64.url.encode bytes, IsMark c := by
    intro bytes c among
    have marks : (Base64.url.encode bytes).all (fun c => decide (IsMark c)) = true :=
      Base64.all_encode (by decide) bytes
    exact of_decide_eq_true (List.all_eq_true.mp marks c among)
  have point : IsMark '.' := by decide
  apply Credential.ofHeaders_headers
  · simp [sign]
  · intro c among
    simp only [sign, signingInput, signature, String.toList_ofList, List.mem_append,
      List.mem_cons] at among
    rcases among with (header | rfl | payload) | rfl | signature
    · exact digits _ c header
    · exact point
    · exact digits _ c payload
    · exact point
    · exact digits _ c signature

end Gatehouse
