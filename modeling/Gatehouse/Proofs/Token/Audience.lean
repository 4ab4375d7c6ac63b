import Gatehouse.Proofs.Token.ClaimTexts
import Gatehouse.Proofs.Token.Issuing

/-!
# Credentials that name no role

A credential names its role by the first entry of its audience. The audience may be left
out, and it may be empty or begin with the empty name; the refresh credential of every pair
leaves it out. However it comes about, whatever is read of such a credential names no role.
-/

namespace Gatehouse

/-! ## Audiences without a role -/

/-- Claims that name no role: their audience is empty or begins with the empty name. -/
def Claims.IsRoleless (claims : Claims) : Prop :=
  claims.audience = [] ∨ ∃ rest, claims.audience = ⟨""⟩ :: rest

theorem Claims.IsRoleless.name {claims : Claims} (roleless : claims.IsRoleless) :
    claims.role.name = "" := by
  rcases roleless with none | ⟨rest, first⟩
  · rw [role, none]
    rfl
  · rw [role, first]
    rfl

/-- Members of which none is an audience that names a role: it is absent, an empty array, or
an array that begins with the empty text. -/
def LackRole (members : List (Option String × Json.Written)) : Prop :=
  ∀ value, (some "aud", value) ∈ members →
    value = .array [] ∨ ∃ rest, value = .array (.string (some "") :: rest)

/-- What is read of members that lack a role names none. -/
theorem Claims.isRoleless_of_lackRole {bytes : Bytes}
    {members : List (Option String × Json.Written)} {claims : Claims}
    (written : Json.Written.ofBytes? bytes = some (.object members)) (lack : LackRole members)
    (shown : Claims.ofBytes? bytes = some claims) : claims.IsRoleless := by
  have isText := isTextOf_object (Json.ofBytes?_eq_some_iff.mp written)
  rcases (areIn isText shown).audience with ⟨-, none⟩ | listed
  · exact .inl none
  · have among := Json.Record.mem_under.mp (listed ▸ List.mem_singleton_self _)
    rcases lack _ among with same | ⟨rest, same⟩
    · injection same with same
      exact .inl (List.map_eq_nil_iff.mp same)
    · injection same with same
      obtain ⟨first, others, shape, named, -⟩ := List.map_eq_cons_iff.mp same
      injection named with named
      rw [Claims.IsRoleless, shape, ← Option.some.inj named]
      exact .inr ⟨others, rfl⟩

/-! ## Credentials without a role -/

namespace TokenCodec

variable {codec issuing : TokenCodec} {now : Int} {token : String} {claims others : Claims}
  {header payload signature before middle behind : List Char}

/-- A token has one header, one payload and one signature. -/
theorem Cut.unique (cut : Cut token header payload signature)
    (also : Cut token before middle behind) :
    before = header ∧ middle = payload ∧ behind = signature := by
  have joined : token = assembled header payload signature := by
    rw [assembled, ← cut.joined, String.ofList_toList]
  rw [joined] at also
  exact also.parts_eq

/-- A payload carries one set of claims. -/
theorem Carries.unique (carries : Carries payload claims) (also : Carries payload others) :
    others = claims := by
  have shown := bind_payload_eq_some_iff.mpr also
  rw [bind_payload_eq_some_iff.mpr carries] at shown
  exact (Option.some.inj shown).symm

/-- A token is accepted for the claims that its payload carries. -/
theorem Cut.carries (cut : Cut token header payload signature)
    (accepted : codec.signer.verify now token = .ok claims) : Carries payload claims := by
  obtain ⟨_, _, _, also, -, -, carries⟩ := parts_of_accepted accepted
  obtain ⟨-, rfl, -⟩ := cut.unique also
  exact carries

/-- What was signed is accepted for nothing but what it was signed for, whatever the secret
that it is checked against. -/
theorem claims_eq_of_sign (accepted : codec.signer.verify now (issuing.sign others) = .ok claims) :
    claims = others := by
  have cut : Cut (issuing.sign others)
      (Base64.url.encode (bytesOfText (String.ofList TokenHeader.text)))
      (Base64.url.encode (bytesOfText others.encode))
      (issuing.signature (signingInput others)) := by
    refine ⟨?_, Base64.point_not_mem_encode _, Base64.point_not_mem_encode _,
      Base64.point_not_mem_encode _⟩
    rw [sign, String.toList_ofList]
    simp only [signingInput, List.append_assoc, List.cons_append]
  have carries : Carries (Base64.url.encode (bytesOfText others.encode)) others := by
    rw [← bind_payload_eq_some_iff, Base64.decode?_encode Base64.isSound_url, Option.bind_some]
    exact Payload.claims?_encode others
  exact carries.unique (cut.carries accepted)

/-- Credentials that name no role, to one who checks them with a codec. -/
inductive IsRoleless (codec : TokenCodec) : String → Prop where
  /-- A login or a renewal has given it out to be renewed by, under any secret, whatever the
  states that it met with. -/
  | issued {service : TokenService} {issuing : TokenCodec} {states : List Site} {call : SessionCall}
      {answer : call.Answer} {pair : TokenPair} (signs : service.signer = issuing.signer)
      (comes : (service.workload.program call).ComesTo states answer)
      (given : call.pair? answer = some pair) : IsRoleless codec pair.refreshToken
  /-- It has a payload in which no audience names a role. -/
  | unnamed {token : String} {header payload signature : List Char} {bytes : Bytes}
      {members : List (Option String × Json.Written)}
      (cut : Cut token header payload signature) (encodes : payload = Base64.url.encode bytes)
      (written : Json.Written.ofBytes? bytes = some (.object members))
      (lack : LackRole members) : IsRoleless codec token
  /-- It is accepted at some second, for claims that name no role. -/
  | shown {token : String} {second : Int} {claims : Claims}
      (accepted : codec.signer.verify second token = .ok claims)
      (roleless : claims.IsRoleless) : IsRoleless codec token

/-- Such a credential is accepted for claims without a role only. -/
theorem IsRoleless.of_verify (roleless : codec.IsRoleless token)
    (accepted : codec.signer.verify now token = .ok claims) : claims.IsRoleless := by
  cases roleless with
  | issued signs comes given =>
      obtain ⟨account, made, timed, -, signed⟩ := TokenService.entitles_of_given comes given
      obtain ⟨refreshed, _, refreshToken, _, -, -, ends, -, rfl⟩ :=
        TokenService.signPair_eq_ok signed
      rw [signs] at ends
      obtain rfl := Except.ok.inj ends
      rw [claims_eq_of_sign accepted]
      exact .inl rfl
  | unnamed cut encodes written lack =>
      have found := bind_payload_eq_some_iff.mpr (cut.carries accepted)
      rw [encodes, Base64.decode?_encode Base64.isSound_url, Option.bind_some,
        Payload.claims?_eq_some_iff] at found
      exact Claims.isRoleless_of_lackRole written lack found.1
  | shown also roleless =>
      obtain ⟨_, _, _, cut, -, -, carries⟩ := parts_of_accepted also
      rw [carries.unique (cut.carries accepted)]
      exact roleless

/-- A credential that does not count is an invalid one. -/
theorem invalid_of_verify {checker : Signer} {fault : AuthFault} (signs : checker = codec.signer)
    (refused : checker.verify now token = .error fault) :
    ∃ reason, fault = .invalidToken reason := by
  rw [signs] at refused
  cases checked : codec.check now token with
  | error found =>
      simp only [signer, checked] at refused
      exact ⟨found.message, (Except.error.inj refused).symm⟩
  | ok claims =>
      simp only [signer, checked] at refused
      injection refused

end TokenCodec

end Gatehouse
