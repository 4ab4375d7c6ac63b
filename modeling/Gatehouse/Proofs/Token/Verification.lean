import Gatehouse.Proofs.Token.Signing

/-!
# How tokens are judged

A token is refused over the first of its checks that it fails, and accepted if it fails
none. This module says so without the checking: which texts have the form of a token,
what their parts must spell, and which rule each outcome follows from. As one signature
only goes with a header and a payload, no token can be changed into another one that is
accepted too. A token that was signed is accepted as long as its claims count.

The clock is asked last, so what is refused before does not depend on it. It tells a second
that is right as soon as the leeway has elapsed.
-/

namespace Gatehouse

namespace TokenCodec

variable {codec : TokenCodec} {now : Int} {token : String} {claims : Claims}
  {header payload signature : List Char} {algorithm : Algorithm}

/-! ## The form of a token -/

theorem splitLast_of_plain {text : List Char} (plain : '.' ∉ text) : splitLast text = none := by
  have kept : ∀ c ∈ text.reverse, (c != '.') = true := by
    intro c member
    rw [bne_iff_ne]
    rintro rfl
    exact plain (List.mem_reverse.mp member)
  have whole : text.reverse.takeWhile (· != '.') = text.reverse := by
    rw [← List.append_nil text.reverse, List.takeWhile_append_of_pos kept]
    simp
  simp only [splitLast, whole, List.drop_length]

/-- A text is cut at its last point, or it has none. -/
theorem splitLast_cases (text : List Char) :
    ('.' ∉ text ∧ splitLast text = none) ∨ ∃ before tail, text = before ++ '.' :: tail ∧
      '.' ∉ tail ∧ splitLast text = some (before, tail) := by
  by_cases pointed : '.' ∈ text
  · have last := List.eq_append_cons_of_mem (List.mem_reverse.mpr pointed)
    rcases last with ⟨tail, before, split, plain⟩
    have joined : text = before.reverse ++ '.' :: tail.reverse := by
      rw [← List.reverse_reverse text, split]
      simp
    have plain : '.' ∉ tail.reverse := by
      rwa [List.mem_reverse]
    exact .inr ⟨before.reverse, tail.reverse, joined, plain, by
      rw [joined, splitLast_append plain]⟩
  · exact .inl ⟨pointed, splitLast_of_plain pointed⟩

/-- A token in three parts: the two points between them are the only ones. -/
structure Cut (token : String) (header payload signature : List Char) : Prop where
  joined : token.toList = header ++ '.' :: (payload ++ '.' :: signature)
  plainHeader : '.' ∉ header
  plainPayload : '.' ∉ payload
  plainSignature : '.' ∉ signature

/-- A header that names an algorithm. -/
def Names (header : List Char) (algorithm : Algorithm) : Prop :=
  ∃ bytes, header = Base64.url.encode bytes ∧
    TokenHeader.algorithmOfBytes? bytes = some algorithm

/-- The signature of a header and a payload under the secret of a codec. -/
def IsSigned (codec : TokenCodec) (header payload signature : List Char) : Prop :=
  signature = Base64.url.encode
    (Hmac.digest codec.secret (bytesOfText (String.ofList (header ++ '.' :: payload))))

/-- A payload that carries claims: a text that holds them, and that the second reading
gets through, too. -/
def Carries (payload : List Char) (claims : Claims) : Prop :=
  ∃ bytes, payload = Base64.url.encode bytes ∧ Claims.ofBytes? bytes = some claims ∧
    Payload.isValidatable bytes = true

/-- What becomes of a token by the clock: the rule of the first check that it fails, or
that of a token that fails none. -/
inductive Judged (codec : TokenCodec) (now : Int) (token : String) :
    Except AuthFault Claims → Prop where
  | shapeless
      (none : ∀ header payload signature algorithm, Cut token header payload signature →
        ¬ Names header algorithm) :
      Judged codec now token (.error (.invalidToken "invalid token format"))
  | otherAlgorithm {header payload signature : List Char} {algorithm : Algorithm}
      (cut : Cut token header payload signature) (names : Names header algorithm)
      (other : algorithm ≠ .hs512) :
      Judged codec now token (.error (.invalidToken "unexpected signing method"))
  | otherSignature {header payload signature : List Char}
      (cut : Cut token header payload signature) (names : Names header .hs512)
      (other : ¬ codec.IsSigned header payload signature) :
      Judged codec now token (.error (.invalidToken "invalid token signature"))
  | unreadable {header payload signature : List Char}
      (cut : Cut token header payload signature) (names : Names header .hs512)
      (signed : codec.IsSigned header payload signature)
      (none : ∀ claims, ¬ Carries payload claims) :
      Judged codec now token (.error (.invalidToken "invalid token format"))
  | endless {header payload signature : List Char} {claims : Claims}
      (cut : Cut token header payload signature) (names : Names header .hs512)
      (signed : codec.IsSigned header payload signature) (carries : Carries payload claims)
      (negative : claims.expires.toInt < 0) :
      Judged codec now token (.error (.invalidToken "missing required claim: exp"))
  | expired {header payload signature : List Char} {claims : Claims}
      (cut : Cut token header payload signature) (names : Names header .hs512)
      (signed : codec.IsSigned header payload signature) (carries : Carries payload claims)
      (nonnegative : 0 ≤ claims.expires.toInt)
      (past : claims.expires.toInt < now - codec.leeway) :
      Judged codec now token (.error (.invalidToken "token has expired"))
  | accepted {header payload signature : List Char} {claims : Claims}
      (cut : Cut token header payload signature) (names : Names header .hs512)
      (signed : codec.IsSigned header payload signature) (carries : Carries payload claims)
      (nonnegative : 0 ≤ claims.expires.toInt)
      (counts : now - codec.leeway ≤ claims.expires.toInt) :
      Judged codec now token (.ok claims)

/-! ## What the checks find -/

theorem bind_algorithm_eq_some_iff :
    (Base64.url.decode? header).bind TokenHeader.algorithmOfBytes? = some algorithm ↔
      Names header algorithm := by
  simp only [Option.bind_eq_some_iff, Base64.decode?_eq_some_iff Base64.isSound_url, Names]

theorem bind_payload_eq_some_iff :
    (Base64.url.decode? payload).bind Payload.claims? = some claims ↔ Carries payload claims := by
  simp only [Option.bind_eq_some_iff, Base64.decode?_eq_some_iff Base64.isSound_url,
    Payload.claims?_eq_some_iff, Carries]

theorem carries_encode_iff {bytes : Bytes} : Carries (Base64.url.encode bytes) claims ↔
    Claims.ofBytes? bytes = some claims ∧ Payload.isValidatable bytes = true := by
  rw [← bind_payload_eq_some_iff, Base64.decode?_encode Base64.isSound_url, Option.bind_some,
    Payload.claims?_eq_some_iff]

/-- An object whose issuer and date have values that are not nested too deep is the text of
a payload if claims are in it, and if issuer and date stand where they do no harm. -/
theorem carries_object_iff {bytes : Bytes} {members : List (Option String × Json.Written)}
    (isText : Json.IsText (.object members) bytes) (exact : Payload.AreExact members) :
    Carries (Base64.url.encode bytes) claims ↔
      claims.AreIn members ∧ Payload.ArePlain members := by
  have presents := Claims.isTextOf_object isText
  rw [carries_encode_iff]
  constructor
  · rintro ⟨read, validatable⟩
    have found := Claims.areIn presents read
    exact ⟨found, (Payload.isValidatable_iff isText found exact).mp validatable⟩
  · rintro ⟨found, plain⟩
    exact ⟨Claims.ofBytes?_eq_some_iff.mpr ⟨members, presents, found⟩,
      (Payload.isValidatable_iff isText found exact).mpr plain⟩

/-- No array is the text of a payload. -/
theorem not_carries_array {bytes : Bytes} {items : List Json.Written}
    (isText : Json.IsText (.array items) bytes) : ¬ Carries (Base64.url.encode bytes) claims := by
  rw [carries_encode_iff, Payload.isValidatable_array isText]
  exact fun carries => Bool.false_ne_true carries.2

/-! ## What the checks come to -/

/-- A token without the form of one, or with a header that names no algorithm, is refused
over its form. -/
theorem check_of_shapeless
    (none : ∀ header payload signature algorithm, Cut token header payload signature →
      ¬ Names header algorithm) : codec.check now token = .error .format := by
  rcases splitLast_cases token.toList with ⟨-, uncut⟩ | ⟨input, signature, joined, last, cut⟩
  · simp only [check, uncut]
  rcases splitLast_cases input with ⟨-, uncut⟩ | ⟨header, payload, rejoined, middle, recut⟩
  · simp only [check, cut, uncut]
  · have unnamed : (Base64.url.decode? header).bind TokenHeader.algorithmOfBytes? = .none := by
      rw [Option.eq_none_iff_forall_ne_some]
      intro algorithm named
      have names : Names header algorithm := bind_algorithm_eq_some_iff.mp named
      -- A point in front of the last two would be no digit of the header.
      have plain : '.' ∉ header := by
        rcases names with ⟨bytes, rfl, -⟩
        exact Base64.point_not_mem_encode bytes
      refine none header payload signature algorithm ⟨?_, plain, middle, last⟩ names
      rw [joined, rejoined, List.append_assoc, List.cons_append]
    simp only [check, cut, recut, unnamed]

theorem check_of_cut (cut : Cut token header payload signature)
    (names : Names header algorithm) :
    codec.check now token =
      if algorithm ≠ .hs512 then .error .algorithm
      else if signature ≠ codec.signature (header ++ '.' :: payload) then .error .signature
      else
        match (Base64.url.decode? payload).bind Payload.claims? with
        | none => .error .format
        | some claims => codec.checkExpiry (.ofNat now.toNat) claims := by
  have last : splitLast token.toList = some (header ++ '.' :: payload, signature) := by
    rw [cut.joined, ← List.cons_append, ← List.append_assoc]
    exact splitLast_append cut.plainSignature
  cases read : (Base64.url.decode? payload).bind Payload.claims? <;>
    simp only [check, last, splitLast_append cut.plainPayload,
      bind_algorithm_eq_some_iff.mpr names, read]

theorem check_of_otherAlgorithm (cut : Cut token header payload signature)
    (names : Names header algorithm) (other : algorithm ≠ .hs512) :
    codec.check now token = .error .algorithm := by
  rw [check_of_cut cut names, if_pos other]

theorem check_of_otherSignature (cut : Cut token header payload signature)
    (names : Names header .hs512) (other : ¬ codec.IsSigned header payload signature) :
    codec.check now token = .error .signature := by
  have differs : signature ≠ codec.signature (header ++ '.' :: payload) := other
  rw [check_of_cut cut names, if_neg (not_not_intro rfl), if_pos differs]

/-- A token with the right signature is judged by its payload. -/
theorem check_of_signed (cut : Cut token header payload signature)
    (names : Names header .hs512) (signed : codec.IsSigned header payload signature) :
    codec.check now token =
      match (Base64.url.decode? payload).bind Payload.claims? with
      | none => .error .format
      | some claims => codec.checkExpiry (.ofNat now.toNat) claims := by
  have same : ¬ signature ≠ codec.signature (header ++ '.' :: payload) := not_not_intro signed
  rw [check_of_cut cut names, if_neg (not_not_intro rfl), if_neg same]

theorem check_of_unreadable (cut : Cut token header payload signature)
    (names : Names header .hs512) (signed : codec.IsSigned header payload signature)
    (none : ∀ claims, ¬ Carries payload claims) : codec.check now token = .error .format := by
  have unread := Option.eq_none_iff_forall_ne_some.mpr fun claims shown =>
    none claims (bind_payload_eq_some_iff.mp shown)
  rw [check_of_signed cut names signed, unread]

/-- A token that fails none of the other checks is judged by its expiry. -/
theorem check_of_carries (cut : Cut token header payload signature)
    (names : Names header .hs512) (signed : codec.IsSigned header payload signature)
    (carries : Carries payload claims) :
    codec.check now token = codec.checkExpiry (.ofNat now.toNat) claims := by
  rw [check_of_signed cut names signed, bind_payload_eq_some_iff.mpr carries]

/-- The rule that holds of a token says what its check comes to. -/
theorem verify_of_judged {outcome : Except AuthFault Claims} (elapsed : codec.Elapsed now)
    (judged : Judged codec now token outcome) : codec.signer.verify now token = outcome := by
  simp only [signer]
  cases judged with
  | shapeless none =>
      rw [check_of_shapeless none]
      rfl
  | otherAlgorithm cut names other =>
      rw [check_of_otherAlgorithm cut names other]
      rfl
  | otherSignature cut names other =>
      rw [check_of_otherSignature cut names other]
      rfl
  | unreadable cut names signed none =>
      rw [check_of_unreadable cut names signed none]
      rfl
  | endless cut names signed carries negative =>
      rw [check_of_carries cut names signed carries, checkExpiry_of_negative negative]
      rfl
  | expired cut names signed carries nonnegative past =>
      rw [check_of_carries cut names signed carries, checkExpiry_of_past elapsed nonnegative past]
      rfl
  | accepted cut names signed carries nonnegative counts =>
      rw [check_of_carries cut names signed carries,
        checkExpiry_of_current elapsed nonnegative counts]
      rfl

/-- One of the rules holds of every token. -/
theorem exists_judged (codec : TokenCodec) (now : Int) (token : String) :
    ∃ outcome, Judged codec now token outcome := by
  by_cases shaped : ∃ header payload signature algorithm,
      Cut token header payload signature ∧ Names header algorithm
  · rcases shaped with ⟨header, payload, signature, algorithm, cut, names⟩
    by_cases same : algorithm = .hs512
    · rw [same] at names
      by_cases signed : codec.IsSigned header payload signature
      · by_cases shown : ∃ claims, Carries payload claims
        · rcases shown with ⟨claims, carries⟩
          rcases Int.lt_or_le claims.expires.toInt 0 with negative | nonnegative
          · exact ⟨_, .endless cut names signed carries negative⟩
          rcases Int.lt_or_le claims.expires.toInt (now - codec.leeway) with past | counts
          · exact ⟨_, .expired cut names signed carries nonnegative past⟩
          · exact ⟨_, .accepted cut names signed carries nonnegative counts⟩
        · exact ⟨_, .unreadable cut names signed fun claims carries => shown ⟨claims, carries⟩⟩
      · exact ⟨_, .otherSignature cut names signed⟩
    · exact ⟨_, .otherAlgorithm cut names same⟩
  · exact ⟨_, .shapeless fun header payload signature algorithm cut names =>
      shaped ⟨header, payload, signature, algorithm, cut, names⟩⟩

theorem verify_eq_iff_judged {outcome : Except AuthFault Claims} (elapsed : codec.Elapsed now) :
    codec.signer.verify now token = outcome ↔ Judged codec now token outcome := by
  constructor
  · intro verified
    rcases exists_judged codec now token with ⟨found, judged⟩
    rw [← verified, verify_of_judged elapsed judged]
    exact judged
  · exact verify_of_judged elapsed

/-- Either a token is refused whatever the clock shows, or the clock decides about the claims
that its payload carries. -/
theorem check_cases (codec : TokenCodec) (token : String) :
    (∃ fault, ∀ now, codec.check now token = .error fault) ∨
      ∃ header payload signature claims, Cut token header payload signature ∧
        Names header .hs512 ∧ codec.IsSigned header payload signature ∧ Carries payload claims ∧
          ∀ now, codec.check now token = codec.checkExpiry (.ofNat now.toNat) claims := by
  rcases exists_judged codec 0 token with ⟨outcome, judged⟩
  cases judged with
  | shapeless none => exact .inl ⟨_, fun _ => check_of_shapeless none⟩
  | otherAlgorithm cut names other =>
      exact .inl ⟨_, fun _ => check_of_otherAlgorithm cut names other⟩
  | otherSignature cut names other =>
      exact .inl ⟨_, fun _ => check_of_otherSignature cut names other⟩
  | unreadable cut names signed none =>
      exact .inl ⟨_, fun _ => check_of_unreadable cut names signed none⟩
  | endless cut names signed carries | expired cut names signed carries
  | accepted cut names signed carries =>
      exact .inr ⟨_, _, _, _, cut, names, signed, carries,
        fun _ => check_of_carries cut names signed carries⟩

/-! ## Tokens that are accepted -/

/-- The token of a header, a payload and a signature. -/
def assembled (header payload signature : List Char) : String :=
  String.ofList (header ++ '.' :: (payload ++ '.' :: signature))

/-- A token is cut into the parts that it was joined of. -/
theorem Cut.parts_eq {before middle behind : List Char}
    (cut : Cut (assembled before middle behind) header payload signature) :
    header = before ∧ payload = middle ∧ signature = behind := by
  have lists : before ++ '.' :: (middle ++ '.' :: behind) =
      header ++ '.' :: (payload ++ '.' :: signature) := by
    rw [← cut.joined, assembled, String.toList_ofList]
  -- Two points are all that there are, so no part has one.
  have points := congrArg (List.count '.') lists
  simp only [List.count_append, List.count_cons_self,
    List.count_eq_zero_of_not_mem cut.plainHeader, List.count_eq_zero_of_not_mem cut.plainPayload,
    List.count_eq_zero_of_not_mem cut.plainSignature] at points
  have plainMiddle : '.' ∉ middle := List.count_eq_zero.mp (by omega)
  have plainBehind : '.' ∉ behind := List.count_eq_zero.mp (by omega)
  simp only [← List.cons_append, ← List.append_assoc] at lists
  have lasts := congrArg splitLast lists
  rw [splitLast_append plainBehind, splitLast_append cut.plainSignature] at lasts
  injection lasts with lasts
  injection lasts with firsts lasts
  have middles := congrArg splitLast firsts
  rw [splitLast_append plainMiddle, splitLast_append cut.plainPayload] at middles
  injection middles with middles
  injection middles with firsts middles
  exact ⟨firsts.symm, middles.symm, lasts.symm⟩

/-- A header names one algorithm. -/
theorem Names.unique {other : Algorithm} (names : Names header algorithm)
    (also : Names header other) : other = algorithm := by
  have found := bind_algorithm_eq_some_iff.mpr names
  rw [bind_algorithm_eq_some_iff.mpr also] at found
  exact Option.some.inj found

/-- The parts of a token that is accepted. -/
theorem parts_of_accepted (accepted : codec.signer.verify now token = .ok claims) :
    ∃ header payload signature, Cut token header payload signature ∧ Names header .hs512 ∧
      codec.IsSigned header payload signature ∧ Carries payload claims := by
  simp only [signer] at accepted
  rcases check_cases codec token with ⟨fault, refused⟩ |
    ⟨header, payload, signature, carried, cut, names, signed, carries, same⟩
  · rw [refused] at accepted
    injection accepted
  · rw [same] at accepted
    obtain rfl := eq_of_checkExpiry accepted
    exact ⟨header, payload, signature, cut, names, signed, carries⟩

/-- How strict a codec is. -/
structure IsStrict (codec : TokenCodec) : Prop where
  /-- Each outcome follows from its rule, and from its rule only. -/
  judged : ∀ now token outcome, codec.Elapsed now →
    (codec.signer.verify now token = outcome ↔ Judged codec now token outcome)
  /-- What is refused over anything but its expiry is refused so whatever the clock shows. -/
  timeless : ∀ now later token reason, reason ≠ "token has expired" →
    codec.signer.verify now token = .error (.invalidToken reason) →
      codec.signer.verify later token = .error (.invalidToken reason)
  /-- The text of a payload is that of an object which claims are in, and in which issuer and
  date do no harm. -/
  object : ∀ bytes members claims, Json.IsText (.object members) bytes → Payload.AreExact members →
    (Carries (Base64.url.encode bytes) claims ↔ claims.AreIn members ∧ Payload.ArePlain members)
  /-- It is no array. -/
  array : ∀ bytes items claims, Json.IsText (.array items) bytes →
    ¬ Carries (Base64.url.encode bytes) claims
  /-- No header that names another algorithm is accepted. -/
  algorithm : ∀ now header payload signature algorithm claims, Names header algorithm →
    codec.signer.verify now (assembled header payload signature) = .ok claims → algorithm = .hs512
  /-- A header and a payload are accepted with one signature only. -/
  signature : ∀ now later header payload signature another claims others,
    codec.signer.verify now (assembled header payload signature) = .ok claims →
      codec.signer.verify later (assembled header payload another) = .ok others →
        another = signature

/-- Every codec accepts just the tokens that have the form of one, name its algorithm, are
signed with its secret and carry claims that count; it refuses the others over the first
of its checks that they fail. -/
theorem isStrict (codec : TokenCodec) : codec.IsStrict where
  judged _ _ _ := verify_eq_iff_judged
  timeless := by
    intro now later token reason other refused
    simp only [signer] at refused ⊢
    rcases check_cases codec token with ⟨fault, always⟩ |
      ⟨header, payload, signature, claims, -, -, -, -, same⟩
    · rwa [always] at refused ⊢
    · rw [same] at refused ⊢
      exact refused_of_checkExpiry other refused
  object _ _ _ := carries_object_iff
  array _ _ _ := not_carries_array
  algorithm := by
    intro now header payload signature algorithm claims names accepted
    rcases parts_of_accepted accepted with ⟨before, middle, behind, cut, hs512, -, -⟩
    rw [cut.parts_eq.1] at hs512
    exact hs512.unique names
  signature := by
    intro now later header payload signature another claims others accepted also
    rcases parts_of_accepted accepted with ⟨before, middle, behind, cut, -, signed, -⟩
    rcases parts_of_accepted also with ⟨_, _, _, recut, -, resigned, -⟩
    rcases cut.parts_eq with ⟨rfl, rfl, rfl⟩
    rcases recut.parts_eq with ⟨rfl, rfl, rfl⟩
    rw [IsSigned] at signed resigned
    rw [resigned, signed]

/-! ## Texts that decode as claims and are no payload -/

/-- Claims that count until the year 2100. -/
def lasting : Claims :=
  ⟨.ofTime .account 0x190a5f00000 1, .ofTime .session 0x190a5f01111 0xa1, 4102444800, []⟩

/-- The codec of a secret. -/
def sample : TokenCodec := ⟨bytesOfText "secret", 0⟩

/-- The header of the tokens that a codec signs. -/
def usualHeader : List Char := Base64.url.encode (bytesOfText (String.ofList TokenHeader.text))

/-- A token of a text, with the usual header and the right signature. -/
def signedText (text : String) : String :=
  let payload := Base64.url.encode (bytesOfText text)
  assembled usualHeader payload (sample.signature (usualHeader ++ '.' :: payload))

/-- A text that decodes as claims which count, and that is refused as a payload. -/
structure IsRefused (text : String) : Prop where
  decodes : Claims.ofBytes? (bytesOfText text) = some lasting
  refused : sample.signer.verify 1700000000 (signedText text) =
    .error (.invalidToken "invalid token format")

theorem isRefused_of_unread {text : String}
    (decodes : Claims.ofBytes? (bytesOfText text) = some lasting)
    (unread : Payload.claims? (bytesOfText text) = none) : IsRefused text where
  decodes := decodes
  refused := by
    have plain : '.' ∉ usualHeader := Base64.point_not_mem_encode _
    have none : ∀ claims, ¬ Carries (Base64.url.encode (bytesOfText text)) claims := by
      intro claims carries
      have found := bind_payload_eq_some_iff.mpr carries
      rw [Base64.decode?_encode Base64.isSound_url, Option.bind_some, unread] at found
      contradiction
    have cut : Cut (signedText text) usualHeader _ _ :=
      ⟨String.toList_ofList, plain, Base64.point_not_mem_encode _, Base64.point_not_mem_encode _⟩
    simp only [signer, check_of_unreadable cut ⟨_, rfl, algorithmOfBytes?_text⟩ rfl none]
    rfl

/-- The members of the lasting claims. -/
def lastingMembers : String :=
  "\"sub\":\"0190a5f0-0000-7000-8000-000000000001\"," ++
    "\"jti\":\"0190a5f0-1111-7000-8000-0000000000a1\",\"exp\":4102444800"

/-- The array form of the lasting claims. -/
def lastingItems : String :=
  "[\"0190a5f0-0000-7000-8000-000000000001\"," ++
    "\"0190a5f0-1111-7000-8000-0000000000a1\",4102444800]"

/-- A leeway that is beyond the clock. -/
def beyond : TokenCodec := ⟨bytesOfText "secret", 1700000001⟩

theorem verify_beyond :
    beyond.signer.verify 1700000000 (beyond.sign lasting) =
      .error (.invalidToken "token has expired") := by
  rw [verify_sign_eq]
  rfl

/-- The array form of claims decodes, and so do an issuer that is given twice and a date
in an array; but no token may have them as its payload. Nor is a token accepted under a
leeway that is beyond the clock, as their difference wraps around. -/
theorem decoded_but_refused : IsRefused lastingItems ∧
    IsRefused ("\x7b" ++ lastingMembers ++ ",\"iss\":\"a\",\"iss\":\"b\"\x7d") ∧
      IsRefused ("\x7b" ++ lastingMembers ++ ",\"nbf\":[0]\x7d") ∧
        beyond.signer.verify 1700000000 (beyond.sign lasting) =
          .error (.invalidToken "token has expired") :=
  ⟨isRefused_of_unread (by decide +kernel) (by decide +kernel),
    isRefused_of_unread (by decide +kernel) (by decide +kernel),
    isRefused_of_unread (by decide +kernel) (by decide +kernel), verify_beyond⟩

/-! ## Tokens that were signed -/

/-- What is accepted stays so at an earlier time and with more leeway. -/
theorem accepted_mono {other : TokenCodec} {earlier : Int} (elapsed : codec.Elapsed now)
    (also : other.Elapsed earlier) (secret : other.secret = codec.secret)
    (leeway : codec.leeway ≤ other.leeway) (sooner : earlier ≤ now)
    (accepted : codec.signer.verify now token = .ok claims) :
    other.signer.verify earlier token = .ok claims := by
  cases (verify_eq_iff_judged elapsed).mp accepted with
  | @accepted header payload signature _ cut names signed carries nonnegative counts =>
      have resigned : IsSigned other header payload signature := by
        rw [IsSigned, secret]
        exact signed
      have recounts : earlier - other.leeway ≤ claims.expires.toInt := by omega
      exact verify_of_judged also (.accepted cut names resigned carries nonnegative recounts)

/-- What a token is worth that was signed for claims, once the leeway has elapsed. -/
structure IsGoodFor (codec : TokenCodec) (claims : Claims) (token : String) : Prop where
  counts : ∀ now : Int, codec.Elapsed now → (codec.signer.verify now token = .ok claims ↔
    0 ≤ claims.expires.toInt ∧ now - codec.leeway ≤ claims.expires.toInt)
  endless : ∀ now : Int, claims.expires.toInt < 0 →
    codec.signer.verify now token = .error (.invalidToken "missing required claim: exp")
  expired : ∀ now : Int, codec.Elapsed now → 0 ≤ claims.expires.toInt →
    claims.expires.toInt < now - codec.leeway →
      codec.signer.verify now token = .error (.invalidToken "token has expired")
  /-- No claim is altered. -/
  unaltered : ∀ now shown, codec.signer.verify now token = .ok shown → shown = claims
  /-- More leeway and an earlier time do not harm. -/
  monotone : ∀ (other : TokenCodec) (now earlier : Int), codec.Elapsed now →
    other.Elapsed earlier → other.secret = codec.secret → codec.leeway ≤ other.leeway →
      earlier ≤ now → codec.signer.verify now token = .ok claims →
        other.signer.verify earlier token = .ok claims

/-- Claims can be signed, whatever they are, and the token is accepted until its expiry
with the leeway is over, and then refused. -/
theorem signed_isGoodFor (codec : TokenCodec) (claims : Claims) :
    ∃ token, codec.signer.sign claims = .ok token ∧ codec.IsGoodFor claims token := by
  refine ⟨codec.sign claims, rfl, ?_⟩
  constructor
  · intro now elapsed
    constructor
    · intro accepted
      cases (verify_eq_iff_judged elapsed).mp accepted with
      | accepted cut names signed carries nonnegative counts => exact ⟨nonnegative, counts⟩
    · intro counts
      exact verify_sign_of_current elapsed counts.1 counts.2
  · intro now negative
    rw [verify_sign_eq, checkExpiry_of_negative negative]
    rfl
  · intro now elapsed nonnegative past
    exact verify_sign_of_past elapsed nonnegative past
  · intro now shown
    exact verify_sign
  · intro other now earlier elapsed also secret leeway sooner accepted
    exact accepted_mono elapsed also secret leeway sooner accepted

end TokenCodec

end Gatehouse
