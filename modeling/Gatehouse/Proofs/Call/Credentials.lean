import Gatehouse.Call
import Gatehouse.Proofs.Text.Bytes
import Gatehouse.Proofs.Text.NormalForm
import Mathlib.Data.List.Basic
import Mathlib.Data.List.TakeWhile

/-!
# Credentials in the headers of a call

Of all headers only the first value under the name `authorization` counts. It presents a
credential if it is a text of ASCII in which the scheme stands in front of the first space
and something but blanks behind it. What is found is the text between these blanks, and
where nothing is found the fault tells a missing value from one of another form.
-/

namespace Gatehouse

/-! ## ASCII texts -/

/-- An ASCII text is written with a byte for each character. -/
theorem bytesOfChars_ascii {text : List Char} (ascii : ∀ c ∈ text, c.toNat < 128) :
    bytesOfChars text = asciiBytes text := by
  induction text with
  | nil => rfl
  | cons c rest ih =>
      obtain ⟨first, others⟩ := List.forall_mem_cons.mp ascii
      rw [bytesOfChars_cons, utf8EncodeChar_ascii first, ih others]
      rfl

/-- ASCII bytes are read as the characters that they stand for. -/
theorem map_ofNat_asciiBytes {text : List Char} (ascii : ∀ c ∈ text, c.toNat < 128) :
    (asciiBytes text).map (fun b => Char.ofNat b.toNat) = text := by
  rw [asciiBytes, List.map_map]
  refine (List.map_congr_left fun c among => ?_).trans (List.map_id _)
  exact @holds_of_ascii (fun c => Char.ofNat c.toNat.toUInt8.toNat = c) (by decide) c
    (ascii c among)

/-- A visible character of ASCII. -/
def IsMark (c : Char) : Prop := 32 < c.toNat ∧ c.toNat < 127

instance (c : Char) : Decidable (IsMark c) := inferInstanceAs (Decidable (_ ∧ _))

theorem IsMark.ascii {c : Char} (mark : IsMark c) : c.toNat < 128 := Nat.lt_succ_of_lt mark.2

theorem IsMark.dense {c : Char} (mark : IsMark c) : isBlank c = false :=
  @holds_of_ascii (fun c => IsMark c → isBlank c = false) (by decide) c mark.ascii mark

/-- What is left of a text without the blanks at its ends. -/
theorem trim_eq_iff {text inner : List Char} (filled : inner ≠ []) :
    trimEnd (trimStart text) = inner ↔
      ∃ before after, text = before ++ (inner ++ after) ∧ IsTrimmed inner ∧
        (∀ c ∈ before, isBlank c = true) ∧ ∀ c ∈ after, isBlank c = true := by
  constructor
  · rintro rfl
    refine ⟨text.takeWhile isBlank, ((trimStart text).reverse.takeWhile isBlank).reverse,
      ?_, isTrimmed_trim text, fun c among => List.mem_takeWhile_imp among, fun c among =>
        List.mem_takeWhile_imp (List.mem_reverse.mp among)⟩
    have back : trimEnd (trimStart text) ++ ((trimStart text).reverse.takeWhile isBlank).reverse =
        trimStart text := by
      rw [trimEnd, ← List.reverse_append, List.takeWhile_append_dropWhile, List.reverse_reverse]
    rw [back, trimStart, List.takeWhile_append_dropWhile]
  · rintro ⟨before, after, rfl, trimmed, front, back⟩
    have dense : ∀ c ∈ (inner ++ after).head?, isBlank c = false := by
      rw [List.head?_append_of_ne_nil _ filled]
      exact trimmed.first
    have denseBack : ∀ c ∈ inner.reverse.head?, isBlank c = false := by
      rw [List.head?_reverse]
      exact trimmed.last
    have reversed : ∀ c ∈ after.reverse, isBlank c = true := fun c among =>
      back c (List.mem_reverse.mp among)
    rw [trimStart, List.dropWhile_append_of_pos front, dropWhile_of_dense dense, trimEnd,
      List.reverse_append, List.dropWhile_append_of_pos reversed, dropWhile_of_dense denseBack,
      List.reverse_reverse]

/-! ## The header -/

/-- The first value under a name, in whatever letter case the names are. -/
def IsFirst (entries : List (String × Bytes)) (name : String) (value : Bytes) : Prop :=
  ∃ before spelled after, entries = before ++ (spelled, value) :: after ∧
    lowerAscii spelled = name ∧ ∀ entry ∈ before, lowerAscii entry.1 ≠ name

namespace Headers

variable {entries : List (String × Bytes)} {name : String}

theorem first?_ofList_eq_some_iff {value : Bytes} :
    (ofList entries).first? name = some value ↔ IsFirst entries name value := by
  induction entries with
  | nil => simp [ofList, first?, IsFirst]
  | cons entry rest ih =>
      obtain ⟨spelled, found⟩ := entry
      have step : (ofList ((spelled, found) :: rest)).first? name =
          if name = lowerAscii spelled then some found else (ofList rest).first? name := by
        rw [first?, ofList, List.map_cons, List.lookup_cons]
        by_cases same : name = lowerAscii spelled
        · simp [same]
        · rw [beq_false_of_ne same, if_neg same]
          rfl
      rw [step]
      by_cases same : name = lowerAscii spelled
      · rw [if_pos same, Option.some.injEq]
        constructor
        · rintro rfl
          exact ⟨[], spelled, rest, rfl, same.symm, by simp⟩
        · rintro ⟨before, other, after, shape, named, apart⟩
          cases before with
          | nil => exact (Prod.ext_iff.mp (List.cons.inj shape).1).2
          | cons head more =>
              obtain rfl := (List.cons.inj shape).1
              have other := apart _ List.mem_cons_self
              exact absurd same.symm other
      · rw [if_neg same, ih]
        constructor
        · rintro ⟨before, other, after, rfl, named, apart⟩
          exact ⟨(spelled, found) :: before, other, after, rfl, named,
            List.forall_mem_cons.mpr ⟨Ne.symm same, apart⟩⟩
        · rintro ⟨before, other, after, shape, named, apart⟩
          cases before with
          | nil =>
              obtain ⟨rfl, -⟩ := Prod.ext_iff.mp (List.cons.inj shape).1
              exact absurd named.symm same
          | cons head more =>
              obtain ⟨-, rfl⟩ := List.cons.inj shape
              exact ⟨more, other, after, rfl, named, (List.forall_mem_cons.mp apart).2⟩

theorem first?_ofList_eq_none_iff :
    (ofList entries).first? name = none ↔ ∀ entry ∈ entries, lowerAscii entry.1 ≠ name := by
  simp only [first?, ofList, List.lookup_eq_none_iff, List.forall_mem_map, bne_iff_ne, ne_eq,
    eq_comm (a := name)]

end Headers

/-! ## The credential in a value -/

namespace Credential

/-- A character that a value may hold: a visible one of ASCII, a space or a tab. -/
def IsAdmitted (c : Char) : Prop := IsMark c ∨ c = ' ' ∨ c = '\t'

instance (c : Char) : Decidable (IsAdmitted c) := inferInstanceAs (Decidable (_ ∨ _))

theorem IsAdmitted.ascii {c : Char} (admitted : IsAdmitted c) : c.toNat < 128 := by
  rcases admitted with mark | rfl | rfl
  · exact mark.ascii
  · decide
  · decide

/-- A value presents a credential: behind a scheme and the first space, between blanks. -/
structure IsPresented (value : Bytes) (scheme before : List Char) (token : String)
    (after : List Char) : Prop where
  written : value = asciiBytes (scheme ++ ' ' :: (before ++ (token.toList ++ after)))
  admitted : ∀ c ∈ scheme ++ ' ' :: (before ++ (token.toList ++ after)), IsAdmitted c
  spaceless : ' ' ∉ scheme
  named : scheme.map Char.toLower = "bearer".toList
  blankBefore : ∀ c ∈ before, isBlank c = true
  blankAfter : ∀ c ∈ after, isBlank c = true
  filled : token ≠ ""
  trimmed : IsTrimmed token.toList

/-- Some scheme and some blanks stand around the credential in a value. -/
def Presents (value : Bytes) (token : String) : Prop :=
  ∃ scheme before after, IsPresented value scheme before token after

/-- The scheme ends in front of the first space, and the credential is what stands behind it
without the blanks around it. -/
theorem ofValue?_eq_some_iff {text token : List Char} :
    ofValue? text = some token ↔
      ∃ scheme rest, text = scheme ++ ' ' :: rest ∧ ' ' ∉ scheme ∧
        scheme.map Char.toLower = "bearer".toList ∧ trimEnd (trimStart rest) = token ∧
          token ≠ [] := by
  have cut : ∀ {scheme rest : List Char}, ' ' ∉ scheme →
      (scheme ++ ' ' :: rest).takeWhile (· != ' ') = scheme := by
    intro scheme rest spaceless
    have plain : ∀ c ∈ scheme, (c != ' ') = true := by
      intro c among
      rw [bne_iff_ne]
      rintro rfl
      exact spaceless among
    rw [List.takeWhile_append_of_pos plain, List.takeWhile_cons_of_neg (by simp), List.append_nil]
  constructor
  · intro found
    have whole := List.takeWhile_append_dropWhile (p := (· != ' ')) (l := text)
    have behind : text.drop (text.takeWhile (· != ' ')).length = text.dropWhile (· != ' ') := by
      have dropped := congrArg (List.drop (text.takeWhile (· != ' ')).length) whole
      rw [List.drop_left] at dropped
      exact dropped.symm
    have spaceless : ' ' ∉ text.takeWhile (· != ' ') := fun among => by
      simpa using List.mem_takeWhile_imp among
    have stop := List.head?_dropWhile_not (· != ' ') text
    simp only [ofValue?, behind] at found
    cases left : text.dropWhile (· != ' ') with
    | nil =>
        rw [left] at found
        injection found
    | cons space rest =>
        rw [left] at found stop whole
        obtain rfl : space = ' ' := by simpa using stop
        simp only [Option.ite_none_right_eq_some, Bool.and_eq_true, isScheme, beq_iff_eq,
          Bool.not_eq_true', List.isEmpty_eq_false_iff, Option.some.injEq] at found
        obtain ⟨⟨named, filled⟩, rfl⟩ := found
        exact ⟨_, rest, whole.symm, spaceless, named, rfl, filled⟩
  · rintro ⟨scheme, rest, rfl, spaceless, named, rfl, filled⟩
    have accepted : isScheme scheme = true := beq_iff_eq.mpr named
    simp only [ofValue?, cut spaceless, List.drop_left, accepted, Bool.true_and,
      Bool.not_eq_true', List.isEmpty_eq_false_iff]
    rw [if_pos filled]

/-- The bytes of a value are visible exactly if they are those of admitted characters. -/
theorem all_isVisible_iff {value : Bytes} :
    value.all isVisible = true ↔
      ∃ text, value = asciiBytes text ∧ ∀ c ∈ text, IsAdmitted c := by
  have each : ∀ b : UInt8, isVisible b = true →
      IsAdmitted (Char.ofNat b.toNat) ∧ (Char.ofNat b.toNat).toNat.toUInt8 = b := by
    intro b visible
    have known : ∀ code < 128, isVisible code.toUInt8 = true →
        IsAdmitted (Char.ofNat code) ∧ (Char.ofNat code).toNat = code := by decide
    have ascii : b.toNat < 128 := by
      have range := visible
      simp only [isVisible, Bool.or_eq_true, Bool.and_eq_true, decide_eq_true_eq, beq_iff_eq,
        UInt8.lt_iff_toNat_lt] at range
      rcases range with ⟨-, below⟩ | rfl
      · exact Nat.lt_trans below (by decide)
      · decide
    have same : b.toNat.toUInt8 = b := UInt8.ofNat_toNat
    obtain ⟨admitted, code⟩ := known b.toNat ascii (same.symm ▸ visible)
    exact ⟨admitted, by rw [code, same]⟩
  constructor
  · intro visible
    rw [List.all_eq_true] at visible
    refine ⟨value.map fun b => Char.ofNat b.toNat, ?_, ?_⟩
    · rw [asciiBytes, List.map_map]
      exact ((List.map_congr_left fun b among => (each b (visible b among)).2).trans
        (List.map_id _)).symm
    · intro c among
      obtain ⟨b, inside, rfl⟩ := List.mem_map.mp among
      exact (each b (visible b inside)).1
  · rintro ⟨text, rfl, admitted⟩
    rw [asciiBytes, List.all_map, List.all_eq_true]
    intro c among
    exact @holds_of_ascii (fun c => IsAdmitted c → isVisible c.toNat.toUInt8 = true)
      (by decide) c (admitted c among).ascii (admitted c among)

/-- What is read of a value is the credential that it presents. -/
theorem presents_iff {value : Bytes} {token : String} :
    Presents value token ↔ value.all isVisible = true ∧
      ofValue? (value.map fun b => Char.ofNat b.toNat) = some token.toList := by
  rw [all_isVisible_iff, ofValue?_eq_some_iff]
  constructor
  · rintro ⟨scheme, before, after, shown⟩
    have filled : token.toList ≠ [] := by simpa using shown.filled
    refine ⟨⟨_, shown.written, shown.admitted⟩, scheme, before ++ (token.toList ++ after), ?_,
      shown.spaceless, shown.named, ?_, filled⟩
    · rw [shown.written, map_ofNat_asciiBytes fun c among => (shown.admitted c among).ascii]
    · exact (trim_eq_iff filled).mpr
        ⟨before, after, rfl, shown.trimmed, shown.blankBefore, shown.blankAfter⟩
  · rintro ⟨⟨text, rfl, admitted⟩, scheme, rest, shape, spaceless, named, trimmed, filled⟩
    rw [map_ofNat_asciiBytes fun c among => (admitted c among).ascii] at shape
    subst shape
    obtain ⟨before, after, rfl, ends, blankBefore, blankAfter⟩ := (trim_eq_iff filled).mp trimmed
    exact ⟨scheme, before, after, rfl, admitted, spaceless, named, blankBefore, blankAfter,
      by simpa using filled, ends⟩

/-- What a call presents by its headers. -/
inductive Finds (entries : List (String × Bytes)) : Except AuthFault String → Prop
  | nothing (absent : ∀ entry ∈ entries, lowerAscii entry.1 ≠ "authorization") :
      Finds entries (.error (.unauthenticated missing))
  | credential {value : Bytes} {token : String} (first : IsFirst entries "authorization" value)
      (presents : Presents value token) : Finds entries (.ok token)
  | other {value : Bytes} (first : IsFirst entries "authorization" value)
      (unfit : ∀ token, ¬ Presents value token) :
      Finds entries (.error (.unauthenticated malformed))

theorem ofHeaders_of_absent {entries : List (String × Bytes)}
    (absent : ∀ entry ∈ entries, lowerAscii entry.1 ≠ "authorization") :
    ofHeaders (.ofList entries) = .error (.unauthenticated missing) := by
  rw [ofHeaders, Headers.first?_ofList_eq_none_iff.mpr absent]

theorem ofHeaders_of_presents {entries : List (String × Bytes)} {value : Bytes} {token : String}
    (first : IsFirst entries "authorization" value) (presents : Presents value token) :
    ofHeaders (.ofList entries) = .ok token := by
  obtain ⟨visible, read⟩ := presents_iff.mp presents
  rw [ofHeaders, Headers.first?_ofList_eq_some_iff.mpr first]
  simp only [visible, if_true, read, String.ofList_toList]

theorem ofHeaders_of_unfit {entries : List (String × Bytes)} {value : Bytes}
    (first : IsFirst entries "authorization" value) (unfit : ∀ token, ¬ Presents value token) :
    ofHeaders (.ofList entries) = .error (.unauthenticated malformed) := by
  rw [ofHeaders, Headers.first?_ofList_eq_some_iff.mpr first]
  by_cases visible : value.all isVisible = true
  · cases read : ofValue? (value.map fun b => Char.ofNat b.toNat) with
    | none => simp only [visible, if_true, read]
    | some token =>
        have presents : Presents value (String.ofList token) :=
          presents_iff.mpr ⟨visible, by rw [read, String.toList_ofList]⟩
        exact absurd presents (unfit _)
  · simp only [visible, Bool.false_eq_true, if_false]

/-- What a call presents is told by the first value alone. -/
theorem ofHeaders_eq_iff {entries : List (String × Bytes)} {result : Except AuthFault String} :
    ofHeaders (.ofList entries) = result ↔ Finds entries result := by
  have found : Finds entries (ofHeaders (.ofList entries)) := by
    cases present : (Headers.ofList entries).first? "authorization" with
    | none =>
        have absent := Headers.first?_ofList_eq_none_iff.mp present
        rw [ofHeaders_of_absent absent]
        exact .nothing absent
    | some value =>
        have first := Headers.first?_ofList_eq_some_iff.mp present
        by_cases fit : ∃ token, Presents value token
        · obtain ⟨token, presents⟩ := fit
          rw [ofHeaders_of_presents first presents]
          exact .credential first presents
        · have unfit := not_exists.mp fit
          rw [ofHeaders_of_unfit first unfit]
          exact .other first unfit
  constructor
  · rintro rfl
    exact found
  · intro finds
    cases finds with
    | nothing absent => exact ofHeaders_of_absent absent
    | credential first presents => exact ofHeaders_of_presents first presents
    | other first unfit => exact ofHeaders_of_unfit first unfit

/-- The characters in front of a credential. -/
def scheme : List Char := ['B', 'e', 'a', 'r', 'e', 'r', ' ']

/-- A credential of visible characters is presented as it is sent. -/
theorem presents_scheme {token : String} (filled : token ≠ "")
    (marks : ∀ c ∈ token.toList, IsMark c) :
    Presents (asciiBytes (scheme ++ token.toList)) token := by
  refine ⟨['B', 'e', 'a', 'r', 'e', 'r'], [], [], ?_, ?_, by decide, by decide, by simp,
    by simp, filled, ?_⟩
  · simp [scheme]
  · intro c among
    have front : ∀ c ∈ scheme, IsAdmitted c := by simp [scheme, IsAdmitted, IsMark]
    rcases List.mem_append.mp (show c ∈ scheme ++ token.toList by simpa [scheme] using among) with
      ahead | inside
    · exact front c ahead
    · exact .inl (marks c inside)
  · exact ⟨fun c first => (marks c (List.mem_of_mem_head? first)).dense,
      fun c last => (marks c (List.mem_of_mem_getLast? last)).dense⟩

/-- How the credential of a call is found among its headers. -/
structure IsFound (entries : List (String × Bytes)) : Prop where
  outcome : ∀ result, ofHeaders (.ofList entries) = result ↔ Finds entries result
  /-- Neither other headers nor later values matter. -/
  firstAlone : ∀ others, (∀ value, IsFirst others "authorization" value ↔
    IsFirst entries "authorization" value) →
      ofHeaders (.ofList others) = ofHeaders (.ofList entries)
  sent : ∀ token : String, token ≠ "" → (∀ c ∈ token.toList, IsMark c) →
    IsFirst entries "authorization" (bytesOfText ("Bearer " ++ token)) →
      ofHeaders (.ofList entries) = .ok token

theorem bytesOfText_scheme {token : String} (marks : ∀ c ∈ token.toList, IsMark c) :
    bytesOfText (String.ofList (scheme ++ token.toList)) =
      asciiBytes (scheme ++ token.toList) := by
  have front : ∀ c ∈ scheme, c.toNat < 128 := by simp [scheme]
  rw [bytesOfText_ofList, bytesOfChars_ascii]
  intro c among
  rcases List.mem_append.mp among with ahead | inside
  · exact front c ahead
  · exact (marks c inside).ascii

/-- The credential of a call is found by the first value under its name and nothing else, and
a credential of visible characters that is sent behind the scheme is found as it was sent. -/
theorem isFound (entries : List (String × Bytes)) : IsFound entries where
  outcome _ := ofHeaders_eq_iff
  firstAlone others same := by
    have values : ∀ value, (Headers.ofList others).first? "authorization" = some value ↔
        (Headers.ofList entries).first? "authorization" = some value := by
      intro value
      rw [Headers.first?_ofList_eq_some_iff, Headers.first?_ofList_eq_some_iff, same]
    rw [ofHeaders, ofHeaders, Option.ext values]
  sent token filled marks first := by
    have written : "Bearer " ++ token = String.ofList (scheme ++ token.toList) := by
      rw [String.ofList_append, String.ofList_toList]
      rfl
    rw [written, bytesOfText_scheme marks] at first
    exact ofHeaders_of_presents first (presents_scheme filled marks)

end Credential

end Gatehouse
