import Gatehouse.Proofs.Json.Strings

/-!
# The texts of strings

What a string may look like between its quotes, as rules: bytes that stand for themselves,
letters behind a backslash, and code units in hexadecimal digits, of which two halves of a
pair make one character and a lone half makes the string one without text. A loose reading
takes exactly the bytes of such a text and leaves all others.
-/

namespace Gatehouse.Json

variable {exact : Bool} {text : Option Bytes} {found : Option String} {rest : Bytes}

/-- The second half of a pair follows. -/
def BeginsLow (bytes : Bytes) : Prop :=
  ∃ a b c d low more, bytes = 0x5C :: 0x75 :: a :: b :: c :: d :: more ∧
    codeUnit? a b c d = some low ∧ isLowSurrogate low = true

/-- The bytes of a string behind its opening quote, up to the closing one, with the bytes of
its text in front of them in reverse and the text that it comes to. -/
inductive SpellsString : Option Bytes → Bytes → Option String → Prop
  | close (text : Option Bytes) :
      SpellsString text [0x22] (text.bind fun bytes => textOfBytes? bytes.reverse)
  | plain {text : Option Bytes} {b : UInt8} {body : Bytes} {found : Option String}
      (plain : IsPlain b) (more : SpellsString (text.map (b :: ·)) body found) :
      SpellsString text (b :: body) found
  | letter {text : Option Bytes} {letter b : UInt8} {body : Bytes} {found : Option String}
      (stands : simpleEscape? letter = some b)
      (more : SpellsString (text.map (b :: ·)) body found) :
      SpellsString text (0x5C :: letter :: body) found
  | character {text : Option Bytes} {a b c d : UInt8} {unit : Nat} {body : Bytes}
      {found : Option String} (named : codeUnit? a b c d = some unit)
      (notHigh : ¬ isHighSurrogate unit = true) (notLow : ¬ isLowSurrogate unit = true)
      (more : SpellsString (pushCode text unit) body found) :
      SpellsString text (0x5C :: 0x75 :: a :: b :: c :: d :: body) found
  | pair {text : Option Bytes} {a b c d e f g h : UInt8} {high low : Nat} {body : Bytes}
      {found : Option String} (namedHigh : codeUnit? a b c d = some high)
      (isHigh : isHighSurrogate high = true) (namedLow : codeUnit? e f g h = some low)
      (isLow : isLowSurrogate low = true)
      (more : SpellsString
        (pushCode text (0x10000 + (high - 0xD800) * 0x400 + (low - 0xDC00))) body found) :
      SpellsString text
        (0x5C :: 0x75 :: a :: b :: c :: d :: 0x5C :: 0x75 :: e :: f :: g :: h :: body) found
  | loneHigh {text : Option Bytes} {a b c d : UInt8} {high : Nat} {body : Bytes}
      {found : Option String} (named : codeUnit? a b c d = some high)
      (isHigh : isHighSurrogate high = true) (alone : ¬ BeginsLow body)
      (more : SpellsString none body found) :
      SpellsString text (0x5C :: 0x75 :: a :: b :: c :: d :: body) found
  | loneLow {text : Option Bytes} {a b c d : UInt8} {low : Nat} {body : Bytes}
      {found : Option String} (named : codeUnit? a b c d = some low)
      (isLow : isLowSurrogate low = true) (more : SpellsString none body found) :
      SpellsString text (0x5C :: 0x75 :: a :: b :: c :: d :: body) found

/-- A string is closed by the first quote that no backslash takes with it. -/
inductive IsClosed : Bytes → Prop
  | close : IsClosed [0x22]
  | plain {b : UInt8} {body : Bytes} (notQuote : b ≠ 0x22) (notSlash : b ≠ 0x5C)
      (more : IsClosed body) : IsClosed (b :: body)
  | escape {b : UInt8} {body : Bytes} (more : IsClosed body) : IsClosed (0x5C :: b :: body)

/-! ## Halves of pairs -/

theorem ne_of_hexByte? {b : UInt8} {value : Nat} (digit : hexByte? b = some value) :
    b ≠ 0x22 ∧ b ≠ 0x5C := by
  constructor
  · rintro rfl
    simp [hexByte?] at digit
  · rintro rfl
    simp [hexByte?] at digit

theorem ne_of_codeUnit? {a b c d : UInt8} {unit : Nat} (named : codeUnit? a b c d = some unit) :
    ∀ digit ∈ [a, b, c, d], digit ≠ 0x22 ∧ digit ≠ 0x5C := by
  simp only [codeUnit?, Option.bind_eq_bind, Option.bind_eq_some_iff] at named
  obtain ⟨first, readFirst, second, readSecond, third, readThird, fourth, readFourth, -⟩ := named
  intro digit among
  simp only [List.mem_cons, List.not_mem_nil, or_false] at among
  rcases among with rfl | rfl | rfl | rfl
  · exact ne_of_hexByte? readFirst
  · exact ne_of_hexByte? readSecond
  · exact ne_of_hexByte? readThird
  · exact ne_of_hexByte? readFourth

theorem readLowSurrogate_digits {a b c d : UInt8} {low : Nat}
    (named : codeUnit? a b c d = some low) (isLow : isLowSurrogate low = true) :
    readLowSurrogate (0x5C :: 0x75 :: a :: b :: c :: d :: rest) = .ok low := by
  simp only [readLowSurrogate, ne_eq, not_true_eq_false, if_false, named, isLow, if_true]

theorem readLowSurrogate_eq_ok_iff {bytes : Bytes} {low : Nat} :
    readLowSurrogate bytes = .ok low ↔
      ∃ a b c d more, bytes = 0x5C :: 0x75 :: a :: b :: c :: d :: more ∧
        codeUnit? a b c d = some low ∧ isLowSurrogate low = true := by
  constructor
  · intro read
    simp only [readLowSurrogate] at read
    split at read
    · injection read
    · next slash rest =>
        split at read
        · injection read
        · next isSlash =>
            split at read
            · injection read
            · next letter rest =>
                split at read
                · injection read
                · next isLetter =>
                    split at read
                    · next a b c d more =>
                        split at read
                        · injection read
                        · next unit named =>
                            split at read
                            · next isLow =>
                                injection read with same
                                subst same
                                rw [ne_eq, Classical.not_not] at isSlash isLetter
                                subst isSlash isLetter
                                exact ⟨a, b, c, d, more, rfl, named, isLow⟩
                            · injection read
                    · injection read
  · rintro ⟨a, b, c, d, more, rfl, named, isLow⟩
    exact readLowSurrogate_digits named isLow

theorem beginsLow_iff {bytes : Bytes} :
    BeginsLow bytes ↔ ∃ low, readLowSurrogate bytes = .ok low := by
  simp only [readLowSurrogate_eq_ok_iff, BeginsLow]
  constructor
  · rintro ⟨a, b, c, d, low, more, both⟩
    exact ⟨low, a, b, c, d, more, both⟩
  · rintro ⟨low, a, b, c, d, more, both⟩
    exact ⟨a, b, c, d, low, more, both⟩

/-! ## Closing quotes -/

namespace IsClosed

variable {body other after behind : Bytes}

/-- A byte that is no mark belongs to the string. -/
theorem cons {b : UInt8} {more : Bytes} (closed : IsClosed body) (shape : body ++ after = b :: more)
    (notQuote : b ≠ 0x22) (notSlash : b ≠ 0x5C) :
    ∃ inner, body = b :: inner ∧ IsClosed inner ∧ inner ++ after = more := by
  cases closed with
  | close => exact absurd (List.cons.inj shape).1.symm notQuote
  | plain _ _ inner =>
      obtain ⟨rfl, rfl⟩ := List.cons.inj shape
      exact ⟨_, rfl, inner, rfl⟩
  | escape inner => exact absurd (List.cons.inj shape).1.symm notSlash

theorem escaped {b : UInt8} {more : Bytes} (closed : IsClosed body)
    (shape : body ++ after = 0x5C :: b :: more) :
    ∃ inner, body = 0x5C :: b :: inner ∧ IsClosed inner ∧ inner ++ after = more := by
  cases closed with
  | close => exact absurd (List.cons.inj shape).1 (by decide)
  | plain _ notSlash _ => exact absurd (List.cons.inj shape).1 notSlash
  | escape inner =>
      obtain ⟨rfl, rfl⟩ := List.cons.inj (List.cons.inj shape).2
      exact ⟨_, rfl, inner, rfl⟩

/-- Whether the second half of a pair follows is told within the string. -/
theorem beginsLow_append (closed : IsClosed body) (low : BeginsLow (body ++ after)) :
    BeginsLow body := by
  obtain ⟨a, b, c, d, low, more, shape, named, isLow⟩ := low
  have plain := ne_of_codeUnit? named
  simp only [List.mem_cons, List.not_mem_nil, or_false, forall_eq_or_imp, forall_eq] at plain
  obtain ⟨one, rfl, closed, shape⟩ := closed.escaped shape
  obtain ⟨two, rfl, closed, shape⟩ := closed.cons shape plain.1.1 plain.1.2
  obtain ⟨three, rfl, closed, shape⟩ := closed.cons shape plain.2.1.1 plain.2.1.2
  obtain ⟨four, rfl, closed, shape⟩ := closed.cons shape plain.2.2.1.1 plain.2.2.1.2
  obtain ⟨five, rfl, closed, shape⟩ := closed.cons shape plain.2.2.2.1 plain.2.2.2.2
  exact ⟨a, b, c, d, low, five, rfl, named, isLow⟩

/-- A string is closed at one place only. -/
theorem eq_of_append (closed : IsClosed body) (others : IsClosed other)
    (same : body ++ after = other ++ behind) : body = other ∧ after = behind := by
  induction closed generalizing other with
  | close =>
      cases others with
      | close => exact ⟨rfl, (List.cons.inj same).2⟩
      | plain notQuote _ _ => exact absurd (List.cons.inj same).1.symm notQuote
      | escape _ => exact absurd (List.cons.inj same).1 (by decide)
  | plain notQuote notSlash _ ih =>
      obtain ⟨inner, rfl, closed, shape⟩ := others.cons same.symm notQuote notSlash
      obtain ⟨rfl, rfl⟩ := ih closed shape.symm
      exact ⟨rfl, rfl⟩
  | escape _ ih =>
      obtain ⟨inner, rfl, closed, shape⟩ := others.escaped same.symm
      obtain ⟨rfl, rfl⟩ := ih closed shape.symm
      exact ⟨rfl, rfl⟩

/-- Bytes that are no marks may stand in front. -/
theorem append_plain {front : Bytes} (closed : IsClosed body)
    (plain : ∀ b ∈ front, b ≠ 0x22 ∧ b ≠ 0x5C) : IsClosed (front ++ body) := by
  induction front with
  | nil => exact closed
  | cons b front ih =>
      obtain ⟨first, others⟩ := List.forall_mem_cons.mp plain
      exact .plain first.1 first.2 (ih others)

end IsClosed

theorem SpellsString.isClosed {body : Bytes} (spells : SpellsString text body found) :
    IsClosed body := by
  induction spells with
  | close => exact .close
  | plain plain _ ih => exact .plain plain.1 plain.2.1 ih
  | letter _ _ ih => exact .escape ih
  | character named _ _ _ ih => exact .escape (ih.append_plain (ne_of_codeUnit? named))
  | pair namedHigh _ namedLow _ _ ih =>
      have low := IsClosed.escape (b := 0x75) (ih.append_plain (ne_of_codeUnit? namedLow))
      exact .escape (low.append_plain (ne_of_codeUnit? namedHigh))
  | loneHigh named _ _ _ ih => exact .escape (ih.append_plain (ne_of_codeUnit? named))
  | loneLow named _ _ ih => exact .escape (ih.append_plain (ne_of_codeUnit? named))

/-! ## Reading -/

theorem readString_close :
    readString false text (0x22 :: rest) =
      .ok (text.bind fun bytes => textOfBytes? bytes.reverse, rest) := by
  rw [readString.eq_def]
  cases text with
  | none => rfl
  | some bytes =>
      simp only [if_true, Option.bind_some]
      cases textOfBytes? bytes.reverse <;> rfl

theorem readString_behindPlain {b : UInt8} (plain : IsPlain b) :
    readString exact text (b :: rest) = readString exact (text.map (b :: ·)) rest := by
  have printable : ¬ b < 0x20 := UInt8.not_lt.mpr plain.2.2
  rw [readString.eq_def]
  simp only [if_neg plain.1, if_neg plain.2.1, if_neg printable]

theorem readString_behindLetter {letter b : UInt8} (stands : simpleEscape? letter = some b) :
    readString exact text (0x5C :: letter :: rest) =
      readString exact (text.map (b :: ·)) rest := by
  rw [readString.eq_def]
  simp [stands]

/-- What is read of a code unit hangs on which half of a pair it is, if it is one. -/
theorem readString_behindUnit {a b c d : UInt8} {unit : Nat}
    (named : codeUnit? a b c d = some unit) :
    readString false text (0x5C :: 0x75 :: a :: b :: c :: d :: rest) =
      if isHighSurrogate unit then
        match readLowSurrogate rest with
        | .error _ => readString false none rest
        | .ok low =>
            match rest with
            | _ :: _ :: _ :: _ :: _ :: _ :: rest =>
                readString false
                  (pushCode text (0x10000 + (unit - 0xD800) * 0x400 + (low - 0xDC00))) rest
            | _ => .error ⟨.endInString, []⟩
      else if isLowSurrogate unit then readString false none rest
      else readString false (pushCode text unit) rest := by
  have noLetter : simpleEscape? 0x75 = none := rfl
  rw [readString.eq_def]
  simp only [noLetter, named]
  rfl

/-- The text of a string is read, whatever follows it. -/
theorem SpellsString.readString {body : Bytes} (spells : SpellsString text body found)
    (after : Bytes) : readString false text (body ++ after) = .ok (found, after) := by
  induction spells with
  | close text => exact readString_close
  | plain plain _ ih => rw [List.cons_append, readString_behindPlain plain, ih]
  | letter stands _ ih =>
      rw [List.cons_append, List.cons_append, readString_behindLetter stands, ih]
  | character named notHigh notLow _ ih =>
      simp only [List.cons_append, readString_behindUnit named, if_neg notHigh, if_neg notLow, ih]
  | pair namedHigh isHigh namedLow isLow more ih =>
      simp only [List.cons_append, readString_behindUnit namedHigh, if_pos isHigh,
        readLowSurrogate_digits namedLow isLow, ih]
  | @loneHigh text a b c d high body found named isHigh alone more ih =>
      simp only [List.cons_append, readString_behindUnit named, if_pos isHigh]
      cases low : readLowSurrogate (body ++ after) with
      | error failure => exact ih
      | ok value =>
          have begins := beginsLow_iff.mpr ⟨value, low⟩
          exact absurd (more.isClosed.beginsLow_append begins) alone
  | loneLow named isLow _ ih =>
      have notHigh : ∀ {unit}, isLowSurrogate unit = true → ¬ isHighSurrogate unit = true := by
        intro unit low high
        simp only [isLowSurrogate, isHighSurrogate, Bool.and_eq_true, decide_eq_true_eq] at low high
        omega
      simp only [List.cons_append, readString_behindUnit named, if_neg (notHigh isLow),
        if_pos isLow, ih]

/-- What is read is the text of a string. -/
theorem exists_spellsString {bytes : Bytes}
    (read : readString exact text bytes = .ok (found, rest)) :
    ∃ body, bytes = body ++ rest ∧ SpellsString text body found := by
  fun_induction readString exact text bytes
  case case2 rest =>
    injection read with same
    obtain ⟨rfl, rfl⟩ := Prod.ext_iff.mp same
    exact ⟨[0x22], rfl, .close none⟩
  case case3 rest bytes shown spelled =>
    injection read with same
    obtain ⟨rfl, rfl⟩ := Prod.ext_iff.mp same
    have closes := SpellsString.close (some bytes)
    rw [Option.bind_some, spelled] at closes
    exact ⟨[0x22], rfl, closes⟩
  case case5 rest bytes unspelled _ =>
    injection read with same
    obtain ⟨rfl, rfl⟩ := Prod.ext_iff.mp same
    have closes := SpellsString.close (some bytes)
    rw [Option.bind_some, unspelled] at closes
    exact ⟨[0x22], rfl, closes⟩
  case case7 text letter rest byte stands _ ih =>
    obtain ⟨body, rfl, more⟩ := ih read
    exact ⟨_, rfl, .letter stands more⟩
  case case11 text letter _ isU a b c d rest unit named isHigh failure low _ _ ih =>
    obtain ⟨body, rfl, more⟩ := ih read
    obtain rfl := Classical.not_not.mp isU
    have alone : ¬ BeginsLow body := by
      rintro ⟨e, f, g, h, value, _, rfl, namedLow, isLow⟩
      simp only [List.cons_append, readLowSurrogate_digits namedLow isLow] at low
      injection low
    exact ⟨_, rfl, .loneHigh named isHigh alone more⟩
  case case12 text letter _ isU a b c d unit named isHigh low s u e f g h rest _ follows ih =>
    obtain ⟨body, rfl, more⟩ := ih read
    obtain rfl := Classical.not_not.mp isU
    obtain ⟨_, _, _, _, _, shape, namedLow, isLow⟩ := readLowSurrogate_eq_ok_iff.mp follows
    injection shape with isSlash shape
    injection shape with isLetter shape
    injection shape with first shape
    injection shape with second shape
    injection shape with third shape
    injection shape with fourth shape
    subst isSlash isLetter first second third fourth
    exact ⟨_, rfl, .pair named isHigh namedLow isLow more⟩
  case case15 text letter _ isU a b c d rest unit named _ isLow _ _ ih =>
    obtain ⟨body, rfl, more⟩ := ih read
    obtain rfl := Classical.not_not.mp isU
    exact ⟨_, rfl, .loneLow named isLow more⟩
  case case16 text letter _ isU a b c d rest unit named notHigh notLow _ ih =>
    obtain ⟨body, rfl, more⟩ := ih read
    obtain rfl := Classical.not_not.mp isU
    exact ⟨_, rfl, .character named notHigh notLow more⟩
  case case19 text b rest notQuote notSlash printable ih =>
    obtain ⟨body, rfl, more⟩ := ih read
    exact ⟨_, rfl, .plain ⟨notQuote, notSlash, UInt8.not_lt.mp printable⟩ more⟩
  -- Every other case ends the reading with a failure.
  all_goals contradiction

/-- A string that was written spells its text. -/
theorem spellsString_stringTail (text : String) :
    SpellsString (some []) (stringTail text) (some text) := by
  have read : readString false (some []) (stringTail text ++ []) = _ :=
    readString_stringTail text []
  obtain ⟨body, shape, spells⟩ := exists_spellsString read
  rw [List.append_nil, List.append_nil] at shape
  exact shape ▸ spells

end Gatehouse.Json
