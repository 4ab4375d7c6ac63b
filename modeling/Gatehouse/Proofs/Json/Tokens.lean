import Gatehouse.Proofs.Json.NumberTexts
import Gatehouse.Proofs.Json.StringTexts

/-!
# Tokens

A text is cut into tokens with blanks between them: marks, strings, and runs of the bytes
that numbers and words are made of. There is one way at most to cut it, and it is told
without knowing what the text says.
-/

namespace Gatehouse.Json

variable {bytes more rest gap token : Bytes} {tokens : List Bytes}

/-- All bytes are blanks. -/
def IsBlank (gap : Bytes) : Prop := ∀ b ∈ gap, isSpace b = true

/-- One token with what follows it, which a run of solid bytes must not go on with. -/
inductive IsToken : Bytes → Bytes → Prop
  | mark {b : UInt8} {rest : Bytes} (mark : isMark b = true) : IsToken [b] rest
  | string {body rest : Bytes} (closed : IsClosed body) : IsToken (0x22 :: body) rest
  | word {b : UInt8} {body rest : Bytes} (solid : ∀ c ∈ b :: body, isSolid c = true)
      (stops : Stops rest) : IsToken (b :: body) rest

/-- Some bytes begin with tokens, with or without blanks in front of each, and the rest
follows. -/
inductive Lexes : Bytes → List Bytes → Bytes → Prop
  | done (rest : Bytes) : Lexes rest [] rest
  | next {gap token more rest : Bytes} {tokens : List Bytes} (blank : IsBlank gap)
      (isToken : IsToken token more) (behind : Lexes more tokens rest) :
      Lexes (gap ++ (token ++ more)) (token :: tokens) rest

/-- The tokens of a whole text. -/
def HasTokens (bytes : Bytes) (tokens : List Bytes) : Prop :=
  ∃ gap, IsBlank gap ∧ Lexes bytes tokens gap

/-! ## Blanks -/

theorem isBlank_nil : IsBlank [] := nofun

theorem skipSpaces_gap (blank : IsBlank gap) (bytes : Bytes) :
    skipSpaces (gap ++ bytes) = skipSpaces bytes :=
  List.dropWhile_append_of_pos blank

theorem skipSpaces_cons {b : UInt8} (solid : isSpace b = false) (more : Bytes) :
    skipSpaces (b :: more) = b :: more :=
  List.dropWhile_cons_of_neg (by rw [solid]; exact Bool.false_ne_true)

/-- The blanks that are skipped. -/
theorem exists_gap (bytes : Bytes) : ∃ gap, IsBlank gap ∧ bytes = gap ++ skipSpaces bytes :=
  ⟨bytes.takeWhile isSpace, List.all_eq_true.mp List.all_takeWhile,
    List.takeWhile_append_dropWhile.symm⟩

theorem skipSpaces_skipSpaces (bytes : Bytes) :
    skipSpaces (skipSpaces bytes) = skipSpaces bytes := by
  obtain ⟨gap, blank, shape⟩ := exists_gap bytes
  have same := skipSpaces_gap blank (skipSpaces bytes)
  rwa [← shape, eq_comm] at same

theorem isBlank_iff : IsBlank gap ↔ skipSpaces gap = [] := by
  constructor
  · intro blank
    have skipped := skipSpaces_gap blank []
    rwa [List.append_nil] at skipped
  · intro skipped
    obtain ⟨blanks, blank, shape⟩ := exists_gap gap
    rw [skipped, List.append_nil] at shape
    exact shape ▸ blank

theorem not_isSpace_of_isMark {b : UInt8} (mark : isMark b = true) : isSpace b = false :=
  @holds_of_codes (fun b => isMark b = true → isSpace b = false) (by decide +kernel) b mark

theorem isSolid_iff {b : UInt8} :
    isSolid b = true ↔ isSpace b = false ∧ isMark b = false ∧ b ≠ 0x22 := by
  simp only [isSolid, Bool.not_eq_true', Bool.or_eq_false_iff, beq_eq_false_iff_ne, and_assoc]

/-! ## One token -/

namespace IsToken

/-- A token begins with no blank. -/
theorem head (isToken : IsToken token more) :
    ∃ b body, token = b :: body ∧ isSpace b = false := by
  cases isToken with
  | mark mark => exact ⟨_, _, rfl, not_isSpace_of_isMark mark⟩
  | string closed => exact ⟨_, _, rfl, rfl⟩
  | word solid stops => exact ⟨_, _, rfl, (isSolid_iff.mp (solid _ List.mem_cons_self)).1⟩

theorem skipSpaces_append (isToken : IsToken token more) :
    skipSpaces (token ++ more) = token ++ more := by
  obtain ⟨b, body, rfl, solid⟩ := isToken.head
  exact skipSpaces_cons solid _

/-- The first byte tells which kind of token it is. -/
theorem mark_of_cons {b : UInt8} {body : Bytes} (isToken : IsToken (b :: body) more)
    (mark : isMark b = true) : body = [] := by
  cases isToken with
  | mark _ => rfl
  | string closed => exact absurd mark (by decide)
  | word solid stops =>
      have plain := (isSolid_iff.mp (solid _ List.mem_cons_self)).2.1
      exact absurd (plain.symm.trans mark) Bool.false_ne_true

theorem string_of_cons {body : Bytes} (isToken : IsToken (0x22 :: body) more) : IsClosed body := by
  cases isToken with
  | mark mark => exact absurd mark (by decide)
  | string closed => exact closed
  | word solid stops => exact absurd rfl (isSolid_iff.mp (solid _ List.mem_cons_self)).2.2

theorem word_of_cons {b : UInt8} {body : Bytes} (isToken : IsToken (b :: body) more)
    (first : isSolid b = true) : (∀ c ∈ b :: body, isSolid c = true) ∧ Stops more := by
  obtain ⟨-, plain, noQuote⟩ := isSolid_iff.mp first
  cases isToken with
  | mark mark => exact absurd (plain.symm.trans mark) Bool.false_ne_true
  | string closed => exact absurd rfl noQuote
  | word solid stops => exact ⟨solid, stops⟩


/-- Where a token ends is told by the bytes. -/
theorem eq_of_append {other behind : Bytes} (isToken : IsToken token more)
    (others : IsToken other behind) (same : token ++ more = other ++ behind) :
    token = other ∧ more = behind := by
  obtain ⟨b, body, rfl, -⟩ := others.head
  cases isToken with
  | mark mark =>
      obtain ⟨rfl, rest⟩ := List.cons.inj same
      obtain rfl := others.mark_of_cons mark
      exact ⟨rfl, rest⟩
  | string closed =>
      obtain ⟨rfl, rest⟩ := List.cons.inj same
      obtain ⟨rfl, rfl⟩ := closed.eq_of_append others.string_of_cons rest
      exact ⟨rfl, rfl⟩
  | word solid stops =>
      obtain ⟨rfl, -⟩ := List.cons.inj same
      obtain ⟨otherSolid, otherStops⟩ := others.word_of_cons (solid _ List.mem_cons_self)
      have run := takeWhile_run solid stops
      rw [same, takeWhile_run otherSolid otherStops] at run
      rw [← run] at same ⊢
      exact ⟨rfl, List.append_cancel_left same⟩

end IsToken

/-! ## Many tokens -/

namespace Lexes

variable {others : List Bytes} {middle after : Bytes}

/-- The first token behind the blanks in front of it. -/
theorem cons_iff : Lexes bytes (token :: tokens) rest ↔
    ∃ more, skipSpaces bytes = token ++ more ∧ IsToken token more ∧ Lexes more tokens rest := by
  constructor
  · intro lexes
    cases lexes with
    | @next gap _ more _ _ blank isToken behind =>
        refine ⟨more, ?_, isToken, behind⟩
        rw [skipSpaces_gap blank, isToken.skipSpaces_append]
  · rintro ⟨more, shape, isToken, behind⟩
    obtain ⟨gap, blank, whole⟩ := exists_gap bytes
    rw [whole, shape]
    exact .next blank isToken behind

theorem nil_iff : Lexes bytes [] rest ↔ bytes = rest := by
  constructor
  · intro lexes
    cases lexes with
    | done => rfl
  · rintro rfl
    exact .done bytes

/-- No blanks need stand between tokens. -/
theorem cons (isToken : IsToken token more) (behind : Lexes more tokens rest) :
    Lexes (token ++ more) (token :: tokens) rest :=
  .next isBlank_nil isToken behind

theorem mark {b : UInt8} (mark : isMark b = true) (behind : Lexes more tokens rest) :
    Lexes (b :: more) ([b] :: tokens) rest :=
  .cons (.mark mark) behind

theorem single (shape : skipSpaces bytes = token ++ rest) (isToken : IsToken token rest) :
    Lexes bytes [token] rest :=
  cons_iff.mpr ⟨rest, shape, isToken, .done rest⟩

theorem of_single (lexes : Lexes bytes [token] rest) :
    skipSpaces bytes = token ++ rest ∧ IsToken token rest := by
  obtain ⟨more, shape, isToken, behind⟩ := cons_iff.mp lexes
  rw [nil_iff.mp behind] at shape isToken
  exact ⟨shape, isToken⟩

theorem append_iff : Lexes bytes (tokens ++ others) rest ↔
    ∃ middle, Lexes bytes tokens middle ∧ Lexes middle others rest := by
  induction tokens generalizing bytes with
  | nil => simp only [List.nil_append, nil_iff, exists_eq_left']
  | cons token tokens ih =>
      simp only [List.cons_append, cons_iff, ih]
      constructor
      · rintro ⟨more, shape, isToken, middle, behind, last⟩
        exact ⟨middle, ⟨more, shape, isToken, behind⟩, last⟩
      · rintro ⟨middle, ⟨more, shape, isToken, behind⟩, last⟩
        exact ⟨more, shape, isToken, middle, behind, last⟩

/-- Blanks in front of the first token do not count. -/
theorem skip_iff (some : tokens ≠ []) :
    Lexes (skipSpaces bytes) tokens rest ↔ Lexes bytes tokens rest := by
  obtain ⟨token, tokens, rfl⟩ := List.exists_cons_of_ne_nil some
  rw [cons_iff, cons_iff, skipSpaces_skipSpaces]

/-- There is no token in blanks. -/
theorem not_cons (blank : IsBlank bytes) : ¬ Lexes bytes (token :: tokens) rest := by
  intro lexes
  obtain ⟨more, shape, isToken, -⟩ := cons_iff.mp lexes
  obtain ⟨b, body, rfl, -⟩ := isToken.head
  rw [isBlank_iff.mp blank] at shape
  injection shape

theorem length_le (lexes : Lexes bytes tokens rest) : tokens.length ≤ bytes.length := by
  induction lexes with
  | done => exact Nat.zero_le _
  | next blank isToken behind ih =>
      obtain ⟨b, body, rfl, -⟩ := isToken.head
      simp only [List.length_append, List.length_cons]
      omega

/-- A text has one list of tokens at most. -/
theorem unique {gap blanks : Bytes} (lexes : Lexes bytes tokens gap) (blank : IsBlank gap)
    (lexesOther : Lexes bytes others blanks) (blankOther : IsBlank blanks) : tokens = others := by
  induction tokens generalizing bytes others with
  | nil =>
      obtain rfl := nil_iff.mp lexes
      cases others with
      | nil => rfl
      | cons token others => exact absurd lexesOther (not_cons blank)
  | cons token tokens ih =>
      cases others with
      | nil =>
          obtain rfl := nil_iff.mp lexesOther
          exact absurd lexes (not_cons blankOther)
      | cons other others =>
          obtain ⟨more, shape, isToken, behind⟩ := cons_iff.mp lexes
          obtain ⟨_, shapeOther, isOther, behindOther⟩ := cons_iff.mp lexesOther
          obtain ⟨rfl, rfl⟩ := isToken.eq_of_append isOther (shape.symm.trans shapeOther)
          rw [ih behind behindOther]

/-- What follows the tokens may be replaced, unless a solid byte would then prolong the last
of them. -/
theorem replace (lexes : Lexes bytes tokens rest) : ∃ taken, bytes = taken ++ rest ∧
    ∀ after, (Stops rest → Stops after) → Lexes (taken ++ after) tokens after := by
  induction lexes with
  | done rest => exact ⟨[], rfl, fun after _ => .done after⟩
  | @next gap token more rest tokens blank isToken behind ih =>
      obtain ⟨taken, rfl, replaced⟩ := ih
      refine ⟨gap ++ (token ++ taken), by simp only [List.append_assoc], fun after stops => ?_⟩
      have isToken : IsToken token (taken ++ after) := by
        cases isToken with
        | mark mark => exact .mark mark
        | string closed => exact .string closed
        | word solid stopsFirst =>
            refine .word solid ?_
            cases taken with
            | nil => exact stops stopsFirst
            | cons b taken => exact stopsFirst
      have whole := Lexes.next blank isToken (replaced after stops)
      rwa [List.append_assoc, List.append_assoc]

/-- Behind a mark, anything may follow. -/
theorem replace_mark {b : UInt8} (mark : isMark b = true)
    (lexes : Lexes bytes (tokens ++ [[b]]) rest) : ∃ taken, bytes = taken ++ rest ∧
      ∀ after, Lexes (taken ++ after) (tokens ++ [[b]]) after := by
  obtain ⟨middle, front, last⟩ := append_iff.mp lexes
  obtain ⟨more, shape, -, behind⟩ := cons_iff.mp last
  obtain rfl := nil_iff.mp behind
  obtain ⟨gap, blank, whole⟩ := exists_gap middle
  rw [shape] at whole
  obtain ⟨taken, rfl, replaced⟩ := front.replace
  refine ⟨taken ++ (gap ++ [b]), by simp [whole], fun after => ?_⟩
  rw [List.append_assoc, List.append_assoc]
  refine append_iff.mpr ⟨_, replaced _ ?_, .next blank (.mark mark) (.done after)⟩
  intro stops first
  rw [whole] at stops
  cases gap with
  | nil => exact stops first
  | cons space gap => exact stops first

end Lexes

end Gatehouse.Json
