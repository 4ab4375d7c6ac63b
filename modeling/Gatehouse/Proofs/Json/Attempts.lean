import Gatehouse.Json.Attempt
import Gatehouse.Proofs.Json.Grammar

/-!
# Attempts that succeed

An exact reading finds whatever value a loose one finds, if it has one. An attempt at a value
is exact, so it gets behind every value whose strings and numbers have one and which is not
nested too deep, and is given up on no such value.
-/

namespace Gatehouse.Json

variable {bytes rest more : Bytes} {tokens : List Bytes}

/-! ## Strings -/

variable {text : Option Bytes} {body : Bytes}

/-- A unit that is no half of a pair is read as a character. -/
theorem readString_character {exact : Bool} {a b c d : UInt8} {unit : Nat}
    (named : codeUnit? a b c d = some unit) (notHigh : ¬ isHighSurrogate unit = true)
    (notLow : ¬ isLowSurrogate unit = true) :
    readString exact text (0x5C :: 0x75 :: a :: b :: c :: d :: rest) =
      readString exact (pushCode text unit) rest := by
  have noLetter : simpleEscape? 0x75 = none := rfl
  rw [readString.eq_def]
  simp [noLetter, named, notHigh, notLow]

/-- The halves of a pair are read as one character. -/
theorem readString_pair {exact : Bool} {a b c d e f g h : UInt8} {high low : Nat}
    (namedHigh : codeUnit? a b c d = some high) (isHigh : isHighSurrogate high = true)
    (namedLow : codeUnit? e f g h = some low) (isLow : isLowSurrogate low = true) :
    readString exact text
        (0x5C :: 0x75 :: a :: b :: c :: d :: 0x5C :: 0x75 :: e :: f :: g :: h :: rest) =
      readString exact
        (pushCode text (0x10000 + (high - 0xD800) * 0x400 + (low - 0xDC00))) rest := by
  have noLetter : simpleEscape? 0x75 = none := rfl
  rw [readString.eq_def]
  simp [noLetter, namedHigh, isHigh, readLowSurrogate_digits namedLow isLow]

/-- A string without text stays one. -/
theorem SpellsString.eq_none {found : Option String} (spells : SpellsString none body found) :
    found = none := by
  generalize empty : none = text at spells
  induction spells with
  | close text =>
      subst empty
      rfl
  | plain _ _ ih => exact ih (by rw [← empty]; rfl)
  | letter _ _ ih => exact ih (by rw [← empty]; rfl)
  | character _ _ _ _ ih => exact ih (by rw [← empty]; rfl)
  | pair _ _ _ _ _ ih => exact ih (by rw [← empty]; rfl)
  | loneHigh _ _ _ _ ih => exact ih rfl
  | loneLow _ _ _ ih => exact ih rfl

/-- A string with a text is read exactly. -/
theorem SpellsString.readExactly {shown : String} (spells : SpellsString text body (some shown))
    (after : Bytes) : Json.readString true text (body ++ after) = .ok (some shown, after) := by
  generalize found : some shown = value at spells
  induction spells with
  | close text =>
      obtain ⟨bytes, rfl, spelled⟩ := Option.bind_eq_some_iff.mp found.symm
      rw [List.singleton_append, readString.eq_def]
      simp only [if_true, Option.bind_some, spelled]
  | plain plain _ ih => rw [List.cons_append, readString_behindPlain plain, ih found]
  | letter stands _ ih =>
      rw [List.cons_append, List.cons_append, readString_behindLetter stands, ih found]
  | character named notHigh notLow _ ih =>
      simp only [List.cons_append, readString_character named notHigh notLow, ih found]
  | pair namedHigh isHigh namedLow isLow _ ih =>
      simp only [List.cons_append, readString_pair namedHigh isHigh namedLow isLow, ih found]
  | loneHigh _ _ _ more _ =>
      rw [more.eq_none] at found
      injection found
  | loneLow _ _ more _ =>
      rw [more.eq_none] at found
      injection found

/-! ## Numbers -/

/-- What is found loosely is found exactly. -/
def Confirms {α : Type} (read : Bool → Reading (Option α)) : Prop :=
  ∀ value rest, read false = .ok (some value, rest) → read true = .ok (some value, rest)

namespace Confirms

variable {α : Type} {read other : Bool → Reading (Option α)}

/-- What does not depend on how exact a reading is. -/
theorem const (reading : Reading (Option α)) : Confirms fun _ => reading := fun _ _ => id

theorem ite {condition : Prop} [Decidable condition] (first : Confirms read)
    (second : Confirms other) :
    Confirms fun exact => if condition then read exact else other exact := by
  intro value rest found
  by_cases holds : condition
  · simp only [if_pos holds] at found ⊢
    exact first _ _ found
  · simp only [if_neg holds] at found ⊢
    exact second _ _ found

/-- A number that is too large has no value. -/
theorem tooLarge (failure : Failure) (rest : Bytes) :
    Confirms fun exact =>
      if exact then .error failure else (.ok (none, rest) : Reading (Option α)) := by
  intro value after found
  injection found with same
  injection same with same
  injection same

end Confirms

variable {negative : Bool} {significand dropped : Nat} {start : Int}

theorem confirms_readScaled (exponent : Int) :
    Confirms fun exact => readScaled exact negative significand exponent bytes := by
  simp only [readScaled]
  cases Binary64.ofDecimal? negative significand exponent with
  | some bits => exact .const _
  | none => exact .tooLarge _ _

theorem confirms_readUnsigned (down : Bool) :
    Confirms fun exact => readUnsigned exact negative significand start down bytes := by
  cases bytes with
  | nil => exact .const _
  | cons d rest =>
      refine .ite ?_ (.const _)
      cases readExponentDigits (d.toNat - 0x30) rest with
      | ok found => exact confirms_readScaled _
      | error left => exact .ite (.tooLarge _ _) (confirms_readScaled _)

theorem confirms_readExponent :
    Confirms fun exact => readExponent exact negative significand start bytes := by
  cases bytes with
  | nil => exact .const _
  | cons b bytes =>
      by_cases plus : b = 0x2B
      · simp only [plus, readExponent_plus]
        exact confirms_readUnsigned false
      by_cases minus : b = 0x2D
      · simp only [minus, readExponent_minus]
        exact confirms_readUnsigned true
      simp only [readExponent_unsigned plus minus]
      exact confirms_readUnsigned false

theorem confirms_readScale :
    Confirms fun exact => readScale exact negative significand start bytes := by
  cases bytes with
  | nil => exact confirms_readScaled _
  | cons b bytes => exact .ite confirms_readExponent (confirms_readScaled _)

theorem confirms_readPlain :
    Confirms fun exact => readPlain exact negative significand dropped bytes := by
  simp only [readPlain]
  split
  · exact .const _
  · exact confirms_readScaled _

theorem confirms_readPlaces :
    Confirms fun exact => readPlaces exact negative significand dropped bytes := by
  simp only [readPlaces]
  split
  · exact .const _
  · exact confirms_readScale

theorem confirms_readNumber : Confirms fun exact => readNumber exact negative bytes := by
  intro value rest found
  obtain ⟨digits, behind, rfl, begins, ends⟩ := exists_beginsNumber found
  have confirms : Confirms fun exact => readBehindDigits exact negative digits behind := by
    cases behind with
    | nil => exact confirms_readPlain
    | cons b behind =>
        exact .ite confirms_readPlaces (.ite confirms_readExponent confirms_readPlain)
  simp only [readNumber_append begins ends] at found ⊢
  exact confirms _ _ found

/-- The bytes of a number with a value are read exactly. -/
theorem Takes.readExactly {taken : Bytes} {number : Number}
    (takes : Takes (readNumber false negative) taken (some number)) (stops : Stops rest) :
    readNumber true negative (taken ++ rest) = .ok (some number, rest) :=
  confirms_readNumber _ _ (takes.reads rest stops)

/-! ## Looking on -/

theorem Lexes.exists_skip {token : Bytes} (lexes : Lexes bytes (token :: tokens) rest) :
    ∃ more, skipSpaces bytes = token ++ more ∧ Lexes more tokens rest := by
  obtain ⟨more, shape, -, behind⟩ := Lexes.cons_iff.mp lexes
  exact ⟨more, shape, behind⟩

theorem nextItem_close {begun : Bool} (lexes : Lexes bytes [[0x5D]] rest) :
    nextItem begun bytes = .close rest := by
  simp [nextItem, next, lexes.of_single.1]

theorem nextMember_close {begun : Bool} (lexes : Lexes bytes [[0x7D]] rest) :
    nextMember begun bytes = .close rest := by
  simp [nextMember, next, lexes.of_single.1]

/-- An item is found behind the comma in front of it. -/
theorem exists_nextItem {begun : Bool} {item : Written} {first others : List Bytes}
    (spells : Spells (.value item) first)
    (lexes : Lexes bytes (lead begun ++ (first ++ others)) rest) :
    ∃ found middle, nextItem begun bytes = .entry found ∧ Lexes found first middle ∧
      Lexes middle others rest := by
  cases begun with
  | false =>
      obtain ⟨b, more, middle, shape, opens, lexesFirst, behind⟩ := exists_item spells lexes
      exact ⟨_, middle, by simp [nextItem, next, shape, opens], lexesFirst, behind⟩
  | true =>
      obtain ⟨behind, comma, lexes⟩ := Lexes.exists_skip lexes
      obtain ⟨b, more, middle, shape, opens, lexesFirst, behind⟩ := exists_item spells lexes
      exact ⟨_, middle, by simp [nextItem, next, comma, shape, opens], lexesFirst, behind⟩

/-- A member is found behind the comma in front of it. -/
theorem exists_nextMember {begun : Bool}
    (lexes : Lexes bytes (lead begun ++ ((0x22 :: body) :: tokens)) rest) :
    ∃ more, nextMember begun bytes = .entry (0x22 :: (body ++ more)) ∧ Lexes more tokens rest := by
  cases begun with
  | false =>
      obtain ⟨more, shape, behind⟩ := Lexes.exists_skip lexes
      exact ⟨more, by simp [nextMember, next, shape], behind⟩
  | true =>
      obtain ⟨front, comma, lexes⟩ := Lexes.exists_skip lexes
      obtain ⟨more, shape, behind⟩ := Lexes.exists_skip lexes
      exact ⟨more, by simp [nextMember, next, comma, shape], behind⟩

/-- A key with a text is got, with the colon behind it. -/
theorem exists_tryKey {key : String} (spells : SpellsString (some []) body (some key))
    (lexes : Lexes more ([0x3A] :: tokens) rest) :
    ∃ after, tryKey (0x22 :: (body ++ more)) = .ok (key, after) ∧ Lexes after tokens rest := by
  obtain ⟨after, shape, behind⟩ := lexes.exists_skip
  exact ⟨after, by simp [tryKey, spells.readExactly, shape], behind⟩

/-! ## Values -/

variable {value : Written} {json : Json}

/-- A value that is no array or object is got behind, if it has one. -/
theorem exists_tryScalar (spells : Spells (.value value) tokens)
    (shown : value.toJson? = some json) (flat : json.depth = 0) (lexes : Lexes bytes tokens rest) :
    ∃ b more, skipSpaces bytes = b :: more ∧ b ≠ 0x5B ∧ b ≠ 0x7B ∧
      tryScalar (b :: more) = .ok rest := by
  cases spells with
  | null =>
      exact ⟨_, _, lexes.of_single.1, by decide, by decide, rfl⟩
  | boolTrue =>
      exact ⟨_, _, lexes.of_single.1, by decide, by decide, rfl⟩
  | boolFalse =>
      exact ⟨_, _, lexes.of_single.1, by decide, by decide, rfl⟩
  | string spells =>
      obtain ⟨text, rfl, -⟩ := Option.map_eq_some_iff.mp shown
      have read := spells.readExactly rest
      refine ⟨_, _, lexes.of_single.1, by decide, by decide, ?_⟩
      rw [tryScalar, readValue.eq_def, skipSpaces_cons rfl]
      simp [Care.strict, read, Attempt.ofReading]
  | number takes =>
      obtain ⟨shape, isToken⟩ := lexes.of_single
      obtain ⟨number, rfl, -⟩ := Option.map_eq_some_iff.mp shown
      obtain ⟨d, more, rfl, digit⟩ := takes.exists_digit
      have solid := isSolid_of_digit digit
      have read := takes.readExactly (isToken.word_of_cons solid).2
      refine ⟨_, _, shape, ne_of_digit digit _ rfl, ne_of_digit digit _ rfl, ?_⟩
      rw [List.cons_append] at read
      rw [tryScalar, readValue.eq_def, skipSpaces_cons (isSolid_iff.mp solid).1]
      simp [ne_of_digit digit 0x22 rfl, ne_of_digit digit 0x5B rfl, ne_of_digit digit 0x7B rfl,
        ne_of_digit digit 0x2D rfl, digit, Care.strict, read, Attempt.ofReading]
  | negative takes =>
      obtain ⟨shape, isToken⟩ := lexes.of_single
      obtain ⟨number, rfl, -⟩ := Option.map_eq_some_iff.mp shown
      have read := takes.readExactly (isToken.word_of_cons rfl).2
      refine ⟨_, _, shape, by decide, by decide, ?_⟩
      rw [tryScalar, readValue.eq_def, skipSpaces_cons rfl]
      simp [Care.strict, read, Attempt.ofReading]
  | array =>
      obtain ⟨items, -, rfl⟩ := Option.map_eq_some_iff.mp shown
      injection flat
  | object =>
      obtain ⟨members, -, rfl⟩ := Option.map_eq_some_iff.mp shown
      injection flat

theorem tryValue_scalar {fuel levels : Nat} (spells : Spells (.value value) tokens)
    (shown : value.toJson? = some json) (flat : json.depth = 0) (lexes : Lexes bytes tokens rest) :
    tryValue (fuel + 1) levels bytes = .ok rest := by
  obtain ⟨b, more, shape, noArray, noObject, tried⟩ := exists_tryScalar spells shown flat lexes
  rw [tryValue.eq_def]
  simp only [shape, if_neg noArray, if_neg noObject, tried]

/-- What an attempt comes to at some tokens of a part that has a value. -/
def Tries : Part → List Bytes → Prop
  | .value value, tokens => ∀ {json bytes rest levels fuel}, value.toJson? = some json →
      json.depth ≤ levels → Lexes bytes tokens rest → 2 * tokens.length ≤ fuel →
        tryValue fuel levels bytes = .ok rest
  | .items begun items, tokens => ∀ {values bytes rest levels fuel},
      Written.itemsToJson? items = some values → Json.depthOfItems values ≤ levels →
        Lexes bytes tokens rest → 2 * tokens.length ≤ fuel →
          tryItems fuel levels begun bytes = .ok rest
  | .members begun members, tokens => ∀ {values bytes rest levels fuel},
      Written.membersToJson? members = some values → Json.depthOfMembers values ≤ levels →
        Lexes bytes tokens rest → 2 * tokens.length ≤ fuel →
          tryMembers fuel levels begun bytes = .ok rest

theorem tries_scalar (spells : Spells (.value value) tokens)
    (flat : ∀ json, value.toJson? = some json → json.depth = 0) : Tries (.value value) tokens := by
  intro json bytes rest levels fuel shown _ lexes enough
  have some := List.length_pos_iff.mpr spells.ne_nil
  obtain ⟨fuel, rfl⟩ : ∃ others, fuel = others + 1 := ⟨fuel - 1, by omega⟩
  exact tryValue_scalar spells shown (flat json shown) lexes

theorem tries_array {items : List Written} (behind : Tries (.items false items) tokens) :
    Tries (.value (.array items)) ([0x5B] :: tokens) := by
  intro json bytes rest levels fuel shown shallow lexes enough
  obtain ⟨values, each, rfl⟩ := Option.map_eq_some_iff.mp shown
  obtain ⟨fuel, more, rfl, enough, shape, -, lexes⟩ := exists_first lexes enough
  rw [Json.depth] at shallow
  obtain ⟨levels, rfl⟩ : ∃ others, levels = others + 1 := ⟨levels - 1, by omega⟩
  have tried := behind each (Nat.le_of_succ_le_succ shallow) lexes (Nat.le_succ_of_le enough)
  have given : (tryItems (fuel + 1) levels false more).mapError leaveArray = .ok rest := by
    rw [tried]
    rfl
  rw [tryValue.eq_def]
  simpa [shape] using given

theorem tries_object {members : List (Option String × Written)}
    (behind : Tries (.members false members) tokens) :
    Tries (.value (.object members)) ([0x7B] :: tokens) := by
  intro json bytes rest levels fuel shown shallow lexes enough
  obtain ⟨values, each, rfl⟩ := Option.map_eq_some_iff.mp shown
  obtain ⟨fuel, more, rfl, enough, shape, -, lexes⟩ := exists_first lexes enough
  rw [Json.depth] at shallow
  obtain ⟨levels, rfl⟩ : ∃ others, levels = others + 1 := ⟨levels - 1, by omega⟩
  have tried := behind each (Nat.le_of_succ_le_succ shallow) lexes (Nat.le_succ_of_le enough)
  have given : (tryMembers (fuel + 1) levels false more).mapError leaveObject = .ok rest := by
    rw [tried]
    rfl
  rw [tryValue.eq_def]
  simpa [shape] using given

theorem tries_item {begun : Bool} {item : Written} {items : List Written}
    {first others : List Bytes} (spells : Spells (.value item) first) (some : others ≠ [])
    (tries : Tries (.value item) first) (behind : Tries (.items true items) others) :
    Tries (.items begun (item :: items)) (lead begun ++ (first ++ others)) := by
  intro values bytes rest levels fuel shown shallow lexes enough
  have someFirst := List.length_pos_iff.mpr spells.ne_nil
  have someOthers := List.length_pos_iff.mpr some
  simp only [List.length_append] at enough
  simp only [Written.itemsToJson?, Option.bind_eq_bind, Option.bind_eq_some_iff] at shown
  obtain ⟨value, shownFirst, values, shown, same⟩ := shown
  obtain rfl := Option.some.inj same
  obtain ⟨found, middle, next, lexesFirst, lexes⟩ := exists_nextItem spells lexes
  obtain ⟨fuel, rfl⟩ : ∃ others, fuel = others + 1 := ⟨fuel - 1, by omega⟩
  have triedFirst := tries shownFirst (Nat.max_le.mp shallow).1 lexesFirst
    (show _ ≤ fuel by omega)
  have tried := behind shown (Nat.max_le.mp shallow).2 lexes (show _ ≤ fuel by omega)
  rw [tryItems.eq_def]
  simp only [next, triedFirst]
  exact tried

theorem tries_member {begun : Bool} {key : Option String}
    {members : List (Option String × Written)} {first others : List Bytes}
    (spellsKey : SpellsString (some []) body key)
    (tries : Tries (.value value) first) (behind : Tries (.members true members) others) :
    Tries (.members begun ((key, value) :: members))
      (lead begun ++ ((0x22 :: body) :: [0x3A] :: (first ++ others))) := by
  intro values bytes rest levels fuel shown shallow lexes enough
  simp only [List.length_append, List.length_cons] at enough
  simp only [Written.membersToJson?, Option.bind_eq_bind, Option.bind_eq_some_iff] at shown
  obtain ⟨name, rfl, json, shownFirst, values, shown, same⟩ := shown
  obtain rfl := Option.some.inj same
  obtain ⟨more, next, lexes⟩ := exists_nextMember lexes
  obtain ⟨after, keyed, lexes⟩ := exists_tryKey spellsKey lexes
  obtain ⟨middle, lexesFirst, lexes⟩ := Lexes.append_iff.mp lexes
  obtain ⟨fuel, rfl⟩ : ∃ others, fuel = others + 1 := ⟨fuel - 1, by omega⟩
  have triedFirst := tries shownFirst (Nat.max_le.mp shallow).1 lexesFirst
    (show _ ≤ fuel by omega)
  have tried := behind shown (Nat.max_le.mp shallow).2 lexes (show _ ≤ fuel by omega)
  rw [tryMembers.eq_def]
  simp only [next, keyed]
  change (tryValue fuel levels after).bind _ = _
  rw [triedFirst]
  exact tried

theorem Spells.tries {part : Part} (spells : Spells part tokens) : Tries part tokens := by
  induction spells with
  | null => exact tries_scalar .null fun _ shown => Option.some.inj shown ▸ rfl
  | boolTrue => exact tries_scalar .boolTrue fun _ shown => Option.some.inj shown ▸ rfl
  | boolFalse => exact tries_scalar .boolFalse fun _ shown => Option.some.inj shown ▸ rfl
  | string spells =>
      refine tries_scalar (.string spells) fun _ shown => ?_
      obtain ⟨_, -, rfl⟩ := Option.map_eq_some_iff.mp shown
      rfl
  | number takes =>
      refine tries_scalar (.number takes) fun _ shown => ?_
      obtain ⟨_, -, rfl⟩ := Option.map_eq_some_iff.mp shown
      rfl
  | negative takes =>
      refine tries_scalar (.negative takes) fun _ shown => ?_
      obtain ⟨_, -, rfl⟩ := Option.map_eq_some_iff.mp shown
      rfl
  | array _ behind => exact tries_array behind
  | object _ behind => exact tries_object behind
  | endItems =>
      intro values bytes rest levels fuel _ _ lexes enough
      obtain ⟨fuel, rfl⟩ : ∃ others, fuel = others + 1 := ⟨fuel - 1, by simp at enough; omega⟩
      rw [tryItems.eq_def]
      simp only [nextItem_close lexes]
  | item spells others tries behind => exact tries_item spells others.ne_nil tries behind
  | endMembers =>
      intro values bytes rest levels fuel _ _ lexes enough
      obtain ⟨fuel, rfl⟩ : ∃ others, fuel = others + 1 := ⟨fuel - 1, by simp at enough; omega⟩
      rw [tryMembers.eq_def]
      simp only [nextMember_close lexes]
  | member spellsKey _ _ tries behind => exact tries_member spellsKey tries behind

end Gatehouse.Json
