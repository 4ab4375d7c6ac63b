import Gatehouse.Proofs.Json.Tokens

/-!
# The grammar of JSON texts

Which lists of tokens spell which values. A loose reading finds a value if and only if the
tokens of the text spell it, so nothing else of a text counts, neither the blanks between its
tokens nor how deep its values are nested.
-/

namespace Gatehouse.Json

variable {bytes rest more : Bytes} {fuel : Nat} {tokens : List Bytes} {value : Written}

/-- A value, or what an array or object holds from some place on. -/
inductive Part where
  | value (value : Written)
  | items (begun : Bool) (items : List Written)
  | members (begun : Bool) (members : List (Option String × Written))

/-- A comma stands in front of everything but the first. -/
def lead (begun : Bool) : List Bytes := if begun then [[0x2C]] else []

theorem lead_false (tokens : List Bytes) : lead false ++ tokens = tokens := rfl

theorem lead_true (tokens : List Bytes) : lead true ++ tokens = [0x2C] :: tokens := rfl

/-- The tokens of a part, up to the closing mark of the array or object that it is of. -/
inductive Spells : Part → List Bytes → Prop
  | null : Spells (.value .null) [[0x6E, 0x75, 0x6C, 0x6C]]
  | boolTrue : Spells (.value (.bool true)) [[0x74, 0x72, 0x75, 0x65]]
  | boolFalse : Spells (.value (.bool false)) [[0x66, 0x61, 0x6C, 0x73, 0x65]]
  | string {body : Bytes} {text : Option String} (spells : SpellsString (some []) body text) :
      Spells (.value (.string text)) [0x22 :: body]
  | number {taken : Bytes} {number : Option Number}
      (takes : Takes (readNumber false false) taken number) :
      Spells (.value (.number number)) [taken]
  | negative {taken : Bytes} {number : Option Number}
      (takes : Takes (readNumber false true) taken number) :
      Spells (.value (.number number)) [0x2D :: taken]
  | array {items : List Written} {tokens : List Bytes}
      (behind : Spells (.items false items) tokens) :
      Spells (.value (.array items)) ([0x5B] :: tokens)
  | object {members : List (Option String × Written)} {tokens : List Bytes}
      (behind : Spells (.members false members) tokens) :
      Spells (.value (.object members)) ([0x7B] :: tokens)
  | endItems {begun : Bool} : Spells (.items begun []) [[0x5D]]
  | item {begun : Bool} {item : Written} {items : List Written} {first others : List Bytes}
      (spells : Spells (.value item) first) (behind : Spells (.items true items) others) :
      Spells (.items begun (item :: items)) (lead begun ++ (first ++ others))
  | endMembers {begun : Bool} : Spells (.members begun []) [[0x7D]]
  | member {begun : Bool} {key : Option String} {value : Written}
      {members : List (Option String × Written)} {body : Bytes} {first others : List Bytes}
      (spellsKey : SpellsString (some []) body key) (spells : Spells (.value value) first)
      (behind : Spells (.members true members) others) :
      Spells (.members begun ((key, value) :: members))
        (lead begun ++ ((0x22 :: body) :: [0x3A] :: (first ++ others)))

/-! ## First tokens -/

theorem exists_digit_of_readNumber {negative : Bool} {number : Option Number}
    (read : readNumber false negative bytes = .ok (number, rest)) :
    ∃ d more, bytes = d :: more ∧ isDigit d = true := by
  obtain ⟨digits, behind, rfl, begins, -⟩ := exists_beginsNumber read
  obtain ⟨d, more, rfl⟩ := List.exists_cons_of_ne_nil begins.some
  exact ⟨d, _, rfl, begins.all d List.mem_cons_self⟩

theorem Takes.exists_digit {negative : Bool} {taken : Bytes} {number : Option Number}
    (takes : Takes (readNumber false negative) taken number) :
    ∃ d more, taken = d :: more ∧ isDigit d = true := by
  obtain ⟨d, more, shape, digit⟩ := exists_digit_of_readNumber (takes.reads [] stops_nil)
  rw [List.append_nil] at shape
  exact ⟨d, more, shape, digit⟩

theorem Spells.ne_nil {part : Part} (spells : Spells part tokens) : tokens ≠ [] := by
  induction spells with
  | item _ _ first _ => simp [first]
  | member => simp
  | _ => exact List.cons_ne_nil _ _

/-- No value begins with a mark that stands behind values. -/
theorem Spells.head (spells : Spells (.value value) tokens) :
    ∃ b body more, tokens = (b :: body) :: more ∧ b ≠ 0x5D ∧ b ≠ 0x7D ∧ b ≠ 0x2C := by
  cases spells with
  | null => exact ⟨_, _, _, rfl, by decide⟩
  | boolTrue => exact ⟨_, _, _, rfl, by decide⟩
  | boolFalse => exact ⟨_, _, _, rfl, by decide⟩
  | string spells => exact ⟨_, _, _, rfl, by decide⟩
  | number takes =>
      obtain ⟨d, more, rfl, digit⟩ := takes.exists_digit
      exact ⟨_, _, _, rfl, ne_of_digit digit _ rfl, ne_of_digit digit _ rfl,
        ne_of_digit digit _ rfl⟩
  | negative takes => exact ⟨_, _, _, rfl, by decide⟩
  | array behind => exact ⟨_, _, _, rfl, by decide⟩
  | object behind => exact ⟨_, _, _, rfl, by decide⟩

/-! ## What is read is spelled -/

theorem readWord_eq_ok_iff {letters : Bytes} :
    readWord letters bytes = .ok rest ↔ bytes = letters ++ rest := by
  induction letters generalizing bytes with
  | nil => simp only [readWord, Except.ok.injEq, List.nil_append]
  | cons letter letters ih =>
      cases bytes with
      | nil => simp [readWord]
      | cons b bytes =>
          by_cases same : b = letter
          · simp [readWord, same, ih]
          · simp [readWord, same]

/-- An array or object goes on where a value of it was read. -/
theorem stops_of_skipSpaces {b : UInt8} (shape : skipSpaces bytes = b :: more)
    (mark : isMark b = true) : Stops bytes := by
  obtain ⟨gap, blank, whole⟩ := exists_gap bytes
  rw [whole, shape]
  intro first among
  cases gap with
  | nil =>
      obtain rfl := Option.some.inj among
      simp [isSolid, mark]
  | cons space gap =>
      obtain rfl := Option.some.inj among
      simp [isSolid, blank _ List.mem_cons_self]

/-- Behind a value, what has begun is closed or goes on with a comma. -/
theorem stops_of_next {close : UInt8} {ended : Failure} {closed others : Bytes → Reading Written}
    {wrong : Bytes → Failure} (mark : isMark close = true)
    (read : (match skipSpaces bytes with
      | [] => .error ended
      | b :: behind =>
          if b = close then closed behind
          else if b = 0x2C then others behind
          else .error (wrong behind) : Reading Written) = .ok (value, rest)) : Stops bytes := by
  split at read
  · injection read
  · next b behind shape =>
      apply stops_of_skipSpaces shape
      split at read
      · next closes => rw [closes, mark]
      · split at read
        · next comma => rw [comma]; rfl
        · injection read

theorem stops_of_readItems {care : Care} {former : Written} {done : List Written}
    (read : readItems fuel care (former :: done) bytes = .ok (value, rest)) : Stops bytes := by
  cases fuel with
  | zero => injection read
  | succ fuel =>
      rw [readItems.eq_def] at read
      exact stops_of_next rfl read

theorem stops_of_readMembers {care : Care} {former : Option String × Written}
    {done : List (Option String × Written)}
    (read : readMembers fuel care (former :: done) bytes = .ok (value, rest)) : Stops bytes := by
  cases fuel with
  | zero => injection read
  | succ fuel =>
      rw [readMembers.eq_def] at read
      exact stops_of_next rfl read

/-- A word that is read is the token of its value. -/
theorem exists_lexes_word {b : UInt8} {letters : Bytes} {known : Written}
    (read : (match readWord letters more with
      | .error failure => .error failure
      | .ok after => .ok (known, after) : Reading Written) = .ok (value, rest))
    (shape : skipSpaces bytes = b :: more) (solid : (b :: letters).all isSolid = true)
    (stops : Stops rest) (spells : Spells (.value known) [b :: letters]) :
    ∃ tokens, Lexes bytes tokens rest ∧ Spells (.value value) tokens := by
  split at read
  · injection read
  · next after found =>
      injection read with same
      obtain ⟨rfl, rfl⟩ := Prod.ext_iff.mp same
      rw [readWord_eq_ok_iff.mp found] at shape
      exact ⟨_, .single shape (.word (List.all_eq_true.mp solid) stops), spells⟩

/-- What the readings of some depth find is spelled by what they take. -/
structure Sound (fuel : Nat) : Prop where
  value : ∀ {bytes value rest}, readValue fuel .loose bytes = .ok (value, rest) → Stops rest →
    ∃ tokens, Lexes bytes tokens rest ∧ Spells (.value value) tokens
  items : ∀ {done bytes value rest}, readItems fuel .loose done bytes = .ok (value, rest) →
    ∃ items tokens, value = .array (done.reverse ++ items) ∧ Lexes bytes tokens rest ∧
      Spells (.items (!done.isEmpty) items) tokens
  members : ∀ {done bytes value rest}, readMembers fuel .loose done bytes = .ok (value, rest) →
    ∃ members tokens, value = .object (done.reverse ++ members) ∧ Lexes bytes tokens rest ∧
      Spells (.members (!done.isEmpty) members) tokens
  member : ∀ {bytes key value rest}, readMember fuel .loose bytes = .ok ((key, value), rest) →
    Stops rest → ∃ body after tokens, bytes = body ++ after ∧ SpellsString (some []) body key ∧
      Lexes after ([0x3A] :: tokens) rest ∧ Spells (.value value) tokens

namespace Sound

variable (sound : Sound fuel)
include sound

theorem value_succ (read : readValue (fuel + 1) .loose bytes = .ok (value, rest))
    (stops : Stops rest) : ∃ tokens, Lexes bytes tokens rest ∧ Spells (.value value) tokens := by
  rw [readValue.eq_def] at read
  simp only at read
  split at read
  · injection read
  next b more shape =>
  split at read
  · next quote =>
      subst quote
      split at read
      · injection read
      · next text after found =>
          injection read with same
          obtain ⟨rfl, rfl⟩ := Prod.ext_iff.mp same
          obtain ⟨body, rfl, spells⟩ := exists_spellsString found
          exact ⟨_, .single shape (.string spells.isClosed), .string spells⟩
  split at read
  · next opens =>
      subst opens
      obtain ⟨items, tokens, rfl, lexes, spells⟩ := sound.items read
      exact ⟨_, Lexes.cons_iff.mpr ⟨more, shape, .mark rfl, lexes⟩, .array spells⟩
  split at read
  · next opens =>
      subst opens
      obtain ⟨members, tokens, rfl, lexes, spells⟩ := sound.members read
      exact ⟨_, Lexes.cons_iff.mpr ⟨more, shape, .mark rfl, lexes⟩, .object spells⟩
  split at read
  · next sign =>
      subst sign
      split at read
      · injection read
      · next number after found =>
          injection read with same
          obtain ⟨rfl, rfl⟩ := Prod.ext_iff.mp same
          obtain ⟨taken, rfl, takes⟩ := isLocal_readNumber found stops
          have solid : ∀ c ∈ 0x2D :: taken, isSolid c = true :=
            List.forall_mem_cons.mpr ⟨rfl, takes.solid⟩
          exact ⟨_, .single shape (.word solid stops), .negative takes⟩
  split at read
  · next digit =>
      split at read
      · injection read
      · next number after found =>
          injection read with same
          obtain ⟨rfl, rfl⟩ := Prod.ext_iff.mp same
          obtain ⟨taken, whole, takes⟩ := isLocal_readNumber found stops
          obtain ⟨d, behind, rfl, -⟩ := takes.exists_digit
          exact ⟨_, .single (shape.trans whole) (.word takes.solid stops), .number takes⟩
  split at read
  · next letter =>
      subst letter
      exact exists_lexes_word read shape rfl stops .null
  split at read
  · next letter =>
      subst letter
      exact exists_lexes_word read shape rfl stops .boolTrue
  split at read
  · next letter =>
      subst letter
      exact exists_lexes_word read shape rfl stops .boolFalse
  injection read

theorem items_succ {done : List Written}
    (read : readItems (fuel + 1) .loose done bytes = .ok (value, rest)) :
    ∃ items tokens, value = .array (done.reverse ++ items) ∧ Lexes bytes tokens rest ∧
      Spells (.items (!done.isEmpty) items) tokens := by
  rw [readItems.eq_def] at read
  simp only at read
  split at read
  · injection read
  next b more shape =>
  split at read
  · next close =>
      subst close
      injection read with same
      obtain ⟨rfl, rfl⟩ := Prod.ext_iff.mp same
      exact ⟨[], _, by rw [List.append_nil], .single shape (.mark rfl), .endItems⟩
  split at read
  · split at read
    · injection read
    · next item after found =>
        obtain ⟨first, lexesFirst, spells⟩ := sound.value found (stops_of_readItems read)
        obtain ⟨items, others, rfl, lexes, behind⟩ := sound.items read
        have whole := Lexes.append_iff.mpr ⟨_, lexesFirst, lexes⟩
        rw [← shape, Lexes.skip_iff (by simp [spells.ne_nil])] at whole
        exact ⟨item :: items, _, rfl, whole, .item spells behind⟩
  · next former done =>
    split at read
    · next comma =>
        subst comma
        split at read
        · injection read
        next next after shapeNext =>
        split at read
        · injection read
        split at read
        · injection read
        · next item after found =>
            obtain ⟨first, lexesFirst, spells⟩ := sound.value found (stops_of_readItems read)
            obtain ⟨items, others, rfl, lexes, behind⟩ := sound.items read
            have whole := Lexes.append_iff.mpr ⟨_, lexesFirst, lexes⟩
            rw [← shapeNext, Lexes.skip_iff (by simp [spells.ne_nil])] at whole
            refine ⟨item :: items, _, by simp, Lexes.cons_iff.mpr ⟨more, shape, .mark rfl, whole⟩,
              .item spells behind⟩
    · injection read

theorem members_succ {done : List (Option String × Written)}
    (read : readMembers (fuel + 1) .loose done bytes = .ok (value, rest)) :
    ∃ members tokens, value = .object (done.reverse ++ members) ∧ Lexes bytes tokens rest ∧
      Spells (.members (!done.isEmpty) members) tokens := by
  rw [readMembers.eq_def] at read
  simp only at read
  split at read
  · injection read
  next b more shape =>
  split at read
  · next close =>
      subst close
      injection read with same
      obtain ⟨rfl, rfl⟩ := Prod.ext_iff.mp same
      exact ⟨[], _, by rw [List.append_nil], .single shape (.mark rfl), .endMembers⟩
  split at read
  · split at read
    · next quote =>
        subst quote
        split at read
        · injection read
        · next entry after found =>
            obtain ⟨key, value⟩ := entry
            obtain ⟨body, behindKey, first, rfl, spellsKey, lexesFirst, spells⟩ :=
              sound.member found (stops_of_readMembers read)
            obtain ⟨members, others, rfl, lexes, behind⟩ := sound.members read
            have whole := Lexes.append_iff.mpr ⟨_, lexesFirst, lexes⟩
            exact ⟨(key, value) :: members, _, rfl,
              Lexes.cons_iff.mpr ⟨_, shape, .string spellsKey.isClosed, whole⟩,
              .member spellsKey spells behind⟩
    · injection read
  · next former done =>
    split at read
    · next comma =>
        subst comma
        split at read
        · injection read
        next next after shapeNext =>
        split at read
        · next quote =>
            subst quote
            split at read
            · injection read
            · next entry after found =>
                obtain ⟨key, value⟩ := entry
                obtain ⟨body, behindKey, first, rfl, spellsKey, lexesFirst, spells⟩ :=
                  sound.member found (stops_of_readMembers read)
                obtain ⟨members, others, rfl, lexes, behind⟩ := sound.members read
                have whole := Lexes.append_iff.mpr ⟨_, lexesFirst, lexes⟩
                have second := Lexes.cons_iff.mpr
                  ⟨_, shapeNext, .string spellsKey.isClosed, whole⟩
                exact ⟨(key, value) :: members, _, by simp,
                  Lexes.cons_iff.mpr ⟨more, shape, .mark rfl, second⟩,
                  .member spellsKey spells behind⟩
        · split at read <;> injection read
    · injection read

theorem member_succ {key : Option String}
    (read : readMember (fuel + 1) .loose bytes = .ok ((key, value), rest)) (stops : Stops rest) :
    ∃ body after tokens, bytes = body ++ after ∧ SpellsString (some []) body key ∧
      Lexes after ([0x3A] :: tokens) rest ∧ Spells (.value value) tokens := by
  rw [readMember.eq_def] at read
  simp only at read
  split at read
  · injection read
  next text behind found =>
  obtain ⟨body, rfl, spellsKey⟩ := exists_spellsString found
  split at read
  · injection read
  next b more shape =>
  split at read
  · next colon =>
      subst colon
      split at read
      · injection read
      · next shown after readShown =>
          injection read with same
          obtain ⟨both, rfl⟩ := Prod.ext_iff.mp same
          obtain ⟨rfl, rfl⟩ := Prod.ext_iff.mp both
          obtain ⟨tokens, lexes, spells⟩ := sound.value readShown stops
          exact ⟨body, behind, tokens, rfl, spellsKey,
            Lexes.cons_iff.mpr ⟨more, shape, .mark rfl, lexes⟩, spells⟩
  · injection read

end Sound

theorem sound (fuel : Nat) : Sound fuel := by
  induction fuel with
  | zero =>
      constructor
      · intro bytes value rest read
        injection read
      · intro done bytes value rest read
        injection read
      · intro done bytes value rest read
        injection read
      · intro bytes key value rest read
        injection read
  | succ fuel ih => exact ⟨ih.value_succ, ih.items_succ, ih.members_succ, ih.member_succ⟩

/-! ## What is spelled is read -/

/-- What a reading finds of some tokens, whatever follows them. Two levels for each token are
enough, since every level but the outermost opens behind a token of its own. -/
def Reads : Part → List Bytes → Prop
  | .value value, tokens => ∀ {bytes rest}, Lexes bytes tokens rest → ∀ fuel,
      2 * tokens.length ≤ fuel → readValue fuel .loose bytes = .ok (value, rest)
  | .items begun items, tokens => ∀ done {bytes rest}, done.isEmpty = !begun →
      Lexes bytes tokens rest → ∀ fuel, 2 * tokens.length ≤ fuel →
      readItems fuel .loose done bytes = .ok (.array (done.reverse ++ items), rest)
  | .members begun members, tokens => ∀ done {bytes rest}, done.isEmpty = !begun →
      Lexes bytes tokens rest → ∀ fuel, 2 * tokens.length ≤ fuel →
      readMembers fuel .loose done bytes = .ok (.object (done.reverse ++ members), rest)

/-- The first token of some, with one level of reading for it and one more. -/
theorem exists_first {token : Bytes} (lexes : Lexes bytes (token :: tokens) rest)
    (enough : 2 * (token :: tokens).length ≤ fuel) :
    ∃ levels more, fuel = levels + 2 ∧ 2 * tokens.length ≤ levels ∧
      skipSpaces bytes = token ++ more ∧ IsToken token more ∧ Lexes more tokens rest := by
  obtain ⟨more, shape, isToken, behind⟩ := Lexes.cons_iff.mp lexes
  rw [List.length_cons] at enough
  exact ⟨fuel - 2, more, by omega, by omega, shape, isToken, behind⟩

/-- A value of one token is read of it alone. -/
theorem reads_single {token : Bytes}
    (reads : ∀ {fuel bytes rest}, IsToken token rest → skipSpaces bytes = token ++ rest →
      readValue (fuel + 1) .loose bytes = .ok (value, rest)) : Reads (.value value) [token] := by
  intro bytes rest lexes fuel enough
  obtain ⟨levels, more, rfl, -, shape, isToken, behind⟩ := exists_first lexes enough
  obtain rfl := Lexes.nil_iff.mp behind
  exact reads isToken shape

theorem reads_null : Reads (.value .null) [[0x6E, 0x75, 0x6C, 0x6C]] :=
  reads_single fun _ shape => by
    rw [readValue.eq_def]
    simp only [shape]
    rfl

theorem reads_true : Reads (.value (.bool true)) [[0x74, 0x72, 0x75, 0x65]] :=
  reads_single fun _ shape => by
    rw [readValue.eq_def]
    simp only [shape]
    rfl

theorem reads_false : Reads (.value (.bool false)) [[0x66, 0x61, 0x6C, 0x73, 0x65]] :=
  reads_single fun _ shape => by
    rw [readValue.eq_def]
    simp only [shape]
    rfl

theorem reads_string {body : Bytes} {text : Option String}
    (spells : SpellsString (some []) body text) :
    Reads (.value (.string text)) [0x22 :: body] :=
  reads_single fun {_ _ rest} _ shape => by
    rw [readValue.eq_def]
    simp only [shape, List.cons_append, if_true, Care.loose, spells.readString rest]

theorem reads_number {taken : Bytes} {number : Option Number}
    (takes : Takes (readNumber false false) taken number) :
    Reads (.value (.number number)) [taken] := by
  obtain ⟨d, more, rfl, digit⟩ := takes.exists_digit
  refine reads_single fun {_ _ rest} isToken shape => ?_
  have read := takes.reads rest (isToken.word_of_cons (isSolid_of_digit digit)).2
  rw [List.cons_append] at read
  rw [readValue.eq_def]
  simp [shape, ne_of_digit digit 0x22 rfl, ne_of_digit digit 0x5B rfl, ne_of_digit digit 0x7B rfl,
    ne_of_digit digit 0x2D rfl, digit, Care.loose, read]

theorem reads_negative {taken : Bytes} {number : Option Number}
    (takes : Takes (readNumber false true) taken number) :
    Reads (.value (.number number)) [0x2D :: taken] :=
  reads_single fun {_ _ rest} isToken shape => by
    have read := takes.reads rest (isToken.word_of_cons rfl).2
    rw [readValue.eq_def]
    simp [shape, Care.loose, read]

theorem reads_array {items : List Written} (behind : Reads (.items false items) tokens) :
    Reads (.value (.array items)) ([0x5B] :: tokens) := by
  intro bytes rest lexes fuel enough
  obtain ⟨levels, more, rfl, enough, shape, -, lexes⟩ := exists_first lexes enough
  have read := behind [] rfl lexes _ (Nat.le_succ_of_le enough)
  rw [readValue.eq_def]
  simpa [shape, Care.deeper?, Care.loose] using read

theorem reads_object {members : List (Option String × Written)}
    (behind : Reads (.members false members) tokens) :
    Reads (.value (.object members)) ([0x7B] :: tokens) := by
  intro bytes rest lexes fuel enough
  obtain ⟨levels, more, rfl, enough, shape, -, lexes⟩ := exists_first lexes enough
  have read := behind [] rfl lexes _ (Nat.le_succ_of_le enough)
  rw [readValue.eq_def]
  simpa [shape, Care.deeper?, Care.loose] using read

theorem reads_endItems {begun : Bool} : Reads (.items begun []) [[0x5D]] := by
  intro done bytes rest _ lexes fuel enough
  obtain ⟨levels, more, rfl, -, shape, -, lexes⟩ := exists_first lexes enough
  obtain rfl := Lexes.nil_iff.mp lexes
  rw [readItems.eq_def]
  simp [shape]

theorem reads_endMembers {begun : Bool} : Reads (.members begun []) [[0x7D]] := by
  intro done bytes rest _ lexes fuel enough
  obtain ⟨levels, more, rfl, -, shape, -, lexes⟩ := exists_first lexes enough
  obtain rfl := Lexes.nil_iff.mp lexes
  rw [readMembers.eq_def]
  simp [shape]

/-- A value behind which others follow begins at the first byte that is no blank. -/
theorem exists_item {first others : List Bytes} (spells : Spells (.value value) first)
    (lexes : Lexes bytes (first ++ others) rest) :
    ∃ b more middle, skipSpaces bytes = b :: more ∧ b ≠ 0x5D ∧ Lexes (b :: more) first middle ∧
      Lexes middle others rest := by
  obtain ⟨middle, lexes, behind⟩ := Lexes.append_iff.mp lexes
  obtain ⟨b, body, tokens, rfl, other, -⟩ := spells.head
  obtain ⟨more, shape, -⟩ := Lexes.cons_iff.mp lexes
  refine ⟨b, body ++ more, middle, shape, other, ?_, behind⟩
  rw [← List.cons_append, ← shape]
  exact (Lexes.skip_iff (List.cons_ne_nil _ _)).mpr lexes

theorem reads_item {begun : Bool} {item : Written} {items : List Written}
    {first others : List Bytes} (spells : Spells (.value item) first)
    (some : others ≠ []) (reads : Reads (.value item) first)
    (behind : Reads (.items true items) others) :
    Reads (.items begun (item :: items)) (lead begun ++ (first ++ others)) := by
  intro done bytes rest begins lexes fuel enough
  have someFirst := List.length_pos_iff.mpr spells.ne_nil
  have someOthers := List.length_pos_iff.mpr some
  cases begun with
  | false =>
      obtain rfl := List.isEmpty_iff.mp begins
      rw [lead_false] at lexes enough
      rw [List.length_append] at enough
      obtain ⟨levels, rfl⟩ : ∃ levels, fuel = levels + 1 := ⟨fuel - 1, by omega⟩
      obtain ⟨b, more, middle, shape, open_, lexesFirst, lexes⟩ := exists_item spells lexes
      have readItem := reads lexesFirst levels (by omega)
      rw [readItems.eq_def]
      simp only [shape, if_neg open_, readItem]
      exact behind _ rfl lexes _ (by omega)
  | true =>
      cases done with
      | nil => injection begins
      | cons former done =>
          rw [lead_true] at lexes enough
          obtain ⟨levels, more, rfl, enough, shape, -, lexes⟩ := exists_first lexes enough
          rw [List.length_append] at enough
          obtain ⟨b, next, middle, shapeNext, open_, lexesFirst, lexes⟩ := exists_item spells lexes
          have readItem := reads lexesFirst (levels + 1) (by omega)
          have readOthers := behind (item :: former :: done) rfl lexes (levels + 1) (by omega)
          rw [readItems.eq_def]
          simpa [shape, shapeNext, open_, readItem] using readOthers

/-- A member is read behind the opening quote of its key. -/
theorem readMember_spelled {key : Option String} {body after middle : Bytes} {first : List Bytes}
    (spellsKey : SpellsString (some []) body key)
    (lexes : Lexes after ([0x3A] :: first) middle) (fuel : Nat)
    (enough : 2 * ([0x3A] :: first).length ≤ fuel) (reads : Reads (.value value) first) :
    readMember fuel .loose (body ++ after) = .ok ((key, value), middle) := by
  obtain ⟨levels, more, rfl, enough, shape, -, lexes⟩ := exists_first lexes enough
  have read := reads lexes _ (Nat.le_succ_of_le enough)
  rw [readMember.eq_def]
  have readKey := spellsKey.readString after
  simp only [Care.loose] at read readKey ⊢
  simp [readKey, shape, read]

theorem reads_member {begun : Bool} {key : Option String}
    {members : List (Option String × Written)} {body : Bytes} {first others : List Bytes}
    (spellsKey : SpellsString (some []) body key) (someFirst : first ≠ []) (some : others ≠ [])
    (reads : Reads (.value value) first) (behind : Reads (.members true members) others) :
    Reads (.members begun ((key, value) :: members))
      (lead begun ++ ((0x22 :: body) :: [0x3A] :: (first ++ others))) := by
  intro done bytes rest begins lexes fuel enough
  have someFirst := List.length_pos_iff.mpr someFirst
  have someOthers := List.length_pos_iff.mpr some
  cases begun with
  | false =>
      obtain rfl := List.isEmpty_iff.mp begins
      rw [lead_false] at lexes enough
      obtain ⟨levels, more, rfl, enough, shape, -, lexes⟩ := exists_first lexes enough
      rw [← List.cons_append] at lexes enough
      rw [List.length_append] at enough
      obtain ⟨middle, lexesFirst, lexes⟩ := Lexes.append_iff.mp lexes
      have entry := readMember_spelled spellsKey lexesFirst (levels + 1) (by omega) reads
      have others := behind [(key, value)] rfl lexes (levels + 1) (by omega)
      rw [readMembers.eq_def]
      simpa [shape, entry] using others
  | true =>
      cases done with
      | nil => injection begins
      | cons former done =>
          rw [lead_true] at lexes enough
          obtain ⟨levels, more, rfl, enough, shape, -, lexes⟩ := exists_first lexes enough
          obtain ⟨levels, next, rfl, enough, shapeNext, -, lexes⟩ := exists_first lexes enough
          rw [← List.cons_append] at lexes enough
          rw [List.length_append] at enough
          obtain ⟨middle, lexesFirst, lexes⟩ := Lexes.append_iff.mp lexes
          have entry := readMember_spelled spellsKey lexesFirst (levels + 3) (by omega) reads
          have others := behind ((key, value) :: former :: done) rfl lexes (levels + 3)
            (by omega)
          rw [readMembers.eq_def]
          simpa [shape, shapeNext, entry] using others

theorem Spells.reads {part : Part} (spells : Spells part tokens) : Reads part tokens := by
  induction spells with
  | null => exact reads_null
  | boolTrue => exact reads_true
  | boolFalse => exact reads_false
  | string spells => exact reads_string spells
  | number takes => exact reads_number takes
  | negative takes => exact reads_negative takes
  | array _ behind => exact reads_array behind
  | object _ behind => exact reads_object behind
  | endItems => exact reads_endItems
  | item spells others reads behind => exact reads_item spells others.ne_nil reads behind
  | endMembers => exact reads_endMembers
  | member spellsKey spells others reads behind =>
      exact reads_member spellsKey spells.ne_nil others.ne_nil reads behind

/-! ## Texts -/

/-- Some bytes are the text of a value: tokens that spell it, with or without blanks between
them. -/
def IsText (value : Written) (bytes : Bytes) : Prop :=
  ∃ tokens, HasTokens bytes tokens ∧ Spells (.value value) tokens

/-- Bytes are read as a value if and only if they are a text of it. -/
theorem ofBytes?_eq_some_iff : Written.ofBytes? bytes = some value ↔ IsText value bytes := by
  constructor
  · intro read
    simp only [Written.ofBytes?, readText] at read
    split at read
    · injection read
    · next shown behind readShown =>
        split at read
        · next skipped =>
            obtain rfl := Option.some.inj read
            have blank := isBlank_iff.mpr skipped
            have stops : Stops behind := by
              intro b first
              obtain ⟨others, rfl⟩ := List.head?_eq_some_iff.mp first
              simp [isSolid, blank b List.mem_cons_self]
            obtain ⟨tokens, lexes, spells⟩ := (sound _).value readShown stops
            exact ⟨tokens, ⟨behind, blank, lexes⟩, spells⟩
        · injection read
  · rintro ⟨tokens, ⟨gap, blank, lexes⟩, spells⟩
    have short := lexes.length_le
    have read := spells.reads lexes (3 * bytes.length + 3) (by omega)
    simp only [Written.ofBytes?, readText, read, isBlank_iff.mp blank]
    rfl

/-- Blanks between tokens do not count. -/
theorem ofBytes?_congr {other : Bytes} (first : HasTokens bytes tokens)
    (second : HasTokens other tokens) : Written.ofBytes? bytes = Written.ofBytes? other := by
  have shared : ∀ {bytes other : Bytes} {value : Written}, HasTokens bytes tokens →
      HasTokens other tokens → Written.ofBytes? bytes = some value →
      Written.ofBytes? other = some value := by
    rintro bytes other value ⟨gap, blank, lexes⟩ second read
    obtain ⟨found, ⟨blanks, blankFound, lexesFound⟩, spells⟩ := ofBytes?_eq_some_iff.mp read
    obtain rfl := lexes.unique blank lexesFound blankFound
    exact ofBytes?_eq_some_iff.mpr ⟨_, second, spells⟩
  apply Option.ext
  intro value
  exact ⟨shared first second, shared second first⟩

/-- A value that a mark closes, or the rest of one. -/
def Part.IsClosing : Part → Prop
  | .value (.array _) | .value (.object _) | .items _ _ | .members _ _ => True
  | .value _ => False

theorem Spells.closes {part : Part} (spells : Spells part tokens) (closing : part.IsClosing) :
    ∃ front b, isMark b = true ∧ tokens = front ++ [[b]] := by
  induction spells with
  | null => exact closing.elim
  | boolTrue => exact closing.elim
  | boolFalse => exact closing.elim
  | string => exact closing.elim
  | number => exact closing.elim
  | negative => exact closing.elim
  | array _ ih =>
      obtain ⟨front, b, mark, rfl⟩ := ih trivial
      exact ⟨_ :: front, b, mark, rfl⟩
  | object _ ih =>
      obtain ⟨front, b, mark, rfl⟩ := ih trivial
      exact ⟨_ :: front, b, mark, rfl⟩
  | endItems => exact ⟨[], 0x5D, rfl, rfl⟩
  | @item begun _ _ first _ _ _ _ ih =>
      obtain ⟨front, b, mark, rfl⟩ := ih trivial
      exact ⟨lead begun ++ (first ++ front), b, mark, by simp only [List.append_assoc]⟩
  | endMembers => exact ⟨[], 0x7D, rfl, rfl⟩
  | @member begun _ _ _ body first _ _ _ _ _ ih =>
      obtain ⟨front, b, mark, rfl⟩ := ih trivial
      exact ⟨lead begun ++ ((0x22 :: body) :: [0x3A] :: (first ++ front)), b, mark,
        by simp only [List.append_assoc, List.cons_append]⟩

/-- Nothing but blanks may follow an array or object. -/
theorem ofBytes?_append_eq_none {extra : Bytes} (read : Written.ofBytes? bytes = some value)
    (closing : (Part.value value).IsClosing) (trailing : ¬ IsBlank extra) :
    Written.ofBytes? (bytes ++ extra) = none := by
  obtain ⟨tokens, ⟨gap, blank, lexes⟩, spells⟩ := ofBytes?_eq_some_iff.mp read
  obtain ⟨front, b, mark, rfl⟩ := spells.closes closing
  obtain ⟨taken, rfl, replaced⟩ := lexes.replace_mark mark
  have whole := replaced (gap ++ extra)
  have short := whole.length_le
  have read := spells.reads whole (3 * (taken ++ (gap ++ extra)).length + 3) (by omega)
  rw [List.append_assoc, Written.ofBytes?, readText, read]
  simp only [skipSpaces_gap blank]
  cases skipped : skipSpaces extra with
  | nil => exact absurd (isBlank_iff.mpr skipped) trailing
  | cons b after => rfl

end Gatehouse.Json
