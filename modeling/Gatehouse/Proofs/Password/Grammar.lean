import Gatehouse.Password.Phc
import Gatehouse.Proofs.Encoding.Base64
import Gatehouse.Proofs.Json.NumberTexts
import Mathlib.Algebra.Group.Nat.Defs

/-!
# The grammar of hash texts

A hash text has its fields behind dollar signs: the variant, the version and the costs, each of
which may be left out, the salt and the digest. Numbers are in decimals without leading zeros,
and bytes in base 64. These texts are read as the hashes that they write, and no others are.
-/

namespace Gatehouse.PasswordHash

open Argon2 (Params Variant)

/-! ## Numbers -/

theorem foldl_eq_ofDigitChars (digits : List Char) (start : Nat) :
    digits.foldl (fun n c => n * 10 + (c.toNat - 48)) start =
      Nat.ofDigitChars 10 digits start := by
  induction digits generalizing start with
  | nil => rw [Nat.ofDigitChars_nil, List.foldl_nil]
  | cons c digits ih => rw [List.foldl_cons, ih, Nat.ofDigitChars_cons, Nat.mul_comm]; rfl

/-- A number is read from its decimals and from nothing else. -/
theorem decimal?_eq_some_iff {digits : List Char} {n : Nat} :
    decimal? digits = some n ↔ digits = Nat.toDigits 10 n ∧ n < UInt32.size := by
  simp only [decimal?, foldl_eq_ofDigitChars]
  constructor
  · intro read
    split at read
    · contradiction
    · next shape =>
        simp only [not_or, Bool.not_eq_true, Bool.not_eq_false', not_and] at shape
        rcases shape with ⟨nonempty, decimal, plain⟩
        split at read
        · next fits =>
            obtain rfl := Option.some.inj read
            refine ⟨(Json.toDigits_ofDigitChars ?_ ?_ ?_).symm, fits⟩
            · exact List.all_eq_true.mp decimal
            · exact List.isEmpty_eq_false_iff.mp nonempty
            · intro zero
              have single : digits.length = 1 :=
                Decidable.not_not.mp fun longer => plain longer zero
              rcases List.length_eq_one_iff.mp single with ⟨c, rfl⟩
              rw [Option.some.inj zero]
        · contradiction
  · rintro ⟨rfl, fits⟩
    rw [if_neg, Nat.ofDigitChars_ten_toDigits, if_pos fits]
    rintro (none | other | ⟨longer, zero⟩)
    · exact Nat.toDigits_ne_nil (List.isEmpty_iff.mp none)
    · have decimal : (Nat.toDigits 10 n).all Char.isDigit = true :=
        List.all_eq_true.mpr fun c => Nat.isDigit_of_mem_toDigits (by decide) (by decide)
      rw [decimal] at other
      contradiction
    · rw [Json.eq_zero_of_head? zero] at longer
      exact longer rfl

/-! ## Names and values -/

theorem not_mem_of_all {holds : Char → Bool} {text : List Char} (all : text.all holds = true)
    {mark : Char} (apart : holds mark = false) : mark ∉ text := by
  intro member
  have inside := List.all_eq_true.mp all mark member
  rw [apart] at inside
  exact Bool.false_ne_true inside

theorem mark_not_mem_of_isName {name : List Char} (named : isName name = true) {mark : Char}
    (isMark : mark ∈ ['$', ',', '=']) : mark ∉ name := by
  have apart : ∀ mark ∈ ['$', ',', '='],
      (('a' ≤ mark && mark ≤ 'z') || mark.isDigit || mark == '-') = false := by
    simp only [List.forall_mem_cons, List.not_mem_nil, false_imp_iff, implies_true]
    decide
  exact not_mem_of_all (Bool.and_eq_true_iff.mp named).2 (apart mark isMark)

theorem mark_not_mem_of_isValue {value : List Char} (valued : isValue value = true) {mark : Char}
    (isMark : mark ∈ ['$', ',', '=']) : mark ∉ value := by
  have apart : ∀ mark ∈ ['$', ',', '='], (mark.isAlphanum || mark == '/' || mark == '+' ||
      mark == '.' || mark == '-') = false := by
    simp only [List.forall_mem_cons, List.not_mem_nil, false_imp_iff, implies_true]
    decide
  exact not_mem_of_all (Bool.and_eq_true_iff.mp valued).2 (apart mark isMark)

theorem mark_not_mem_encode {mark : Char} (isMark : mark ∈ ['$', ',', '=']) (bytes : Bytes) :
    mark ∉ Base64.plain.encode bytes := by
  have digits : ∀ mark ∈ ['$', ',', '='], ∀ value < 64,
      (Base64.plain.digit value != mark) = true := by
    simp only [List.forall_mem_cons, List.not_mem_nil, false_imp_iff, implies_true]
    decide
  have all : (Base64.plain.encode bytes).all (· != mark) = true :=
    Base64.all_encode (digits mark isMark) bytes
  exact not_mem_of_all all (bne_self_eq_false mark)

/-- The digits of no more than 48 bytes are a value. -/
theorem isValue_encode_iff {bytes : Bytes} :
    isValue (Base64.plain.encode bytes) = true ↔ bytes.length ≤ 48 := by
  have digits : ∀ value < 64, (let c := Base64.plain.digit value
      c.isAlphanum || c == '/' || c == '+' || c == '.' || c == '-') = true := by decide
  rw [isValue, Base64.length_encode, Base64.all_encode digits, Bool.and_true, decide_eq_true_eq]
  omega

theorem isValue_toDigits {n : Nat} (fits : n < UInt32.size) :
    isValue (Nat.toDigits 10 n) = true := by
  have short : (Nat.toDigits 10 n).length ≤ 10 :=
    (Nat.length_toDigits_le_iff (by decide) (by decide)).mpr (Nat.lt_trans fits (by decide))
  rw [isValue, Bool.and_eq_true, decide_eq_true_eq]
  constructor
  · exact Nat.le_trans short (by decide)
  · apply List.all_eq_true.mpr
    intro c member
    have digit := Nat.isDigit_of_mem_toDigits (by decide) (by decide) member
    simp [Char.isAlphanum, digit]

/-- A name and a value are read around the only equals sign. -/
theorem pair?_eq_some_iff {text name value : List Char} :
    pair? text = some (name, value) ↔
      text = name ++ '=' :: value ∧ isName name = true ∧ isValue value = true := by
  simp only [pair?]
  constructor
  · intro read
    split at read
    · next former latter cut =>
        split at read
        · next sound =>
            cases Option.some.inj read
            have whole : ['='].intercalate (text.splitOn '=') = text :=
              List.intercalate_splitOn '='
            rw [cut, List.intercalate_cons_of_ne_nil (List.cons_ne_nil value []),
              List.intercalate_singleton, List.append_assoc] at whole
            exact ⟨whole.symm, Bool.and_eq_true_iff.mp sound⟩
        · contradiction
    · contradiction
  · rintro ⟨rfl, named, valued⟩
    have cut : (name ++ '=' :: value).splitOn '=' = [name, value] := by
      rw [List.splitOn_append_cons_self_of_not_mem (mark_not_mem_of_isName named (by decide)),
        List.splitOn_eq_singleton (mark_not_mem_of_isValue valued (by decide))]
    simp only [cut, named, valued, Bool.and_self, if_true]

/-! ## Costs -/

/-- A text names a cost and sets it, or names a key, which sets none. -/
inductive Sets (params : Params) : List Char → Params → Prop
  | memory {n : Nat} (fits : n < UInt32.size) :
      Sets params ("m=".toList ++ Nat.toDigits 10 n) { params with memory := n }
  | passes {n : Nat} (fits : n < UInt32.size) :
      Sets params ("t=".toList ++ Nat.toDigits 10 n) { params with passes := n }
  | lanes {n : Nat} (fits : n < UInt32.size) :
      Sets params ("p=".toList ++ Nat.toDigits 10 n) { params with lanes := n }
  | data {bytes : Bytes} (short : bytes.length ≤ 32) :
      Sets params ("data=".toList ++ Base64.plain.encode bytes) { params with data := bytes }
  | key {bytes : Bytes} (short : bytes.length ≤ 8) :
      Sets params ("keyid=".toList ++ Base64.plain.encode bytes) params

/-- The texts between commas set costs one after the other. -/
inductive SetsAll : Params → List Char → Params → Prop
  | one {params after : Params} {text : List Char} (sets : Sets params text after) :
      SetsAll params text after
  | more {params between after : Params} {text rest : List Char}
      (sets : Sets params text between) (others : SetsAll between rest after) :
      SetsAll params (text ++ ',' :: rest) after

theorem map_decimal?_eq_some_iff {value : List Char} {set : Nat → Params} {after : Params} :
    (decimal? value).map set = some after ↔
      ∃ n < UInt32.size, value = Nat.toDigits 10 n ∧ after = set n := by
  simp only [Option.map_eq_some_iff, decimal?_eq_some_iff]
  constructor
  · rintro ⟨n, ⟨digits, fits⟩, rfl⟩
    exact ⟨n, fits, digits, rfl⟩
  · rintro ⟨n, fits, digits, rfl⟩
    exact ⟨n, ⟨digits, fits⟩, rfl⟩

theorem decode?_plain_iff {digits : List Char} {bytes : Bytes} :
    Base64.plain.decode? digits = some bytes ↔ digits = Base64.plain.encode bytes :=
  Base64.decode?_eq_some_iff Base64.isSound_plain

/-- A pair sets what its name and value do. -/
theorem sets_of_setCost? {params after : Params} {name value : List Char}
    (set : setCost? params (name, value) = some after) :
    Sets params (name ++ '=' :: value) after := by
  simp only [setCost?] at set
  split at set
  · next memory =>
      rcases map_decimal?_eq_some_iff.mp set with ⟨n, fits, rfl, rfl⟩
      rw [memory]
      exact .memory fits
  · split at set
    · next passes =>
        rcases map_decimal?_eq_some_iff.mp set with ⟨n, fits, rfl, rfl⟩
        rw [passes]
        exact .passes fits
    · split at set
      · next lanes =>
          rcases map_decimal?_eq_some_iff.mp set with ⟨n, fits, rfl, rfl⟩
          rw [lanes]
          exact .lanes fits
      · split at set
        · next key =>
            rcases Option.bind_eq_some_iff.mp set with ⟨bytes, digits, set⟩
            split at set
            · next short =>
                obtain rfl := Option.some.inj set
                rw [decode?_plain_iff.mp digits, key]
                exact .key short
            · contradiction
        · split at set
          · next data =>
              rcases Option.bind_eq_some_iff.mp set with ⟨bytes, digits, set⟩
              split at set
              · next short =>
                  obtain rfl := Option.some.inj set
                  rw [decode?_plain_iff.mp digits, data]
                  exact .data short
              · contradiction
          · contradiction

theorem pair?_number {name : List Char} (named : isName name = true) {n : Nat}
    (fits : n < UInt32.size) :
    pair? (name ++ '=' :: Nat.toDigits 10 n) = some (name, Nat.toDigits 10 n) :=
  pair?_eq_some_iff.mpr ⟨rfl, named, isValue_toDigits fits⟩

theorem pair?_bytes {name : List Char} (named : isName name = true) {bytes : Bytes}
    (short : bytes.length ≤ 32) :
    pair? (name ++ '=' :: Base64.plain.encode bytes) = some (name, Base64.plain.encode bytes) :=
  pair?_eq_some_iff.mpr
    ⟨rfl, named, isValue_encode_iff.mpr (Nat.le_trans short (by decide))⟩

/-- A text that sets costs is a pair that does. -/
theorem Sets.exists_pair {params after : Params} {text : List Char}
    (sets : Sets params text after) :
    ∃ pair, pair? text = some pair ∧ setCost? params pair = some after := by
  cases sets with
  | @memory n fits =>
      have pair := pair?_number (by decide : isName "m".toList = true) fits
      exact ⟨_, pair, map_decimal?_eq_some_iff.mpr ⟨n, fits, rfl, rfl⟩⟩
  | @passes n fits =>
      have pair := pair?_number (by decide : isName "t".toList = true) fits
      exact ⟨_, pair, map_decimal?_eq_some_iff.mpr ⟨n, fits, rfl, rfl⟩⟩
  | @lanes n fits =>
      have pair := pair?_number (by decide : isName "p".toList = true) fits
      exact ⟨_, pair, map_decimal?_eq_some_iff.mpr ⟨n, fits, rfl, rfl⟩⟩
  | @data bytes short =>
      have pair := pair?_bytes (by decide : isName "data".toList = true) short
      have set : setCost? params ("data".toList, Base64.plain.encode bytes) =
          (Base64.plain.decode? (Base64.plain.encode bytes)).bind fun data =>
            if data.length ≤ 32 then some { params with data := data } else none := rfl
      rw [decode?_plain_iff.mpr rfl, Option.bind_some, if_pos short] at set
      exact ⟨_, pair, set⟩
  | @key bytes short =>
      have pair := pair?_bytes (by decide : isName "keyid".toList = true)
        (Nat.le_trans short (by decide))
      have set : setCost? params ("keyid".toList, Base64.plain.encode bytes) =
          (Base64.plain.decode? (Base64.plain.encode bytes)).bind fun id =>
            if id.length ≤ 8 then some params else none := rfl
      rw [decode?_plain_iff.mpr rfl, Option.bind_some, if_pos short] at set
      exact ⟨_, pair, set⟩

theorem mark_not_mem_of_pair? {text : List Char} {pair : List Char × List Char}
    (read : pair? text = some pair) {mark : Char} (isMark : mark ∈ ['$', ',']) : mark ∉ text := by
  have among : mark ∈ ['$', ',', '='] ∧ mark ≠ '=' := by
    revert isMark
    simp only [List.mem_cons, List.not_mem_nil, or_false]
    rintro (rfl | rfl) <;> decide
  rcases pair?_eq_some_iff.mp read with ⟨rfl, named, valued⟩
  intro member
  rcases List.mem_append.mp member with front | behind
  · exact mark_not_mem_of_isName named among.1 front
  · rcases List.mem_cons.mp behind with same | back
    · exact among.2 same
    · exact mark_not_mem_of_isValue valued among.1 back

/-- The first of some pairs sets what its text does, and the others set theirs behind it. -/
theorem exists_sets {params after : Params} {part : List Char} {parts : List (List Char)}
    {pairs : List (List Char × List Char)} (read : (part :: parts).mapM pair? = some pairs)
    (set : pairs.foldlM setCost? params = some after) :
    ∃ between others, Sets params part between ∧ parts.mapM pair? = some others ∧
      others.foldlM setCost? between = some after := by
  rw [List.mapM_cons] at read
  rcases Option.bind_eq_some_iff.mp read with ⟨⟨name, value⟩, first, read⟩
  rcases Option.bind_eq_some_iff.mp read with ⟨others, behind, same⟩
  obtain rfl := Option.some.inj same
  rw [List.foldlM_cons] at set
  rcases Option.bind_eq_some_iff.mp set with ⟨between, setFirst, setOthers⟩
  rcases pair?_eq_some_iff.mp first with ⟨rfl, -⟩
  exact ⟨between, others, sets_of_setCost? setFirst, behind, setOthers⟩

/-- Pairs that set costs in turn do so between commas. -/
theorem setsAll_intercalate {params after : Params} {part : List Char} {parts : List (List Char)}
    {pairs : List (List Char × List Char)} (read : (part :: parts).mapM pair? = some pairs)
    (set : pairs.foldlM setCost? params = some after) :
    SetsAll params ([','].intercalate (part :: parts)) after := by
  induction parts generalizing params part pairs with
  | nil =>
      rcases exists_sets read set with ⟨between, others, sets, behind, setOthers⟩
      obtain rfl := Option.some.inj behind
      obtain rfl := Option.some.inj setOthers
      rw [List.intercalate_singleton]
      exact .one sets
  | cons next parts ih =>
      rcases exists_sets read set with ⟨between, others, sets, behind, setOthers⟩
      rw [List.intercalate_cons_of_ne_nil (List.cons_ne_nil next parts), List.append_assoc]
      exact .more sets (ih behind setOthers)

/-- Texts between commas set costs if and only if their pairs do in turn. -/
theorem setsAll_iff {params after : Params} {field : List Char} :
    SetsAll params field after ↔ ∃ pairs, (field.splitOn ',').mapM pair? = some pairs ∧
      pairs.foldlM setCost? params = some after := by
  constructor
  · intro all
    induction all with
    | one sets =>
        rcases sets.exists_pair with ⟨pair, read, set⟩
        have single := List.splitOn_eq_singleton
          (mark_not_mem_of_pair? read (by decide : ',' ∈ ['$', ',']))
        exact ⟨[pair], by rw [single, List.mapM_cons, read]; rfl,
          by rw [List.foldlM_cons, set]; rfl⟩
    | more sets _ ih =>
        rcases sets.exists_pair with ⟨pair, read, set⟩
        rcases ih with ⟨pairs, others, behind⟩
        have cut := List.splitOn_append_cons_self_of_not_mem
          (mark_not_mem_of_pair? read (by decide : ',' ∈ ['$', ',']))
        exact ⟨pair :: pairs, by rw [cut, List.mapM_cons, read, others]; rfl,
          by rw [List.foldlM_cons, set]; exact behind⟩
  · rintro ⟨pairs, read, set⟩
    have whole : [','].intercalate (field.splitOn ',') = field := List.intercalate_splitOn ','
    rw [← whole]
    cases cut : field.splitOn ',' with
    | nil => exact absurd cut (List.splitOn_ne_nil ',' field)
    | cons part parts =>
        rw [cut] at read
        exact setsAll_intercalate read set

/-! ## Fields -/

/-- The field of a version, if there is one; without it the version is 19. -/
inductive Versioned : Nat → List (List Char) → Prop
  | absent : Versioned 19 []
  | present {version : Nat} (known : version = 16 ∨ version = 19) :
      Versioned version ["v=".toList ++ Nat.toDigits 10 version]

/-- The field of costs, if there is one; it has no more than 127 bytes. -/
inductive Priced (start : Params) : List (List Char) → Params → Prop
  | absent : Priced start [] start
  | present {field : List Char} {params : Params}
      (short : (bytesOfChars field).length ≤ 127) (sets : SetsAll start field params) :
      Priced start [field] params

/-- A text writes a hash: behind dollar signs it has the variant, the version and the costs
where they are not left out, the salt and the digest, within the bounds of each. -/
inductive Writes : List Char → PasswordHash → Prop
  | intro {variant : Variant} {version : Nat} {params : Params} {salt digest : Bytes}
      {versionField costField : List (List Char)} (versioned : Versioned version versionField)
      (priced : Priced (defaults variant version digest.length) costField params)
      (salted : 8 ≤ salt.length ∧ salt.length ≤ 48)
      (digested : 10 ≤ digest.length ∧ digest.length ≤ 64)
      (memory : 8 ≤ params.memory ∧ 8 * params.lanes ≤ params.memory)
      (passes : 1 ≤ params.passes) (lanes : 1 ≤ params.lanes ∧ params.lanes < 2 ^ 24) :
      Writes ((variantName variant :: (versionField ++ (costField ++
        [Base64.plain.encode salt, Base64.plain.encode digest]))).flatMap ('$' :: ·))
          ⟨params, salt, digest⟩

theorem version?_eq_none {field : List Char}
    (other : ∀ value, field ≠ "v=".toList ++ value) : version? field = none := by
  rw [version?]
  exact other

theorem version?_present {version : Nat} (fits : version < UInt32.size) :
    version? ("v=".toList ++ Nat.toDigits 10 version) = some (some (Nat.toDigits 10 version)) := by
  have valued := isValue_toDigits fits
  have plain : (Nat.toDigits 10 version).contains ',' = false := by
    simpa using mark_not_mem_of_isValue valued (by decide : ',' ∈ ['$', ',', '='])
  have shape : "v=".toList ++ Nat.toDigits 10 version = 'v' :: '=' :: Nat.toDigits 10 version := rfl
  rw [shape, version?, plain, if_neg Bool.false_ne_true, if_pos valued]

theorem eq_of_version? {field digits : List Char} (shown : version? field = some (some digits)) :
    field = "v=".toList ++ digits := by
  simp only [version?] at shown
  split at shown
  · next value =>
      split at shown
      · contradiction
      · split at shown
        · rw [Option.some.inj (Option.some.inj shown)]
          rfl
        · injection shown with none
          contradiction
  · contradiction

/-- The version that is read stands in front, or it is 19. -/
theorem Versioned.of_versionOf? {fields rest : List (List Char)} {version : Nat}
    (read : versionOf? fields = some (version, rest)) :
    ∃ field, Versioned version field ∧ fields = field ++ rest := by
  cases fields with
  | nil => contradiction
  | cons field fields =>
      simp only [versionOf?] at read
      split at read
      · next value shown =>
          rcases Option.bind_eq_some_iff.mp read with ⟨digits, same, numbered⟩
          rcases Option.bind_eq_some_iff.mp numbered with ⟨n, number, bounded⟩
          split at bounded
          · next known =>
              cases Option.some.inj bounded
              rw [same] at shown
              rw [eq_of_version? shown, (decimal?_eq_some_iff.mp number).1]
              exact ⟨_, .present known, rfl⟩
          · contradiction
      · cases Option.some.inj read
        exact ⟨[], .absent, rfl⟩

theorem Versioned.versionOf?_append {version : Nat} {field rest : List (List Char)}
    (versioned : Versioned version field)
    (others : ∃ next behind, rest = next :: behind ∧ version? next = none) :
    versionOf? (field ++ rest) = some (version, rest) := by
  cases versioned with
  | absent =>
      rcases others with ⟨next, behind, rfl, plain⟩
      rw [List.nil_append, versionOf?]
      simp only [plain]
  | present known =>
      have fits : version < UInt32.size := by
        rcases known with rfl | rfl <;> decide
      have number := decimal?_eq_some_iff.mpr ⟨rfl, fits⟩
      rw [List.singleton_append, versionOf?]
      simp only [version?_present fits, Option.bind_eq_bind, Option.bind_some, number, if_pos known]

theorem Sets.exists_cons {params after : Params} {text : List Char}
    (sets : Sets params text after) : ∃ c rest, text = c :: rest ∧ c ≠ 'v' := by
  cases sets with
  | memory => exact ⟨'m', _, rfl, by decide⟩
  | passes => exact ⟨'t', _, rfl, by decide⟩
  | lanes => exact ⟨'p', _, rfl, by decide⟩
  | data => exact ⟨'d', _, rfl, by decide⟩
  | key => exact ⟨'k', _, rfl, by decide⟩

/-- The costs are no version. -/
theorem SetsAll.version?_eq_none {params after : Params} {field : List Char}
    (all : SetsAll params field after) : version? field = none := by
  have other : ∃ c rest, field = c :: rest ∧ c ≠ 'v' := by
    cases all with
    | one sets => exact sets.exists_cons
    | more sets _ =>
        rcases sets.exists_cons with ⟨c, rest, rfl, other⟩
        exact ⟨c, _, rfl, other⟩
  rcases other with ⟨c, rest, rfl, other⟩
  apply PasswordHash.version?_eq_none
  rintro value same
  exact other (List.cons.inj same).1

/-- There is an equals sign among costs. -/
theorem SetsAll.contains {params after : Params} {field : List Char}
    (all : SetsAll params field after) : field.contains '=' = true := by
  have signed : ∀ {params text after}, Sets params text after → '=' ∈ text := by
    intro params text after sets
    rcases sets.exists_pair with ⟨⟨name, value⟩, read, -⟩
    rw [(pair?_eq_some_iff.mp read).1]
    exact List.mem_append_right name List.mem_cons_self
  apply List.contains_iff_mem.mpr
  cases all with
  | one sets => exact signed sets
  | more sets _ => exact List.mem_append_left _ (signed sets)

theorem length_bytesOfChars (text : List Char) :
    (bytesOfChars text).length = (text.map Char.utf8Size).foldr (· + ·) 0 := by
  induction text with
  | nil => rfl
  | cons c text ih =>
      rw [bytesOfChars_cons, List.length_append, ih, String.length_utf8EncodeChar]
      rfl

theorem pairs?_eq_some_iff {field : List Char} {pairs : List (List Char × List Char)} :
    pairs? field = some pairs ↔
      (bytesOfChars field).length ≤ 127 ∧ (field.splitOn ',').mapM pair? = some pairs := by
  rw [pairs?, ← length_bytesOfChars]
  split
  · next long =>
      constructor
      · exact nofun
      · intro both
        exact absurd both.1 (Nat.not_le.mpr long)
  · next short => exact (and_iff_right (Nat.not_lt.mp short)).symm

/-- The costs that are read stand in front, or there are none. -/
theorem Priced.of_costsOf? {fields rest : List (List Char)} {start params : Params}
    {pairs : List (List Char × List Char)} (read : costsOf? fields = some (pairs, rest))
    (set : pairs.foldlM setCost? start = some params) :
    ∃ field, Priced start field params ∧ fields = field ++ rest := by
  cases fields with
  | nil => contradiction
  | cons field fields =>
      simp only [costsOf?] at read
      split at read
      · rcases Option.map_eq_some_iff.mp read with ⟨shown, paired, same⟩
        cases same
        rcases pairs?_eq_some_iff.mp paired with ⟨short, each⟩
        exact ⟨[field], .present short (setsAll_iff.mpr ⟨pairs, each, set⟩), rfl⟩
      · cases Option.some.inj read
        obtain rfl := Option.some.inj set
        exact ⟨[], .absent, rfl⟩

/-- Neither costs nor digits in base 64 are a version. -/
theorem Priced.exists_next {start params : Params} {field : List (List Char)} {next : List Char}
    (priced : Priced start field params) (rest : List (List Char)) (plain : '=' ∉ next) :
    ∃ first behind, field ++ next :: rest = first :: behind ∧ version? first = none := by
  cases priced with
  | absent =>
      refine ⟨next, rest, rfl, version?_eq_none ?_⟩
      rintro value rfl
      exact plain (List.mem_append_left value (by decide))
  | present _ sets => exact ⟨_, _, rfl, sets.version?_eq_none⟩

theorem Priced.costsOf?_append {start params : Params} {field : List (List Char)}
    {next : List Char} (priced : Priced start field params) (rest : List (List Char))
    (plain : '=' ∉ next) :
    ∃ pairs, costsOf? (field ++ next :: rest) = some (pairs, next :: rest) ∧
      pairs.foldlM setCost? start = some params := by
  cases priced with
  | absent =>
      have none : next.contains '=' = false := by simpa using plain
      exact ⟨[], by rw [List.nil_append, costsOf?, none, if_neg Bool.false_ne_true], rfl⟩
  | present short sets =>
      rcases setsAll_iff.mp sets with ⟨pairs, each, set⟩
      have paired := pairs?_eq_some_iff.mpr ⟨short, each⟩
      exact ⟨pairs, by rw [List.singleton_append, costsOf?, if_pos sets.contains, paired]; rfl, set⟩

/-- A salt and a digest are read from their digits in base 64, within the bounds of each. -/
theorem saltedOf?_eq_some_iff {variant : Variant} {version : Nat}
    {pairs : List (List Char × List Char)} {fields : List (List Char)} {hash : PasswordHash} :
    saltedOf? variant version pairs fields = some hash ↔ ∃ salt digest params,
      fields = [Base64.plain.encode salt, Base64.plain.encode digest] ∧
        (8 ≤ salt.length ∧ salt.length ≤ 48) ∧ (10 ≤ digest.length ∧ digest.length ≤ 64) ∧
          pairs.foldlM setCost? (defaults variant version digest.length) = some params ∧
            isFeasible params = true ∧ hash = ⟨params, salt, digest⟩ := by
  simp only [saltedOf?]
  constructor
  · intro read
    split at read
    · next saltText digestText =>
        split at read
        · contradiction
        · next valued =>
            rcases Option.bind_eq_some_iff.mp read with ⟨salt, saltDigits, behindSalt⟩
            rcases Option.bind_eq_some_iff.mp behindSalt with ⟨digest, digestDigits, bounded⟩
            split at bounded
            · contradiction
            · next within =>
                rcases Option.bind_eq_some_iff.mp bounded with ⟨params, set, checked⟩
                split at checked
                · next feasible =>
                    obtain rfl := Option.some.inj checked
                    have saltEncoded := decode?_plain_iff.mp saltDigits
                    have digestEncoded := decode?_plain_iff.mp digestDigits
                    rw [saltEncoded] at valued
                    have short : salt.length ≤ 48 :=
                      isValue_encode_iff.mp (by simpa using (not_or.mp valued).2)
                    exact ⟨salt, digest, params, by rw [saltEncoded, digestEncoded], by omega,
                      by omega, set, feasible, rfl⟩
                · contradiction
    · contradiction
  · rintro ⟨salt, digest, params, rfl, salted, digested, set, feasible, rfl⟩
    have valued := isValue_encode_iff.mpr salted.2
    have length := Base64.length_encode Base64.plain salt
    simp only [valued, Bool.not_true, Bool.false_eq_true, or_false, decode?_plain_iff.mpr rfl,
      Option.bind_eq_bind, Option.bind_some, set, feasible, if_true]
    rw [if_neg (by omega), if_neg (by omega)]

theorem isFeasible_iff {params : Params} : isFeasible params = true ↔
    (8 ≤ params.memory ∧ 8 * params.lanes ≤ params.memory) ∧ 1 ≤ params.passes ∧
      1 ≤ params.lanes ∧ params.lanes < 2 ^ 24 := by
  simp only [isFeasible, Bool.and_eq_true, decide_eq_true_eq]
  omega

/-! ## Texts -/

theorem variantOfName?_eq_some_iff {name : List Char} {variant : Variant} :
    variantOfName? name = some variant ↔ name = variantName variant := by
  constructor
  · intro found
    have same := List.find?_some (p := fun variant => variantName variant == name) found
    exact (beq_iff_eq.mp same).symm
  · rintro rfl
    cases variant <;> decide

theorem intercalate_eq_flatMap (front : List Char) (fields : List (List Char)) :
    ['$'].intercalate (front :: fields) = front ++ fields.flatMap ('$' :: ·) := by
  induction fields generalizing front with
  | nil => rw [List.intercalate_singleton, List.flatMap_nil, List.append_nil]
  | cons field fields ih =>
      rw [List.intercalate_cons_of_ne_nil (List.cons_ne_nil field fields), ih, List.flatMap_cons,
        List.append_assoc]
      rfl

/-- Fields without dollar signs are cut at those in front of them. -/
theorem splitOn_append_flatMap {front : List Char} {fields : List (List Char)}
    (plain : ∀ field ∈ front :: fields, '$' ∉ field) :
    (front ++ fields.flatMap ('$' :: ·)).splitOn '$' = front :: fields := by
  induction fields generalizing front with
  | nil =>
      rw [List.flatMap_nil, List.append_nil]
      exact List.splitOn_eq_singleton (plain front List.mem_cons_self)
  | cons field fields ih =>
      rcases List.forall_mem_cons.mp plain with ⟨first, others⟩
      rw [List.flatMap_cons, List.cons_append, List.splitOn_append_cons_self_of_not_mem first,
        ih others]

theorem Versioned.dollar_not_mem {version : Nat} {fields : List (List Char)}
    (versioned : Versioned version fields) : ∀ field ∈ fields, '$' ∉ field := by
  intro field among member
  cases versioned with
  | absent => contradiction
  | present known =>
      have fits : version < UInt32.size := by
        rcases known with rfl | rfl <;> decide
      rw [List.mem_singleton.mp among] at member
      rcases List.mem_append.mp member with front | digit
      · exact absurd front (by decide)
      · exact mark_not_mem_of_isValue (isValue_toDigits fits) (by decide) digit

theorem SetsAll.dollar_not_mem {params after : Params} {field : List Char}
    (all : SetsAll params field after) : '$' ∉ field := by
  induction all with
  | one sets =>
      rcases sets.exists_pair with ⟨pair, read, -⟩
      exact mark_not_mem_of_pair? read (by decide)
  | more sets _ ih =>
      rcases sets.exists_pair with ⟨pair, read, -⟩
      intro member
      rcases List.mem_append.mp member with front | behind
      · exact mark_not_mem_of_pair? read (by decide) front
      · rcases List.mem_cons.mp behind with same | later
        · contradiction
        · exact ih later

theorem Priced.dollar_not_mem {start params : Params} {fields : List (List Char)}
    (priced : Priced start fields params) : ∀ field ∈ fields, '$' ∉ field := by
  intro field among
  cases priced with
  | absent => contradiction
  | present _ sets =>
      rw [List.mem_singleton.mp among]
      exact sets.dollar_not_mem

/-- A text is read as a hash if and only if it writes the hash. -/
theorem parse?_eq_some_iff {text : String} {hash : PasswordHash} :
    parse? text = some hash ↔ Writes text.toList hash := by
  constructor
  · intro read
    simp only [parse?] at read
    split at read
    · next name fields cut =>
        rcases Option.bind_eq_some_iff.mp read with ⟨variant, named, shown⟩
        obtain rfl := variantOfName?_eq_some_iff.mp named
        rcases Option.bind_eq_some_iff.mp shown with ⟨⟨version, afterVersion⟩, numbered, behind⟩
        rcases Option.bind_eq_some_iff.mp behind with ⟨⟨pairs, afterCosts⟩, costs, salted⟩
        rcases saltedOf?_eq_some_iff.mp salted with
          ⟨salt, digest, params, rfl, saltBounds, digestBounds, set, feasible, rfl⟩
        rcases Versioned.of_versionOf? numbered with ⟨versionField, versioned, rfl⟩
        rcases Priced.of_costsOf? costs set with ⟨costField, priced, rfl⟩
        rcases isFeasible_iff.mp feasible with ⟨memory, passes, lanes⟩
        have whole : ['$'].intercalate (text.toList.splitOn '$') = text.toList :=
          List.intercalate_splitOn '$'
        rw [cut, intercalate_eq_flatMap, List.nil_append] at whole
        rw [← whole]
        exact .intro versioned priced saltBounds digestBounds memory passes lanes
    · contradiction
  · intro writes
    generalize written : text.toList = characters at writes
    cases writes with
    | @intro variant version params salt digest versionField costField versioned priced salted
        digested memory passes lanes =>
        -- No field has a dollar sign, so the text is cut where its fields were joined.
        have plain : ∀ field ∈ [] :: variantName variant :: (versionField ++ (costField ++
            [Base64.plain.encode salt, Base64.plain.encode digest])), '$' ∉ field := by
          simp only [List.forall_mem_cons, List.forall_mem_append]
          refine ⟨List.not_mem_nil, ?_, versioned.dollar_not_mem, priced.dollar_not_mem,
            mark_not_mem_encode (by decide) salt, mark_not_mem_encode (by decide) digest, nofun⟩
          cases variant <;> decide
        have noSign : '=' ∉ Base64.plain.encode salt := mark_not_mem_encode (by decide) salt
        have numbered := versioned.versionOf?_append
          (priced.exists_next [Base64.plain.encode digest] noSign)
        rcases priced.costsOf?_append [Base64.plain.encode digest] noSign with ⟨pairs, costs, set⟩
        have feasible := isFeasible_iff.mpr ⟨memory, passes, lanes⟩
        have shown := saltedOf?_eq_some_iff.mpr
          ⟨salt, digest, params, rfl, salted, digested, set, feasible, rfl⟩
        have cut := splitOn_append_flatMap plain
        rw [List.nil_append] at cut
        rw [parse?, written, cut]
        simp only [variantOfName?_eq_some_iff.mpr rfl, Option.bind_eq_bind, Option.bind_some,
          ofFields?, numbered, costs, shown]

end Gatehouse.PasswordHash
