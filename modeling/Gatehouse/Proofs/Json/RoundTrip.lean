import Gatehouse.Json.Printer
import Gatehouse.Proofs.Json.Grammar

/-!
# Reading the values that are written

Every value whose numbers are integers of 64 bits is read as it was written,
with the members of an object in their order. Nothing but the limit on nesting
stands in the way, so the reading here has none.
-/

namespace Gatehouse.Json

variable {rest : Bytes}

mutual
/-- A value as it is written. -/
def written : Json → Written
  | .null => .null
  | .bool value => .bool value
  | .number value => .number (some value)
  | .string text => .string (some text)
  | .array items => .array (writtenItems items)
  | .object members => .object (writtenMembers members)

/-- The items of an array as they are written. -/
def writtenItems : List Json → List Written
  | [] => []
  | item :: rest => written item :: writtenItems rest

/-- The members of an object as they are written. -/
def writtenMembers : List (String × Json) → List (Option String × Written)
  | [] => []
  | (key, value) :: rest => (some key, written value) :: writtenMembers rest
end

mutual
/-- Every number in a value is an integer of 64 bits. -/
def IsIntegral : Json → Prop
  | .number (.integer value) => -(1 <<< 63) ≤ value ∧ value < 1 <<< 64
  | .number (.binary _) => False
  | .array items => AreIntegral items
  | .object members => HasIntegral members
  | _ => True

/-- Every number in the items of an array is an integer of 64 bits. -/
def AreIntegral : List Json → Prop
  | [] => True
  | item :: rest => IsIntegral item ∧ AreIntegral rest

/-- Every number in the members of an object is an integer of 64 bits. -/
def HasIntegral : List (String × Json) → Prop
  | [] => True
  | (_, value) :: rest => IsIntegral value ∧ HasIntegral rest
end

/-! ## The bytes of values -/

theorem bytes_array (item : Json) (others : List Json) :
    bytesOfChars (render (.array (item :: others))) =
      0x5B :: (bytesOfChars item.render ++ bytesOfChars (renderItems others)) := by
  rw [render, List.cons_append, bytesOfChars_cons, bytesOfChars_append]
  rfl

theorem bytes_items (item : Json) (others : List Json) :
    bytesOfChars (renderItems (item :: others)) =
      0x2C :: (bytesOfChars item.render ++ bytesOfChars (renderItems others)) := by
  rw [renderItems, List.cons_append, bytesOfChars_cons, bytesOfChars_append]
  rfl

theorem bytes_member (front : Char) (key : String) (value others : List Char) :
    bytesOfChars (front :: renderString key ++ ':' :: value ++ others) =
      String.utf8EncodeChar front ++ 0x22 :: (stringTail key ++
        0x3A :: (bytesOfChars value ++ bytesOfChars others)) := by
  rw [bytesOfChars_append, bytesOfChars_append, bytesOfChars_cons, bytesOfChars_cons,
    bytesOfChars_renderString, List.append_assoc, List.append_assoc, List.append_assoc]
  rfl

theorem bytes_object (member : String × Json) (others : List (String × Json)) :
    bytesOfChars (render (.object (member :: others))) =
      0x7B :: 0x22 :: (stringTail member.1 ++
        0x3A :: (bytesOfChars member.2.render ++ bytesOfChars (renderMembers others))) :=
  bytes_member '\x7b' member.1 member.2.render (renderMembers others)

theorem bytes_members (member : String × Json) (others : List (String × Json)) :
    bytesOfChars (renderMembers (member :: others)) =
      0x2C :: 0x22 :: (stringTail member.1 ++
        0x3A :: (bytesOfChars member.2.render ++ bytesOfChars (renderMembers others))) :=
  bytes_member ',' member.1 member.2.render (renderMembers others)

theorem stops_renderItems (items : List Json) (rest : Bytes) :
    Stops (bytesOfChars (renderItems items) ++ rest) := by
  intro b first
  cases items <;> exact Option.some.inj first ▸ rfl

theorem stops_renderMembers (members : List (String × Json)) (rest : Bytes) :
    Stops (bytesOfChars (renderMembers members) ++ rest) := by
  intro b first
  cases members <;> exact Option.some.inj first ▸ rfl

/-! ## The tokens of values -/

/-- A word or number is one token. -/
theorem lexes_solid {token : Bytes} (some : token ≠ []) (solid : ∀ b ∈ token, isSolid b = true)
    (stops : Stops rest) : Lexes (token ++ rest) [token] rest := by
  obtain ⟨b, body, rfl⟩ := List.exists_cons_of_ne_nil some
  exact .cons (.word solid stops) (.done rest)

theorem exists_lexes_int {value : Int} (integral : IsIntegral (.int value)) (stops : Stops rest) :
    ∃ tokens, Lexes (bytesOfChars (renderInt value) ++ rest) tokens rest ∧
      Spells (.value (.number (some (.integer value)))) tokens := by
  cases value with
  | ofNat n =>
      have takes : Takes (readNumber false false) _ _ :=
        takes_digits (Int.ofNat_lt.mp integral.2) rfl
      exact ⟨_, lexes_solid (beginsNumber_toDigits n).some takes.solid stops, .number takes⟩
  | negSucc n =>
      have small : n + 1 ≤ Int64.minValue.toInt.natAbs := by
        have low := integral.1
        change n + 1 ≤ 1 <<< 63
        omega
      have known : integer? true (n + 1) = some (.integer (Int.negSucc n)) := by
        rw [integer?, if_pos rfl, if_pos ⟨Nat.succ_pos n, small⟩]
        rfl
      have takes := takes_digits (Nat.lt_of_le_of_lt small (by decide)) known
      have solid : ∀ b ∈ 0x2D :: bytesOfChars (Nat.toDigits 10 (n + 1)), isSolid b = true :=
        List.forall_mem_cons.mpr ⟨rfl, takes.solid⟩
      exact ⟨_, lexes_solid (List.cons_ne_nil _ _) solid stops, .negative takes⟩

/-- The only tokens of an integer are its decimal numeral. -/
theorem Spells.eq_renderInt {value : Int} {tokens : List Bytes}
    (spells : Spells (.value (.number (some (.integer value)))) tokens) :
    tokens = [bytesOfChars (renderInt value)] := by
  cases spells with
  | number takes =>
      obtain ⟨n, -, shape, known⟩ := digits_of_readNumber (takes.reads [] stops_nil)
      obtain rfl := Number.integer.inj (Option.some.inj known)
      rw [List.append_nil, List.append_nil] at shape
      rw [shape]
      rfl
  | @negative taken _ takes =>
      obtain ⟨n, -, shape, known⟩ := digits_of_readNumber (takes.reads [] stops_nil)
      rw [integer?, if_pos rfl] at known
      split at known
      · next range =>
          obtain rfl := Number.integer.inj (Option.some.inj known)
          obtain ⟨m, rfl⟩ : ∃ m, n = m + 1 := ⟨n - 1, by omega⟩
          rw [List.append_nil, List.append_nil] at shape
          rw [shape]
          rfl
      · injection known

theorem lexes_string (text : String) (rest : Bytes) :
    Lexes (bytesOfChars (renderString text) ++ rest) [0x22 :: stringTail text] rest := by
  rw [bytesOfChars_renderString]
  exact .cons (.string (spellsString_stringTail text).isClosed) (.done rest)

/-- A member is its key, a colon and its value. -/
theorem lexes_member {key : String} {value others : Bytes} {tokens more : List Bytes}
    (lexes : Lexes (value ++ (others ++ rest)) tokens (others ++ rest))
    (behind : Lexes (others ++ rest) more rest) :
    Lexes (0x22 :: (stringTail key ++ 0x3A :: (value ++ others)) ++ rest)
      ((0x22 :: stringTail key) :: [0x3A] :: (tokens ++ more)) rest := by
  have closed := (spellsString_stringTail key).isClosed
  have whole := Lexes.append_iff.mpr ⟨_, lexes, behind⟩
  have shown := Lexes.cons (.string closed) (.mark (b := 0x3A) rfl whole)
  simpa only [List.cons_append, List.append_assoc] using shown

mutual
/-- A value is written in tokens that spell it. -/
theorem exists_lexes_render (json : Json) (integral : IsIntegral json) {rest : Bytes}
    (stops : Stops rest) : ∃ tokens, Lexes (bytesOfChars json.render ++ rest) tokens rest ∧
      Spells (.value json.written) tokens := by
  cases json with
  | null => exact ⟨_, lexes_solid (List.cons_ne_nil _ _) (List.all_eq_true.mp rfl) stops, .null⟩
  | bool value =>
      cases value with
      | false =>
          exact ⟨_, lexes_solid (List.cons_ne_nil _ _) (List.all_eq_true.mp rfl) stops, .boolFalse⟩
      | true =>
          exact ⟨_, lexes_solid (List.cons_ne_nil _ _) (List.all_eq_true.mp rfl) stops, .boolTrue⟩
  | string text => exact ⟨_, lexes_string text rest, .string (spellsString_stringTail text)⟩
  | number value =>
      cases value with
      | binary bits => exact integral.elim
      | integer value => exact exists_lexes_int integral stops
  | array items =>
      cases items with
      | nil =>
          exact ⟨_, .mark (b := 0x5B) rfl (.mark (b := 0x5D) rfl (.done rest)), .array .endItems⟩
      | cons item others =>
          obtain ⟨tokens, lexes, spells⟩ := exists_lexes_render item integral.1
            (stops_renderItems others rest)
          obtain ⟨more, behind, spellsMore⟩ := exists_lexes_items others integral.2 rest
          rw [bytes_array, List.cons_append, List.append_assoc]
          exact ⟨_, .mark rfl (Lexes.append_iff.mpr ⟨_, lexes, behind⟩),
            .array (.item spells spellsMore)⟩
  | object members =>
      cases members with
      | nil =>
          exact ⟨_, .mark (b := 0x7B) rfl (.mark (b := 0x7D) rfl (.done rest)), .object .endMembers⟩
      | cons member others =>
          obtain ⟨tokens, lexes, spells⟩ := exists_lexes_render member.2 integral.1
            (stops_renderMembers others rest)
          obtain ⟨more, behind, spellsMore⟩ := exists_lexes_members others integral.2 rest
          rw [bytes_object]
          exact ⟨_, .mark rfl (lexes_member lexes behind),
            .object (.member (spellsString_stringTail member.1) spells spellsMore)⟩

/-- The items behind the first one are written in tokens that spell them. -/
theorem exists_lexes_items (items : List Json) (integral : AreIntegral items) (rest : Bytes) :
    ∃ tokens, Lexes (bytesOfChars (renderItems items) ++ rest) tokens rest ∧
      Spells (.items true (writtenItems items)) tokens := by
  cases items with
  | nil => exact ⟨_, .mark (b := 0x5D) rfl (.done rest), .endItems⟩
  | cons item others =>
      obtain ⟨tokens, lexes, spells⟩ := exists_lexes_render item integral.1
        (stops_renderItems others rest)
      obtain ⟨more, behind, spellsMore⟩ := exists_lexes_items others integral.2 rest
      rw [bytes_items, List.cons_append, List.append_assoc]
      exact ⟨_, .mark rfl (Lexes.append_iff.mpr ⟨_, lexes, behind⟩),
        .item spells spellsMore⟩

/-- The members behind the first one are written in tokens that spell them. -/
theorem exists_lexes_members (members : List (String × Json)) (integral : HasIntegral members)
    (rest : Bytes) :
    ∃ tokens, Lexes (bytesOfChars (renderMembers members) ++ rest) tokens rest ∧
      Spells (.members true (writtenMembers members)) tokens := by
  cases members with
  | nil => exact ⟨_, .mark (b := 0x7D) rfl (.done rest), .endMembers⟩
  | cons member others =>
      obtain ⟨tokens, lexes, spells⟩ := exists_lexes_render member.2 integral.1
        (stops_renderMembers others rest)
      obtain ⟨more, behind, spellsMore⟩ := exists_lexes_members others integral.2 rest
      rw [bytes_members]
      exact ⟨_, .mark rfl (lexes_member lexes behind),
        .member (spellsString_stringTail member.1) spells spellsMore⟩
end

/-- The text of a value is read as the value. -/
theorem ofBytes?_encode {json : Json} (integral : json.IsIntegral) :
    Written.ofBytes? (bytesOfText json.encode) = some json.written := by
  obtain ⟨tokens, lexes, spells⟩ := exists_lexes_render json integral stops_nil
  rw [List.append_nil] at lexes
  rw [encode, bytesOfText_ofList]
  exact ofBytes?_eq_some_iff.mpr ⟨tokens, ⟨[], isBlank_nil, lexes⟩, spells⟩

mutual
/-- The value of what was written is the value. -/
theorem toJson?_written (json : Json) : json.written.toJson? = some json := by
  cases json with
  | null => rfl
  | bool value => rfl
  | number value => rfl
  | string text => rfl
  | array items =>
      rw [written, Written.toJson?, itemsToJson?_written items]
      rfl
  | object members =>
      rw [written, Written.toJson?, membersToJson?_written members]
      rfl

theorem itemsToJson?_written (items : List Json) :
    Written.itemsToJson? (writtenItems items) = some items := by
  cases items with
  | nil => rfl
  | cons item others =>
      rw [writtenItems, Written.itemsToJson?, toJson?_written item, itemsToJson?_written others]
      rfl

theorem membersToJson?_written (members : List (String × Json)) :
    Written.membersToJson? (writtenMembers members) = some members := by
  cases members with
  | nil => rfl
  | cons member others =>
      rw [writtenMembers, Written.membersToJson?, toJson?_written member.2,
        membersToJson?_written others]
      rfl
end

end Gatehouse.Json
