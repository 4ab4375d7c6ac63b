import Gatehouse.Proofs.Json.Attempts
import Gatehouse.Proofs.Token.ClaimTexts
import Gatehouse.Token.Payload
import Mathlib.Data.List.Nodup

/-!
# Payloads of which all is read

The second reading of a payload asks for more than the claims in it: the issuer and the date
before which a token does not count may not be repeated, and such a date may be no array or
object that holds anything. Of members that have a value, it asks for nothing else; so the
payload of claims that were signed is read.
-/

namespace Gatehouse

open Json (Written IsText Lexes Spells)
open Json.Record (under under_cons mem_under)

/-- A written value whose strings and numbers have a value, of so many levels at most. -/
def Json.Written.IsExact (written : Written) (levels : Nat) : Prop :=
  ∃ json, written.toJson? = some json ∧ json.depth ≤ levels

/-- An array or object that is not empty. -/
def Json.Written.IsFilled : Written → Prop
  | .array items => items ≠ []
  | .object members => members ≠ []
  | _ => False

namespace Payload

variable {bytes rest : Bytes} {tokens : List Bytes} {value : Written} {name : String}
  {members : List (Option String × Written)} {claims : Claims}

/-- Members of which the issuer and the date before which a token does not count, which claims
do not have, stand once at most, and the date is no filled array or object. -/
structure ArePlain (members : List (Option String × Written)) : Prop where
  issuer : (under members "iss").length ≤ 1
  date : (under members "nbf").length ≤ 1
  hollow : ∀ value ∈ under members "nbf", ¬ value.IsFilled

/-- Members of which the issuer and the date have values that are not nested too deep. -/
def AreExact (members : List (Option String × Written)) : Prop :=
  ∀ name ∈ ["iss", "nbf"], ∀ value ∈ under members name, value.IsExact 126

/-! ## Registered members -/

/-- The attempt at a member gets behind its value. -/
def GetsBehind (name : String) (value : Written) : Prop :=
  ∀ {tokens bytes rest}, Spells (.value value) tokens → Lexes bytes tokens rest →
    (tryMember name bytes).rest = rest

/-- The attempt at a member is left at a place where no other member begins. -/
def Blocks (name : String) (value : Written) : Prop :=
  ∀ {tokens bytes rest}, Spells (.value value) tokens → Lexes bytes tokens rest →
    ∃ place, Json.nextMember true (tryMember name bytes).rest = .neither place

theorem tryMember_date (bytes : Bytes) : tryMember "nbf" bytes = tryDate bytes := rfl

theorem getsBehind_scalar {json : Json} (name : String) (shown : value.toJson? = some json)
    (flat : json.depth = 0) : GetsBehind name value := by
  intro tokens bytes rest spells lexes
  obtain ⟨b, more, shape, noArray, noObject, tried⟩ :=
    Json.exists_tryScalar spells shown flat lexes
  rw [tryMember]
  split
  · simp only [tryDate, shape, if_neg noArray, if_neg noObject, tried, Json.Attempt.rest]
  split
  · simp only [tryText, shape, noArray, noObject, or_self, if_false, tried, Json.Attempt.rest]
  · rw [Json.tryValue_scalar spells shown flat lexes]
    rfl

theorem getsBehind_full (among : name ∈ ["iss", "aud"]) (exact : value.IsExact 126) :
    GetsBehind name value := by
  intro tokens bytes rest spells lexes
  obtain ⟨json, shown, shallow⟩ := exact
  have short := lexes.length_le
  have tried : Json.tryValue (3 * bytes.length + 3) 126 bytes = .ok rest :=
    spells.tries shown shallow lexes (by omega)
  simp only [List.mem_cons, List.not_mem_nil, or_false] at among
  rcases among with rfl | rfl
  · exact congrArg Json.Attempt.rest tried
  · exact congrArg Json.Attempt.rest tried

/-- An array or object that is left at once is got behind if it holds nothing. -/
theorem getsBehind_hollow (exact : value.IsExact 126) (hollow : ¬ value.IsFilled) :
    GetsBehind "nbf" value := by
  obtain ⟨json, shown, -⟩ := exact
  cases value with
  | array items =>
      obtain rfl := Classical.not_not.mp hollow
      intro tokens bytes rest spells lexes
      cases spells with
      | array behind =>
          cases behind
          obtain ⟨more, shape, lexes⟩ := lexes.exists_skip
          simp [tryMember_date, tryDate, shape, Json.leaveArray, lexes.of_single.1,
            Json.Attempt.rest]
  | object members =>
      obtain rfl := Classical.not_not.mp hollow
      intro tokens bytes rest spells lexes
      cases spells with
      | object behind =>
          cases behind
          obtain ⟨more, shape, lexes⟩ := lexes.exists_skip
          simp [tryMember_date, tryDate, shape, Json.leaveObject, lexes.of_single.1,
            Json.Attempt.rest]
  | null => exact getsBehind_scalar _ shown (Option.some.inj shown ▸ rfl)
  | bool truth => exact getsBehind_scalar _ shown (Option.some.inj shown ▸ rfl)
  | number number =>
      obtain ⟨_, -, rfl⟩ := Option.map_eq_some_iff.mp shown
      exact getsBehind_scalar _ shown rfl
  | string text =>
      obtain ⟨_, -, rfl⟩ := Option.map_eq_some_iff.mp shown
      exact getsBehind_scalar _ shown rfl

/-- What an array or object holds begins behind the blanks after its opening mark. -/
theorem exists_opened {mark body : Bytes} {b : UInt8}
    (lexes : Lexes bytes (mark :: (b :: body) :: tokens) rest) :
    ∃ more after, Json.skipSpaces bytes = mark ++ more ∧ Json.skipSpaces more = b :: after ∧
      Json.skipSpaces (b :: after) = b :: after := by
  obtain ⟨more, shape, lexes⟩ := lexes.exists_skip
  obtain ⟨after, opens, -⟩ := Lexes.exists_skip lexes
  rw [List.cons_append] at opens
  exact ⟨more, body ++ after, shape, opens, opens ▸ Json.skipSpaces_skipSpaces more⟩

/-- If it holds something, that is where it is left. -/
theorem blocks_filled (filled : value.IsFilled) : Blocks "nbf" value := by
  intro tokens bytes rest spells lexes
  cases spells with
  | array behind =>
      cases behind with
      | endItems => exact absurd rfl filled
      | item spells others =>
          obtain ⟨b, body, tokens, rfl, noArray, noObject, noComma⟩ := spells.head
          obtain ⟨more, after, shape, opens, skipped⟩ := exists_opened lexes
          refine ⟨b :: after, ?_⟩
          simp [tryMember_date, tryDate, shape, Json.leaveArray, opens, noArray, noComma,
            Json.Attempt.rest, Json.nextMember, Json.next, skipped, noObject]
  | object behind =>
      cases behind with
      | endMembers => exact absurd rfl filled
      | member spellsKey spells others =>
          obtain ⟨more, after, shape, opens, skipped⟩ := exists_opened lexes
          refine ⟨0x22 :: after, ?_⟩
          simp [tryMember_date, tryDate, shape, Json.leaveObject, opens, Json.Attempt.rest,
            Json.nextMember, Json.next, skipped]
  | _ => exact filled.elim

/-! ## The second reading -/

/-- What becomes of a member in the second reading. -/
theorem readRegistered_member (fuel : Nat) (seen : List String) {begun : Bool} {key : String}
    {body : Bytes} {first others : List Bytes}
    (spellsKey : Json.SpellsString (some []) body (some key))
    (spells : Spells (.value value) first)
    (lexes : Lexes bytes
      (Json.lead begun ++ ((0x22 :: body) :: [0x3A] :: (first ++ others))) rest) :
    ∃ after middle, Lexes after first middle ∧ Lexes middle others rest ∧
      readRegistered (fuel + 1) seen begun bytes =
        if key ∈ registered then
          if key ∈ seen then none
          else readRegistered fuel (key :: seen) true (tryMember key after).rest
        else readRegistered fuel seen true middle := by
  obtain ⟨more, next, lexes⟩ := Json.exists_nextMember lexes
  obtain ⟨after, keyed, lexes⟩ := Json.exists_tryKey spellsKey lexes
  obtain ⟨middle, lexesFirst, behind⟩ := Lexes.append_iff.mp lexes
  have short := lexesFirst.length_le
  have skipped := spells.reads lexesFirst (3 * after.length + 3) (by omega)
  refine ⟨after, middle, lexesFirst, behind, ?_⟩
  rw [readRegistered]
  simp only [next, keyed, Except.toOption, Option.bind_eq_bind, Option.bind_some, skipped,
    List.contains_iff_mem]

/-- Members that the second reading gets to the end of, behind those that it has seen: none
of the registered ones stands twice, and no date is a filled array or object. -/
structure Passes (seen : List String) (members : List (Option String × Written)) : Prop where
  once : ∀ name ∈ registered, (under members name).length + seen.count name ≤ 1
  hollow : ∀ value ∈ under members "nbf", ¬ value.IsFilled

theorem passes_nil {seen : List String} (distinct : seen.Nodup) : Passes seen [] where
  once name _ := Nat.le_trans (Nat.le_of_eq (Nat.zero_add _))
    (List.nodup_iff_count_le_one.mp distinct name)
  hollow := nofun

/-- A member of another name does not count. -/
theorem passes_cons_other {key : String} {seen : List String} (other : key ∉ registered) :
    Passes seen ((some key, value) :: members) ↔ Passes seen members := by
  have same : ∀ name ∈ registered,
      under ((some key, value) :: members) name = under members name := by
    intro name among
    rw [under_cons, if_neg (ne_of_mem_of_not_mem among other).symm]
  have date := same "nbf" (by decide)
  constructor
  · rintro ⟨once, hollow⟩
    exact ⟨fun name among => same name among ▸ once name among, date ▸ hollow⟩
  · rintro ⟨once, hollow⟩
    exact ⟨fun name among => (same name among).symm ▸ once name among, date.symm ▸ hollow⟩

/-- A registered member is seen from then on. -/
theorem passes_cons {key : String} {seen : List String} (among : key ∈ registered) :
    Passes seen ((some key, value) :: members) ↔
      key ∉ seen ∧ (key = "nbf" → ¬ value.IsFilled) ∧ Passes (key :: seen) members := by
  have moved : ∀ name, (under ((some key, value) :: members) name).length + seen.count name =
      (under members name).length + (key :: seen).count name := by
    intro name
    by_cases same : key = name
    · rw [under_cons, if_pos same, same, List.length_cons, List.count_cons_self]
      omega
    · rw [under_cons, if_neg same, List.count_cons_of_ne same]
  constructor
  · rintro ⟨once, hollow⟩
    refine ⟨?_, ?_, ?_, ?_⟩
    · intro member
      have twice := once key among
      have some := List.count_pos_iff.mpr member
      rw [under_cons, if_pos rfl, List.length_cons] at twice
      omega
    · rintro rfl
      exact hollow value (mem_under.mpr List.mem_cons_self)
    · intro name among
      exact moved name ▸ once name among
    · intro other member
      exact hollow other (mem_under.mpr (List.mem_cons_of_mem _ (mem_under.mp member)))
  · rintro ⟨-, empty, once, hollow⟩
    refine ⟨fun name among => (moved name).symm ▸ once name among, ?_⟩
    intro other member
    rcases List.mem_cons.mp (mem_under.mp member) with same | behind
    · obtain ⟨date, rfl⟩ := Prod.ext_iff.mp same
      exact empty (Option.some.inj date).symm
    · exact hollow other (mem_under.mpr behind)

/-- Members of which each can be got behind that has to be. -/
def Yield (members : List (Option String × Written)) : Prop :=
  ∀ name ∈ registered, ∀ value ∈ under members name,
    (name = "nbf" → ¬ value.IsFilled) → GetsBehind name value

theorem Yield.head {key : String} (yields : Yield ((some key, value) :: members))
    (among : key ∈ registered) (empty : key = "nbf" → ¬ value.IsFilled) : GetsBehind key value :=
  yields key among value (mem_under.mpr List.mem_cons_self) empty

theorem Yield.tail {key : String} (yields : Yield ((some key, value) :: members)) :
    Yield members := by
  intro name among other member
  exact yields name among other (mem_under.mpr (List.mem_cons_of_mem _ (mem_under.mp member)))

theorem readRegistered_blocked {fuel : Nat} {seen : List String} {place : Bytes}
    (blocked : Json.nextMember true bytes = .neither place) :
    readRegistered fuel seen true bytes = none := by
  cases fuel with
  | zero => rfl
  | succ fuel => simp only [readRegistered, blocked]

/-- The second reading gets to the end of the members that it passes, and of no others. -/
theorem readRegistered_eq_some_iff {begun : Bool} {fuel : Nat} {seen : List String} {left : Bytes}
    (spells : Spells (.members begun members) tokens) (lexes : Lexes bytes tokens rest)
    (texts : ∀ entry ∈ members, entry.1.isSome) (yields : Yield members) (distinct : seen.Nodup)
    (enough : members.length < fuel) :
    readRegistered fuel seen begun bytes = some left ↔ left = rest ∧ Passes seen members := by
  induction members generalizing begun tokens bytes seen fuel with
  | nil =>
      cases spells
      obtain ⟨fuel, rfl⟩ : ∃ others, fuel = others + 1 := ⟨fuel - 1, by omega⟩
      simp only [readRegistered, Json.nextMember_close lexes, Option.some.injEq,
        passes_nil distinct, and_true, eq_comm]
  | cons entry members ih =>
      rcases entry with ⟨key, value⟩
      obtain ⟨known, behind⟩ := List.forall_mem_cons.mp texts
      obtain ⟨key, rfl⟩ := Option.isSome_iff_exists.mp known
      obtain ⟨fuel, rfl⟩ : ∃ others, fuel = others + 1 := ⟨fuel - 1, by omega⟩
      have fewer : members.length < fuel := Nat.lt_of_succ_lt_succ enough
      cases spells with
      | member spellsKey spells others =>
          obtain ⟨after, middle, lexesFirst, lexes, step⟩ :=
            readRegistered_member fuel seen spellsKey spells lexes
          rw [step]
          by_cases among : key ∈ registered
          · rw [if_pos among, passes_cons among]
            by_cases again : key ∈ seen
            · simp [again]
            rw [if_neg again]
            by_cases empty : key = "nbf" → ¬ value.IsFilled
            · have fresh : (key :: seen).Nodup := List.nodup_cons.mpr ⟨again, distinct⟩
              rw [yields.head among empty spells lexesFirst,
                ih others lexes behind yields.tail fresh fewer]
              rw [iff_true_intro again, iff_true_intro empty, true_and, true_and]
            · obtain ⟨rfl, filled⟩ := Classical.not_imp.mp empty
              obtain ⟨place, blocked⟩ :=
                blocks_filled (Classical.not_not.mp filled) spells lexesFirst
              rw [readRegistered_blocked blocked]
              exact iff_of_false nofun fun passes => empty passes.2.2.1
          · rw [if_neg among, passes_cons_other among]
            exact ih others lexes behind yields.tail distinct fewer

/-! ## Payloads -/

theorem length_lt_of_spells {begun : Bool} (spells : Spells (.members begun members) tokens) :
    members.length < tokens.length := by
  induction members generalizing begun tokens with
  | nil =>
      cases spells
      exact Nat.zero_lt_one
  | cons entry members ih =>
      cases spells with
      | member spellsKey spells others =>
          have short := ih others
          simp only [List.length_append, List.length_cons]
          omega

/-- An object of which the second reading gets behind every member that it has to is read if it
passes them. -/
theorem isValidatable_iff_passes (isText : IsText (.object members) bytes)
    (texts : ∀ entry ∈ members, entry.1.isSome) (yields : Yield members) :
    isValidatable bytes = true ↔ Passes [] members := by
  obtain ⟨_, ⟨gap, blank, lexes⟩, spells⟩ := isText
  cases spells with
  | object spells =>
      have short := lexes.length_le
      have fewer := length_lt_of_spells spells
      rw [List.length_cons] at short
      obtain ⟨more, shape, lexes⟩ := lexes.exists_skip
      have ends : ∀ left, readRegistered (bytes.length + 1) [] false more = some left ↔
          left = gap ∧ Passes [] members := fun _ =>
        readRegistered_eq_some_iff spells lexes texts yields List.nodup_nil (by omega)
      rw [isValidatable, shape]
      simp only [List.singleton_append, beq_self_eq_true, Bool.true_and]
      cases read : readRegistered (bytes.length + 1) [] false more with
      | none =>
          refine iff_of_false Bool.false_ne_true fun passes => ?_
          rw [(ends gap).mpr ⟨rfl, passes⟩] at read
          injection read
      | some left =>
          obtain ⟨rfl, passes⟩ := (ends left).mp read
          simp only [Json.isBlank_iff.mp blank, List.isEmpty_nil, passes]

/-- The second reading does not get through an array. -/
theorem isValidatable_array {items : List Written} (isText : IsText (.array items) bytes) :
    isValidatable bytes = false := by
  obtain ⟨_, ⟨gap, blank, lexes⟩, spells⟩ := isText
  cases spells with
  | array spells =>
      obtain ⟨more, shape, -⟩ := lexes.exists_skip
      rw [isValidatable, shape]
      rfl

theorem isExact_roles (roles : List Role) :
    (Written.array (roles.map fun role => .string (some role.name))).IsExact 126 := by
  have flat : Json.depthOfItems (roles.map Role.codec.write) = 0 := by
    induction roles with
    | nil => rfl
    | cons role roles ih =>
        rw [List.map_cons, Json.depthOfItems, ih]
        rfl
  refine ⟨Role.codec.list.write roles, ?_, ?_⟩
  · rw [← Claims.written_roles, Json.toJson?_written]
  · rw [Json.Codec.list, Json.depth, flat]
    decide

/-- The members of claims that the second reading knows have values that it gets behind. -/
theorem yield_of_areIn (found : claims.AreIn members) (exact : AreExact members) :
    Yield members := by
  intro name among value member empty
  obtain ⟨subject, shownSubject, -⟩ := found.subject
  simp only [registered, List.mem_cons, List.not_mem_nil, or_false] at among
  rcases among with rfl | rfl | rfl | rfl | rfl
  · rw [found.expires, List.mem_singleton] at member
    rw [member]
    exact getsBehind_scalar _ rfl rfl
  · exact getsBehind_hollow (exact _ (by decide) value member) (empty rfl)
  · rw [shownSubject, List.mem_singleton] at member
    rw [member]
    exact getsBehind_scalar _ rfl rfl
  · exact getsBehind_full (by decide) (exact _ (by decide) value member)
  · rcases found.audience with ⟨absent, -⟩ | shown
    · rw [absent] at member
      contradiction
    · rw [shown, List.mem_singleton] at member
      exact getsBehind_full (by decide) (member ▸ isExact_roles claims.audience)

theorem passes_iff_arePlain (found : claims.AreIn members) :
    Passes [] members ↔ ArePlain members := by
  constructor
  · intro passes
    exact ⟨passes.once "iss" (by decide), passes.once "nbf" (by decide), passes.hollow⟩
  · intro plain
    refine ⟨fun name among => ?_, plain.hollow⟩
    rw [List.count_nil, Nat.add_zero]
    simp only [registered, List.mem_cons, List.not_mem_nil, or_false] at among
    rcases among with rfl | rfl | rfl | rfl | rfl
    · exact found.length_under (by decide)
    · exact plain.date
    · exact found.length_under (by decide)
    · exact plain.issuer
    · exact found.length_under (by decide)

/-- Which payloads the second reading gets through, of those that hold claims. -/
theorem isValidatable_iff (isText : IsText (.object members) bytes) (found : claims.AreIn members)
    (exact : AreExact members) : isValidatable bytes = true ↔ ArePlain members :=
  (isValidatable_iff_passes isText found.texts (yield_of_areIn found exact)).trans
    (passes_iff_arePlain found)

theorem claims?_eq_some_iff :
    claims? bytes = some claims ↔
      Claims.ofBytes? bytes = some claims ∧ isValidatable bytes = true := by
  simp only [claims?, Option.bind_eq_bind, Option.bind_eq_some_iff]
  constructor
  · rintro ⟨shown, read, same⟩
    split at same
    · next validatable =>
        obtain rfl := Option.some.inj same
        exact ⟨read, validatable⟩
    · injection same
  · rintro ⟨read, validatable⟩
    exact ⟨claims, read, if_pos validatable⟩

theorem areExact_of_absent (absent : ∀ name ∈ ["iss", "nbf"], under members name = []) :
    AreExact members := by
  intro name among value member
  rw [absent name among] at member
  contradiction

theorem arePlain_of_absent (absent : ∀ name ∈ ["iss", "nbf"], under members name = []) :
    ArePlain members := by
  have issuer := absent "iss" (by decide)
  have date := absent "nbf" (by decide)
  constructor
  · rw [issuer]
    exact Nat.zero_le 1
  · rw [date]
    exact Nat.zero_le 1
  · rw [date]
    nofun

/-- The claims of a payload that was written are those it was written for. -/
theorem claims?_encode (claims : Claims) : claims? (bytesOfText claims.encode) = some claims := by
  have isText : IsText (.object (Json.writtenMembers (Json.Record.members _ claims.toValues)))
      (bytesOfText claims.encode) :=
    Json.ofBytes?_eq_some_iff.mp (Json.ofBytes?_encode claims.isIntegral_toJson)
  have read := Claims.ofBytes?_encode claims
  have found := Claims.areIn (Claims.isTextOf_object isText) read
  have absent : ∀ name ∈ ["iss", "nbf"],
      under (Json.writtenMembers (Json.Record.members _ claims.toValues)) name = [] :=
    fun name among => Json.Record.under_written claims.toValues (by revert name; decide)
  have validatable := (isValidatable_iff isText found (areExact_of_absent absent)).mpr
    (arePlain_of_absent absent)
  exact claims?_eq_some_iff.mpr ⟨read, validatable⟩

end Payload

end Gatehouse
