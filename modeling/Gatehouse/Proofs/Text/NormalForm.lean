import Gatehouse.Proofs.Text.Bytes
import Gatehouse.Role

/-!
# The normal form of names

The normal form of a name has no blanks at its ends and is in lower case. It is its own
normal form: a lower case has no other lower case, whatever stands around it, and no
character becomes blank with its case, so that nothing is left to do at the ends.
-/

namespace Gatehouse

/-! ## The case table -/

namespace CaseRun

variable {run : CaseRun} {code : Nat}

/-- The lower cases of a run. -/
def images (run : CaseRun) : List Nat :=
  (List.range ((run.last - run.first) / run.step + 1)).map fun place =>
    ((run.first + run.step * place : Nat) + run.offset).toNat

/-- Whether all lower cases of a run lie in front of an interval, or all behind it. -/
def avoids (run : CaseRun) (first last : Nat) : Bool :=
  Nat.blt (run.last + run.offset).toNat first || Nat.blt last (run.first + run.offset).toNat

/-- Whether no lower case of a run is in another run. Where one lies in the interval of the
other, they have to be gone through. -/
def misses (run other : CaseRun) : Bool :=
  run.avoids other.first other.last || run.images.all fun code => !other.holds code

theorem mem_images (held : run.holds code = true) : (code + run.offset).toNat ∈ run.images := by
  simp only [holds, Bool.and_eq_true, decide_eq_true_eq, beq_iff_eq] at held
  obtain ⟨⟨low, high⟩, even⟩ := held
  have place : run.first + run.step * ((code - run.first) / run.step) = code := by
    rw [Nat.mul_div_cancel' (Nat.dvd_of_mod_eq_zero even)]
    omega
  have within : (code - run.first) / run.step ≤ (run.last - run.first) / run.step :=
    Nat.div_le_div_right (by omega)
  rw [images, List.mem_map]
  refine ⟨(code - run.first) / run.step, List.mem_range.mpr (by omega), ?_⟩
  rw [place]

theorem outside_of_avoids {first last : Nat} (held : run.holds code = true)
    (avoids : run.avoids first last = true) :
    (code + run.offset).toNat < first ∨ last < (code + run.offset).toNat := by
  simp only [holds, Bool.and_eq_true, decide_eq_true_eq] at held
  simp only [CaseRun.avoids, Bool.or_eq_true, Nat.blt_eq] at avoids
  omega

theorem not_holds_of_misses {other : CaseRun} (held : run.holds code = true)
    (misses : run.misses other = true) : other.holds (code + run.offset).toNat = false := by
  rcases Bool.or_eq_true_iff.mp misses with apart | checked
  · have outside := outside_of_avoids held apart
    rw [Bool.eq_false_iff]
    intro also
    simp only [holds, Bool.and_eq_true, decide_eq_true_eq] at also
    omega
  · simpa using List.all_eq_true.mp checked _ (mem_images held)

end CaseRun

/-- The intervals in which no lower case of the table may lie: the capitals that are treated
apart, the code points of no character, and the blanks. -/
def unfitRanges : List (Nat × Nat) :=
  [(0x130, 0x130), (0x3A3, 0x3A3), (0xD800, 0xDFFF), (0x110000, 0x200000)] ++ blankRanges

/-- Checked run by run: no lower case of the table has a lower case of its own. -/
theorem misses_caseRuns : (caseRuns.all fun run => caseRuns.all run.misses) = true := by
  decide +kernel

theorem avoids_unfitRanges :
    (caseRuns.all fun run => Nat.blt (run.last + run.offset).toNat 0x200000 &&
      unfitRanges.all fun range => run.avoids range.1 range.2) = true := by
  decide +kernel

/-! ## Characters -/

/-- A character that is its own lower case wherever it stands. -/
def IsLower (c : Char) : Prop := lowerChar c = c ∧ c ≠ 'Σ' ∧ c ≠ '\u0130'

instance (c : Char) : Decidable (IsLower c) := inferInstanceAs (Decidable (_ ∧ _))

theorem lowerChar_of_no_run {c : Char} (none : ∀ run ∈ caseRuns, run.holds c.toNat = false) :
    lowerChar c = c := by
  have found : caseRuns.find? (·.holds c.toNat) = .none :=
    List.find?_eq_none.mpr fun run among => by simp [none run among]
  rw [lowerChar, found]

/-- The lower case of a character that is in a run lies outside the intervals that are unfit. -/
theorem outside_unfitRanges {c : Char} {run : CaseRun} (among : run ∈ caseRuns)
    (held : run.holds c.toNat = true) {range : Nat × Nat} (unfit : range ∈ unfitRanges) :
    (c.toNat + run.offset).toNat < range.1 ∨ range.2 < (c.toNat + run.offset).toNat := by
  have checked := List.all_eq_true.mp avoids_unfitRanges run among
  rw [Bool.and_eq_true, List.all_eq_true] at checked
  exact CaseRun.outside_of_avoids held (checked.2 range unfit)

theorem isValidChar_image {c : Char} {run : CaseRun} (among : run ∈ caseRuns)
    (held : run.holds c.toNat = true) : (c.toNat + run.offset).toNat.isValidChar := by
  have checked := List.all_eq_true.mp avoids_unfitRanges run among
  have bounded : (run.last + run.offset).toNat < 0x200000 :=
    Nat.blt_eq.mp (Bool.and_eq_true_iff.mp checked).1
  have last : (c.toNat + run.offset).toNat ≤ (run.last + run.offset).toNat := by
    simp only [CaseRun.holds, Bool.and_eq_true, decide_eq_true_eq] at held
    omega
  have surrogate := outside_unfitRanges among held
    (show (0xD800, 0xDFFF) ∈ unfitRanges by simp [unfitRanges])
  have beyond := outside_unfitRanges among held
    (show (0x110000, 0x200000) ∈ unfitRanges by simp [unfitRanges])
  simp only [Nat.isValidChar] at *
  omega

/-- A character is its own lower case, or the table gives it another one. -/
theorem lowerChar_cases (c : Char) :
    lowerChar c = c ∨ ∃ run ∈ caseRuns, run.holds c.toNat = true ∧
      (lowerChar c).toNat = (c.toNat + run.offset).toNat := by
  cases found : caseRuns.find? (·.holds c.toNat) with
  | none => exact .inl (by rw [lowerChar, found])
  | some run =>
      have among := List.mem_of_find?_eq_some found
      have held : run.holds c.toNat = true := by simpa using List.find?_some found
      refine .inr ⟨run, among, held, ?_⟩
      rw [lowerChar, found]
      exact toNat_ofNat (isValidChar_image among held)

theorem isLower_lowerChar {c : Char} (sigma : c ≠ 'Σ') (dotted : c ≠ '\u0130') :
    IsLower (lowerChar c) := by
  rcases lowerChar_cases c with same | ⟨run, among, held, code⟩
  · rw [IsLower, same]
    exact ⟨same, sigma, dotted⟩
  · refine ⟨?_, ?_, ?_⟩
    · apply lowerChar_of_no_run
      intro other also
      rw [code]
      have misses := List.all_eq_true.mp misses_caseRuns run among
      exact CaseRun.not_holds_of_misses held (List.all_eq_true.mp misses other also)
    · intro same
      have outside := outside_unfitRanges among held
        (show (0x3A3, 0x3A3) ∈ unfitRanges by simp [unfitRanges])
      rw [← code, same] at outside
      exact absurd outside (by decide)
    · intro same
      have outside := outside_unfitRanges among held
        (show (0x130, 0x130) ∈ unfitRanges by simp [unfitRanges])
      rw [← code, same] at outside
      exact absurd outside (by decide)

/-- No character becomes blank with its case. -/
theorem isBlank_lowerChar {c : Char} (dense : isBlank c = false) :
    isBlank (lowerChar c) = false := by
  rcases lowerChar_cases c with same | ⟨run, among, held, code⟩
  · rw [same, dense]
  · rw [isBlank, List.any_eq_false]
    intro range blank
    have outside := outside_unfitRanges among held
      (show range ∈ unfitRanges from List.mem_append_right _ blank)
    simp only [code, Bool.and_eq_true, decide_eq_true_eq]
    omega

/-! ## Lower-casing -/

variable {before after text : List Char} {c : Char}

/-- The lower cases that the two capitals treated apart have. -/
theorem lower_special :
    ∀ d ∈ ['i', '\u0307', 'ς', 'σ'], IsLower d ∧ isBlank d = false := by
  intro d among
  simp only [List.mem_cons, List.not_mem_nil, or_false] at among
  rcases among with rfl | rfl | rfl | rfl <;> decide

/-- The lower case of a character between others is in lower case, and not blank unless the
character is. -/
theorem lower_of_mem_lowerBetween {d : Char} (among : d ∈ lowerBetween before c after) :
    IsLower d ∧ (isBlank c = false → isBlank d = false) := by
  have special : d ∈ ['i', '\u0307', 'ς', 'σ'] →
      IsLower d ∧ (isBlank c = false → isBlank d = false) := by
    intro member
    obtain ⟨lower, dense⟩ := lower_special d member
    exact ⟨lower, fun _ => dense⟩
  rw [lowerBetween] at among
  split at among
  · simp only [List.mem_cons, List.not_mem_nil, or_false] at among
    apply special
    rcases among with rfl | rfl <;> simp
  · next dotted =>
      split at among
      · apply special
        rw [List.mem_singleton] at among
        subst among
        split <;> simp
      · next sigma =>
          rw [List.mem_singleton.mp among]
          exact ⟨isLower_lowerChar sigma dotted, isBlank_lowerChar⟩

theorem lowerBetween_ne_nil : lowerBetween before c after ≠ [] := by
  rw [lowerBetween]
  split
  · simp
  · split <;> simp

theorem isLower_of_mem_lowerAfter {d : Char} (among : d ∈ lowerAfter before text) :
    IsLower d := by
  induction text generalizing before with
  | nil => contradiction
  | cons c rest ih =>
      rcases List.mem_append.mp among with first | later
      · exact (lower_of_mem_lowerBetween first).1
      · exact ih later

/-- A text in lower case is left as it is. -/
theorem lowerAfter_of_isLower (lower : ∀ c ∈ text, IsLower c) : lowerAfter before text = text := by
  induction text generalizing before with
  | nil => rfl
  | cons c rest ih =>
      obtain ⟨⟨same, sigma, dotted⟩, others⟩ := List.forall_mem_cons.mp lower
      rw [lowerAfter, lowerBetween, if_neg dotted, if_neg sigma, same, ih others]
      rfl

/-! ## Blanks at the ends -/

/-- No blank stands at either end of a text. -/
structure IsTrimmed (text : List Char) : Prop where
  first : ∀ c ∈ text.head?, isBlank c = false
  last : ∀ c ∈ text.getLast?, isBlank c = false

theorem dense_of_mem_head?_dropWhile {c : Char} (front : c ∈ (text.dropWhile isBlank).head?) :
    isBlank c = false := by
  have known := List.head?_dropWhile_not isBlank text
  rw [Option.mem_def.mp front] at known
  exact known

theorem dropWhile_of_dense (dense : ∀ c ∈ text.head?, isBlank c = false) :
    text.dropWhile isBlank = text := by
  cases text with
  | nil => rfl
  | cons c rest => exact List.dropWhile_cons_of_neg (by simp [dense c rfl])

theorem isTrimmed_trim (text : List Char) : IsTrimmed (trimEnd (trimStart text)) where
  first := by
    intro c front
    -- What stands in front once the end has been trimmed stood there before.
    have whole : trimEnd (trimStart text) <+: trimStart text := by
      rw [trimEnd, ← List.reverse_suffix, List.reverse_reverse]
      exact List.dropWhile_suffix isBlank
    obtain ⟨tail, split⟩ := whole
    have also : c ∈ (trimStart text).head? := by
      rw [← split, List.head?_append, Option.mem_def.mp front]
      rfl
    exact dense_of_mem_head?_dropWhile also
  last := by
    intro c back
    rw [trimEnd, List.getLast?_reverse] at back
    exact dense_of_mem_head?_dropWhile back

theorem IsTrimmed.trim_eq (trimmed : IsTrimmed text) : trimEnd (trimStart text) = text := by
  have back : ∀ c ∈ text.reverse.head?, isBlank c = false := by
    rw [List.head?_reverse]
    exact trimmed.last
  rw [trimStart, dropWhile_of_dense trimmed.first, trimEnd, dropWhile_of_dense back,
    List.reverse_reverse]

/-- Lower-casing brings no blank to the ends of a text. -/
theorem isTrimmed_lowerAfter (before : List Char) (trimmed : IsTrimmed text) :
    IsTrimmed (lowerAfter before text) where
  first := by
    cases text with
    | nil => exact fun c front => absurd front (Option.not_mem_none c)
    | cons c rest =>
        intro d front
        rw [lowerAfter, List.head?_append, List.head?_eq_some_head lowerBetween_ne_nil,
          Option.some_or, ← List.head?_eq_some_head] at front
        exact (lower_of_mem_lowerBetween (List.mem_of_mem_head? front)).2 (trimmed.first c rfl)
  last := by
    have ends := trimmed.last
    clear trimmed
    induction text generalizing before with
    | nil => exact fun c back => absurd back (Option.not_mem_none c)
    | cons c rest ih =>
        intro d back
        rw [lowerAfter, List.getLast?_append] at back
        cases rest with
        | nil => exact (lower_of_mem_lowerBetween (List.mem_of_mem_getLast? back)).2 (ends c rfl)
        | cons next others =>
            have filled : lowerAfter (c :: before) (next :: others) ≠ [] := by
              rw [lowerAfter]
              simp [lowerBetween_ne_nil]
            rw [List.getLast?_eq_some_getLast filled, Option.some_or,
              ← List.getLast?_eq_some_getLast filled] at back
            exact ih (c :: before) (fun e last => ends e (by simpa using last)) d back

/-! ## Names -/

@[simp] theorem trim_trim (text : String) : trim (trim text) = trim text := by
  rw [trim, trim, String.toList_ofList, (isTrimmed_trim text.toList).trim_eq]

/-- The normal form of a name is its own normal form. -/
@[simp] theorem Role.normalized_name (text : String) :
    normalized (normalized text).name = normalized text := by
  have trimmed := isTrimmed_lowerAfter [] (isTrimmed_trim text.toList)
  simp only [normalized, lowercase, trim, String.toList_ofList, trimmed.trim_eq]
  rw [lowerAfter_of_isLower fun c among => isLower_of_mem_lowerAfter among]

end Gatehouse
