import Gatehouse.Time.Calendar

/-!
# Days and dates

The days of the calendar are counted without gaps: the date of a day is a day of
the calendar, and counting the days up to it gives the day back.
-/

namespace Gatehouse.Date

/-- The place of a year in its era of 400 years and of a day in that year. Years begin
in March, so that only the last day of a year may be a leap day. -/
structure Place (dayOfEra yearOfEra dayOfYear : Int) : Prop where
  year : 0 ≤ yearOfEra ∧ yearOfEra < 400
  day : 0 ≤ dayOfYear ∧ dayOfYear ≤ 365
  count : dayOfEra = 365 * yearOfEra + yearOfEra / 4 - yearOfEra / 100 + dayOfYear
  leap : dayOfYear = 365 → (yearOfEra + 1) % 4 = 0 ∧
    ((yearOfEra + 1) % 100 ≠ 0 ∨ (yearOfEra + 1) % 400 = 0)

/-- The year of a day of an era, and what is left of the days of the era then. -/
def yearOf (dayOfEra : Int) : Int :=
  (dayOfEra - dayOfEra / 1460 + dayOfEra / 36524 - dayOfEra / 146096) / 365

/-- The year of a day is found century by century, since only the last century of an
era ends with a leap day. -/
theorem place {dayOfEra : Int} (low : 0 ≤ dayOfEra) (high : dayOfEra < 146097) :
    Place dayOfEra (yearOf dayOfEra)
      (dayOfEra - (365 * yearOf dayOfEra + yearOf dayOfEra / 4 - yearOf dayOfEra / 100)) := by
  have spelled : yearOf dayOfEra =
    (dayOfEra - dayOfEra / 1460 + dayOfEra / 36524 - dayOfEra / 146096) / 365 := rfl
  generalize yearOf dayOfEra = year at spelled ⊢
  -- a year that is not the third of four ends before the next day is counted
  have early : ∀ century, dayOfEra / 36524 = century → 0 ≤ century → century ≤ 3 →
      year / 100 = century → dayOfEra - (365 * year + year / 4 - year / 100) = 365 →
        year % 4 = 3 := by
    intro century counted _ _ same last
    refine Decidable.byContradiction fun other => ?_
    have quad : dayOfEra / 1460 = year / 4 := by omega
    omega
  have century : dayOfEra / 36524 = 0 ∨ dayOfEra / 36524 = 1 ∨ dayOfEra / 36524 = 2 ∨
      dayOfEra / 36524 = 3 ∨ dayOfEra = 146096 := by omega
  rcases century with counted | counted | counted | counted | last
  · have same : year / 100 = 0 := by omega
    have third := early 0 counted (by omega) (by omega) same
    constructor <;> omega
  · have same : year / 100 = 1 := by omega
    have third := early 1 counted (by omega) (by omega) same
    constructor <;> omega
  · have same : year / 100 = 2 := by omega
    have third := early 2 counted (by omega) (by omega) same
    constructor <;> omega
  · have same : year / 100 = 3 := by omega
    have third := early 3 counted (by omega) (by omega) same
    constructor <;> omega
  · subst last spelled
    constructor <;> omega

/-- The place of a day of a year in its month. Months are counted from March. -/
structure MonthDay (dayOfYear month day : Int) : Prop where
  inYear : 0 ≤ month ∧ month ≤ 11
  first : 1 ≤ day
  last : day ≤
    if month = 11 then 29 else if month = 1 ∨ month = 3 ∨ month = 6 ∨ month = 8 then 30 else 31
  count : dayOfYear = (153 * month + 2) / 5 + day - 1
  leap : month = 11 → day = 29 → dayOfYear = 365

theorem monthDay {dayOfYear : Int} (low : 0 ≤ dayOfYear) (high : dayOfYear ≤ 365) :
    MonthDay dayOfYear ((5 * dayOfYear + 2) / 153)
      (dayOfYear - (153 * ((5 * dayOfYear + 2) / 153) + 2) / 5 + 1) := by
  constructor
  · omega
  · omega
  · split
    · omega
    · split <;> omega
  · omega
  · omega

/-- What the date of a day is made of. -/
theorem ofDays_eq (days : Int) : ∃ era dayOfEra yearOfEra dayOfYear month day : Int,
    days + 719468 = era * 146097 + dayOfEra ∧ Place dayOfEra yearOfEra dayOfYear ∧
      MonthDay dayOfYear month day ∧
        ofDays days = ⟨if month < 10 then yearOfEra + era * 400 else yearOfEra + era * 400 + 1,
          (if month < 10 then month + 3 else month - 9).toNat, day.toNat⟩ := by
  have low : 0 ≤ (days + 719468) % 146097 := by omega
  have high : (days + 719468) % 146097 < 146097 := by omega
  have found := place low high
  have month := monthDay found.day.1 found.day.2
  refine ⟨(days + 719468) / 146097, _, _, _, _, _, by omega, found, month, ?_⟩
  have bound := month.inYear
  simp only [ofDays, Date.mk.injEq]
  refine ⟨?_, rfl, rfl⟩
  simp only [yearOf] at bound ⊢
  split <;> split <;> omega

/-- Counting the days up to the date of a day gives the day back. -/
@[simp] theorem toDays_ofDays (days : Int) : (ofDays days).toDays = days := by
  obtain ⟨era, dayOfEra, yearOfEra, dayOfYear, month, day, split, place, inMonth, same⟩ :=
    ofDays_eq days
  have year := place.year
  have count := place.count
  have bound := inMonth.inYear
  have first := inMonth.first
  have inYear := inMonth.count
  rw [same]
  simp only [toDays]
  by_cases early : month < 10
  · have later : ¬(month + 3).toNat ≤ 2 := by omega
    have back : ((month + 3).toNat : Int) - 3 = month := by omega
    have era' : (yearOfEra + era * 400) / 400 = era := by omega
    have rest : (yearOfEra + era * 400) % 400 = yearOfEra := by omega
    have whole : (day.toNat : Int) = day := by omega
    simp only [if_pos early, if_neg later, back, era', rest, whole]
    omega
  · have later : (month - 9).toNat ≤ 2 := by omega
    have back : ((month - 9).toNat : Int) + 9 = month := by omega
    have era' : (yearOfEra + era * 400 + 1 - 1) / 400 = era := by omega
    have rest : (yearOfEra + era * 400 + 1 - 1) % 400 = yearOfEra := by omega
    have whole : (day.toNat : Int) = day := by omega
    simp only [if_neg early, if_pos later, back, era', rest, whole]
    omega

/-- The date of a day is a day of the calendar. -/
theorem isValid_ofDays (days : Int) : (ofDays days).isValid = true := by
  obtain ⟨era, dayOfEra, yearOfEra, dayOfYear, month, day, -, place, inMonth, same⟩ :=
    ofDays_eq days
  have leap := place.leap
  have bound := inMonth.inYear
  have first := inMonth.first
  have last := inMonth.last
  have leapDay := inMonth.leap
  rw [same]
  simp only [isValid, Bool.and_eq_true, decide_eq_true_eq]
  refine ⟨⟨⟨?_, ?_⟩, ?_⟩, ?_⟩
  · split <;> omega
  · split <;> omega
  · omega
  · by_cases february : month = 11
    · subst february
      have leapYear : day = 29 → isLeap (yearOfEra + era * 400 + 1) = true := by
        intro day29
        have leap := leap (leapDay rfl day29)
        simp only [isLeap, Bool.and_eq_true, Bool.or_eq_true, beq_iff_eq, bne_iff_ne]
        refine ⟨by omega, ?_⟩
        rcases leap.2 with common | fourth
        · left
          omega
        · right
          omega
      change day.toNat ≤ if isLeap (yearOfEra + era * 400 + 1) = true then 29 else 28
      simp only [if_true] at last
      split
      · omega
      · next plain =>
          have ordinary : day ≠ 29 := fun day29 => plain (leapYear day29)
          omega
    · simp only [if_neg february] at last
      have other : (if month < 10 then month + 3 else month - 9).toNat ≠ 2 := by
        split <;> omega
      rw [monthLength, if_neg other]
      split at last
      · split <;> split <;> omega
      · split <;> split <;> omega

end Gatehouse.Date
