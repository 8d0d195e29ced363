import ImportAtlas.Clock.Calendar
import Mathlib.Tactic.IntervalCases

/-!
# Days and dates

The calendar counts its days through years of 365 or 366 days and through the months of each year.
Every day has one date and every date of the calendar is that of one day, for days before 1970 as
well, and later days have later dates.
-/

namespace ImportAtlas

namespace Date

structure IsValid (date : Date) : Prop where
  month_pos : 1 ≤ date.month
  month_le : date.month ≤ 12
  day_pos : 1 ≤ date.day
  day_le : date.day ≤ daysInMonth date.year date.month

instance (date : Date) : Decidable date.IsValid :=
  decidable_of_iff
    (1 ≤ date.month ∧ date.month ≤ 12 ∧ 1 ≤ date.day ∧
      date.day ≤ daysInMonth date.year date.month)
    ⟨fun ⟨month_pos, month_le, day_pos, day_le⟩ => ⟨month_pos, month_le, day_pos, day_le⟩,
      fun h => ⟨h.month_pos, h.month_le, h.day_pos, h.day_le⟩⟩

def Precedes (first second : Date) : Prop :=
  first.year < second.year ∨ first.year = second.year ∧
    (first.month < second.month ∨ first.month = second.month ∧ first.day < second.day)

def daysInYear (year : Int) : Nat := if isLeapYear year then 366 else 365

def daysBeforeYear (year : Int) : Int :=
  365 * (year - 1970) + ((year - 1) / 4 - (year - 1) / 100 + (year - 1) / 400 - 477)

def daysBeforeMonth (year : Int) (month : Nat) : Nat :=
  ((List.range (month - 1)).map fun m => daysInMonth year (m + 1)).sum

def toDays (date : Date) : Int := daysBeforeYear date.year + date.dayOfYear

variable {date first second : Date} {year other : Int} {month next : Nat}

/-!
## Years
-/

theorem daysBeforeYear_succ (year : Int) :
    daysBeforeYear (year + 1) = daysBeforeYear year + daysInYear year := by
  unfold daysBeforeYear daysInYear isLeapYear
  split
  case isTrue hleap =>
    simp only [Bool.and_eq_true, Bool.or_eq_true, decide_eq_true_eq] at hleap
    push_cast
    omega
  case isFalse hleap =>
    simp only [Bool.and_eq_true, Bool.or_eq_true, decide_eq_true_eq] at hleap
    push_cast
    omega

theorem daysBeforeYear_mono (h : year ≤ other) : daysBeforeYear year ≤ daysBeforeYear other := by
  unfold daysBeforeYear
  omega

/-!
## Months
-/

theorem dayOfYear_eq (date : Date) :
    date.dayOfYear = daysBeforeMonth date.year date.month + (date.day - 1) := by
  have hfold : ∀ (months : List Nat) (days : Nat),
      months.foldl (fun days m => days + daysInMonth date.year (m + 1)) days =
        (months.map fun m => daysInMonth date.year (m + 1)).sum + days := by
    intro months
    induction months with
    | nil => simp
    | cons month months ih =>
        intro days
        rw [List.foldl_cons, ih, List.map_cons, List.sum_cons]
        omega
  exact hfold _ _

theorem daysBeforeMonth_succ (year : Int) (h : 1 ≤ month) :
    daysBeforeMonth year (month + 1) = daysBeforeMonth year month + daysInMonth year month := by
  rcases month with _ | month
  · cases h
  · simp [daysBeforeMonth, List.range_succ]

theorem daysBeforeMonth_add_le (year : Int) (h : 1 ≤ month) (hlt : month < next) :
    daysBeforeMonth year month + daysInMonth year month ≤ daysBeforeMonth year next := by
  induction next, hlt using Nat.le_induction with
  | base => exact (daysBeforeMonth_succ year h).ge
  | succ next hlt ih =>
      rw [daysBeforeMonth_succ year (by omega)]
      exact ih.trans (Nat.le_add_right _ _)

theorem daysBeforeMonth_end (year : Int) : daysBeforeMonth year 13 = daysInYear year := by
  unfold daysInYear
  cases hleap : isLeapYear year <;> simp [daysBeforeMonth, daysInMonth, hleap, List.range_succ]

theorem daysBeforeMonth_eq (year : Int) (hpos : 1 ≤ month) (hle : month ≤ 12) :
    daysBeforeMonth year month =
      if month ≤ 2 then (153 * (month + 9) + 2) / 5 - 306
      else (if isLeapYear year then 60 else 59) + (153 * (month - 3) + 2) / 5 := by
  cases hleap : isLeapYear year <;> interval_cases month <;>
    simp [daysBeforeMonth, daysInMonth, hleap, List.range_succ]

/-!
## The order of dates
-/

theorem IsValid.dayOfYear_lt (h : date.IsValid) : date.dayOfYear < daysInYear date.year := by
  have hlt : date.month < 13 := Nat.lt_succ_of_le h.month_le
  have hmonth := daysBeforeMonth_add_le date.year h.month_pos hlt
  have hyear := daysBeforeMonth_end date.year
  have hday := h.day_le
  have hpos := h.day_pos
  rw [dayOfYear_eq]
  omega

theorem toDays_lt (hfirst : first.IsValid) (h : first.Precedes second) :
    first.toDays < second.toDays := by
  unfold toDays
  rcases h with hyear | ⟨hyear, hmonth | ⟨hmonth, hday⟩⟩
  · have hlast := hfirst.dayOfYear_lt
    have hnext := daysBeforeYear_succ first.year
    have hmono : daysBeforeYear (first.year + 1) ≤ daysBeforeYear second.year :=
      daysBeforeYear_mono hyear
    omega
  · have hnext := daysBeforeMonth_add_le second.year hfirst.month_pos hmonth
    have hpos := hfirst.day_pos
    have hlast := hfirst.day_le
    rw [hyear] at hlast
    rw [dayOfYear_eq, dayOfYear_eq, hyear]
    omega
  · have hpos := hfirst.day_pos
    rw [dayOfYear_eq, dayOfYear_eq, hyear, hmonth]
    omega

theorem precedes_or_eq_or_precedes (first second : Date) :
    first.Precedes second ∨ first = second ∨ second.Precedes first := by
  unfold Precedes
  rw [Date.mk.injEq]
  omega

theorem precedes_of_toDays_lt (hsecond : second.IsValid) (h : first.toDays < second.toDays) :
    first.Precedes second := by
  rcases precedes_or_eq_or_precedes first second with hprecedes | heq | hprecedes
  · exact hprecedes
  · rw [heq] at h
    exact absurd h (Int.lt_irrefl _)
  · exact absurd (toDays_lt hsecond hprecedes) (Int.lt_asymm h)

theorem eq_of_toDays_eq (hfirst : first.IsValid) (hsecond : second.IsValid)
    (h : first.toDays = second.toDays) : first = second := by
  rcases precedes_or_eq_or_precedes first second with hprecedes | heq | hprecedes
  · exact absurd h (Int.ne_of_lt (toDays_lt hfirst hprecedes))
  · exact heq
  · exact absurd h.symm (Int.ne_of_lt (toDays_lt hsecond hprecedes))

/-!
## The date of a day

The year from March on is found within its period of 400 years, and the month within that year.
-/

def daysBeforeMarch (year : Int) : Int := 365 * year + year / 4 - year / 100 + year / 400

def ofMarch (year : Int) (day : Nat) : Date :=
  let month := (5 * day + 2) / 153
  if month < 10 then ⟨year, month + 3, day - (153 * month + 2) / 5 + 1⟩
  else ⟨year + 1, month - 9, day - (153 * month + 2) / 5 + 1⟩

theorem daysBeforeMarch_period (period year : Int) :
    daysBeforeMarch (400 * period + year) = 146097 * period + daysBeforeMarch year := by
  have hfour : (400 * period + year) / 4 = 100 * period + year / 4 := by omega
  have hcentury : (400 * period + year) / 100 = 4 * period + year / 100 := by omega
  have hperiod : (400 * period + year) / 400 = period + year / 400 := by omega
  unfold daysBeforeMarch
  rw [hfour, hcentury, hperiod]
  omega

theorem daysBeforeMarch_natCast (year : Nat) : daysBeforeMarch year =
    (365 * year + year / 4 - year / 100 + year / 400 : Nat) := by
  unfold daysBeforeMarch
  omega

theorem yearOfPeriod_bounds {day year : Nat} (hday : day < 146097)
    (hyear : year = (day - day / 1460 + day / 36524 - day / 146096) / 365) :
    year < 400 ∧ 365 * year + year / 4 - year / 100 ≤ day ∧
      day < 365 * (year + 1) + (year + 1) / 4 - (year + 1) / 100 + (year + 1) / 400 := by
  have hlast : day = 146096 ∨ day < 146096 := by omega
  rcases hlast with rfl | hearlier
  · subst hyear
    decide
  · -- Centuries are the hard part: with the century named, the rest is linear.
    rw [Nat.div_eq_of_lt hearlier] at hyear
    generalize hcentury : day / 36524 = century at hyear
    have hle : century ≤ 3 := by omega
    have hbounds : 100 * century ≤ year ∧ year < 100 * century + 100 := by
      interval_cases century <;> omega
    have hsame : year / 100 = century := by omega
    rw [hsame]
    generalize hnext : (year + 1) / 100 = next
    generalize hfull : (year + 1) / 400 = full
    refine ⟨by omega, ?_, ?_⟩
    · interval_cases century <;> omega
    · have hmore : next = century ∨ next = century + 1 := by omega
      rcases hmore with rfl | rfl
      · interval_cases next <;> omega
      · interval_cases century <;> omega

theorem exists_ofMarch (days : Int) : ∃ (year : Int) (day : Nat),
    ofDays days = ofMarch year day ∧ days + 719468 = daysBeforeMarch year + day ∧
      days + 719468 < daysBeforeMarch (year + 1) := by
  generalize hperiod : (days + 719468) / 146097 = period
  generalize hday : ((days + 719468) % 146097).toNat = day
  generalize hyear : (day - day / 1460 + day / 36524 - day / 146096) / 365 = year
  have hsplit : days + 719468 = 146097 * period + day := by omega
  rcases yearOfPeriod_bounds (by omega : day < 146097) hyear.symm with ⟨hlt, hfrom, hto⟩
  have hstart : daysBeforeMarch year = (365 * year + year / 4 - year / 100 : Nat) := by
    rw [daysBeforeMarch_natCast, Nat.div_eq_of_lt hlt, Nat.add_zero]
  have hend : (day : Int) < daysBeforeMarch (year + 1) := by
    rw [← Int.natCast_succ, daysBeforeMarch_natCast]
    exact Int.ofNat_lt.mpr hto
  refine ⟨400 * period + year, day - (365 * year + year / 4 - year / 100), ?_, ?_, ?_⟩
  · unfold ofDays ofMarch
    simp only [hperiod, hday, hyear]
    split
    case isTrue hmonth =>
      rw [if_neg (by omega)]
      simp only [Date.mk.injEq, and_true]
      omega
    case isFalse hmonth =>
      rw [if_pos (by omega)]
      simp only [Date.mk.injEq, and_true]
      omega
  · rw [daysBeforeMarch_period, hstart, hsplit]
    omega
  · rw [Int.add_assoc, daysBeforeMarch_period, hsplit]
    omega

theorem isLeapYear_of_march {day : Nat}
    (hlt : daysBeforeMarch year + day < daysBeforeMarch (year + 1)) :
    day < 365 ∨ day = 365 ∧ isLeapYear (year + 1) = true := by
  unfold daysBeforeMarch at hlt
  simp only [isLeapYear, Bool.and_eq_true, Bool.or_eq_true, decide_eq_true_eq]
  omega

theorem isValid_ofMarch {day : Nat}
    (hlt : daysBeforeMarch year + day < daysBeforeMarch (year + 1)) :
    (ofMarch year day).IsValid := by
  have hday := isLeapYear_of_march hlt
  unfold ofMarch
  generalize hmonth : (5 * day + 2) / 153 = month
  have hle : month ≤ 11 := by omega
  dsimp only
  split
  case isTrue h =>
    constructor
    · simp
    · simp; omega
    · simp
    · interval_cases month <;> simp [daysInMonth] <;> omega
  case isFalse h =>
    have hlate : month = 10 ∨ month = 11 := by omega
    rcases hlate with rfl | rfl
    · constructor
      · simp
      · simp
      · simp
      · simp [daysInMonth]; omega
    · constructor
      · simp
      · simp
      · simp
      · rcases hday with hday | ⟨hday, hleap⟩
        · simp [daysInMonth]
          split <;> omega
        · simp [daysInMonth, hleap]; omega

/-- January starts 306 days after the March before it. -/
theorem daysBeforeYear_eq (year : Int) :
    daysBeforeYear (year + 1) + 719468 = daysBeforeMarch year + 306 := by
  unfold daysBeforeYear daysBeforeMarch
  rw [Int.add_sub_cancel]
  omega

theorem toDays_ofMarch {day : Nat}
    (hlt : daysBeforeMarch year + day < daysBeforeMarch (year + 1)) :
    (ofMarch year day).toDays + 719468 = daysBeforeMarch year + day := by
  have hvalid := isValid_ofMarch hlt
  have hjanuary := daysBeforeYear_eq year
  unfold toDays
  rw [dayOfYear_eq, daysBeforeMonth_eq _ hvalid.month_pos hvalid.month_le]
  unfold ofMarch at hvalid ⊢
  generalize hmonth : (5 * day + 2) / 153 = month at hvalid ⊢
  dsimp only at hvalid ⊢
  split
  case isTrue h =>
    have hyear := daysBeforeYear_succ year
    unfold daysInYear at hyear
    dsimp only
    rw [if_neg (by omega), Nat.add_sub_cancel, Nat.add_sub_cancel]
    cases hleap : isLeapYear year with
    | true =>
        simp only [hleap, if_true] at hyear ⊢
        omega
    | false =>
        simp only [hleap, Bool.false_eq_true, if_false] at hyear ⊢
        omega
  case isFalse h =>
    have hlate : month - 9 ≤ 2 := by
      have hday := isLeapYear_of_march hlt
      omega
    dsimp only
    rw [if_pos hlate, Nat.sub_add_cancel (by omega), Nat.add_sub_cancel]
    omega

theorem isValid_ofDays (days : Int) : (ofDays days).IsValid := by
  rcases exists_ofMarch days with ⟨year, day, hdate, hsum, hlt⟩
  rw [hdate]
  exact isValid_ofMarch (hsum ▸ hlt)

theorem toDays_ofDays (days : Int) : (ofDays days).toDays = days := by
  rcases exists_ofMarch days with ⟨year, day, hdate, hsum, hlt⟩
  have hmarch := toDays_ofMarch (hsum ▸ hlt)
  rw [hdate]
  omega

theorem ofDays_toDays (h : date.IsValid) : ofDays date.toDays = date :=
  eq_of_toDays_eq (isValid_ofDays date.toDays) h (toDays_ofDays date.toDays)

example : ofDays 11016 = ⟨2000, 2, 29⟩ := by decide

end Date

end ImportAtlas
