import ImportAtlas.Clock.Pattern
import ImportAtlas.Proofs.Clock.Calendar
import ImportAtlas.Proofs.Clock.Microseconds
import ImportAtlas.Proofs.Text.Digits

/-!
# Written times

A record is stamped with the date and the time of day of its moment.  Read as a date of the calendar
the stamp gives back the second in which the moment lies, and since all stamps have the same form,
they have the order of their seconds.
-/

namespace ImportAtlas

namespace Moment

def readIso? (t : Text) : Option Int := do
  let (year, t) ← Text.readFixed? 4 t
  let t ← Text.after? "-" t
  let (month, t) ← Text.readFixed? 2 t
  let t ← Text.after? "-" t
  let (day, t) ← Text.readFixed? 2 t
  let t ← Text.after? "T" t
  let (hour, t) ← Text.readFixed? 2 t
  let t ← Text.after? ":" t
  let (minute, t) ← Text.readFixed? 2 t
  let t ← Text.after? ":" t
  let (second, t) ← Text.readFixed? 2 t
  let date : Date := ⟨year, month, day⟩
  if t = "+00:00" ∧ date.IsValid ∧ hour < 24 ∧ minute < 60 ∧ second < 60 then
    some (date.toDays * 86400 + hour * 3600 + minute * 60 + second)
  else none

/-- The microseconds since the start of 1970 lead into one of the years 1 to 9999. -/
def InWrittenYears (micros : Int) : Prop :=
  ∃ date : Date, date.IsValid ∧ 1 ≤ date.year ∧ date.year ≤ 9999 ∧
    date.toDays = micros / 86400000000

/-- What becomes of a time that is exactly so many microseconds, whether it is a whole number of
seconds or a fraction. -/
inductive Counts (micros : Int) : Except ClockFault Moment → Prop where
  | whole {seconds : Int} (h : seconds * 1000000 = micros) : Counts micros (ofSeconds seconds)
  | fraction {time : Fraction} (h : time.IsMicros micros) : Counts micros (ofFraction time)

/-- The stamp of a record when no pattern is given. -/
def Stamps (created : Except ClockFault Moment) (stamp : Text) : Prop :=
  ∃ moment, created.bind inRange = .ok moment ∧ moment.write [] = .ok stamp

variable {moment first second : Moment} {micros a b : Int} {stamp s t u v : Text}
  {created other : Except ClockFault Moment} {width m n : Nat}

/-!
## Times of day
-/

theorem seconds_eq (moment : Moment) :
    moment.date.toDays * 86400 + moment.hour * 3600 + moment.minute * 60 + moment.second =
      moment.seconds := by
  have hdays : moment.date.toDays = moment.seconds / 86400 := Date.toDays_ofDays moment.days
  rw [hdays]
  unfold hour minute second secondOfDay
  omega

theorem hour_lt (moment : Moment) : moment.hour < 24 := by
  unfold hour secondOfDay
  omega

theorem minute_lt (moment : Moment) : moment.minute < 60 := Nat.mod_lt _ (by decide)

theorem second_lt (moment : Moment) : moment.second < 60 := Nat.mod_lt _ (by decide)

theorem isValid_date (moment : Moment) : moment.date.IsValid := Date.isValid_ofDays moment.days

theorem month_lt (moment : Moment) : moment.date.month < 100 :=
  Nat.lt_of_le_of_lt moment.isValid_date.month_le (by decide)

theorem day_lt (moment : Moment) : moment.date.day < 100 := by
  have hday := moment.isValid_date.day_le
  unfold Date.daysInMonth at hday
  split at hday
  case h_1 => split at hday <;> omega
  all_goals omega

/-!
## Reading stamps
-/

theorem readIso?_iso (hfrom : 0 ≤ moment.date.year) (hto : moment.date.year < 10000) :
    readIso? moment.iso = some moment.seconds := by
  have hyear : moment.date.year.toNat < 10 ^ 4 := by omega
  have hdate : (⟨moment.date.year.toNat, moment.date.month, moment.date.day⟩ : Date) =
      moment.date := by
    rw [Int.toNat_of_nonneg hfrom]
  have hmonth := moment.month_lt
  have hday := moment.day_lt
  have hhour := moment.hour_lt
  have hminute := moment.minute_lt
  have hsecond := moment.second_lt
  unfold readIso? iso
  simp only [List.append_assoc, Text.readFixed?_fixed_append hyear,
    Text.readFixed?_fixed_append (show moment.date.month < 10 ^ 2 from hmonth),
    Text.readFixed?_fixed_append (show moment.date.day < 10 ^ 2 from hday),
    Text.readFixed?_fixed_append (show moment.hour < 10 ^ 2 by omega),
    Text.readFixed?_fixed_append (show moment.minute < 10 ^ 2 by omega),
    Text.readFixed?_fixed_append (show moment.second < 10 ^ 2 by omega),
    Text.after?_append, Option.bind_eq_bind, Option.bind_some, hdate]
  rw [if_pos ⟨trivial, moment.isValid_date, hhour, hminute, hsecond⟩, seconds_eq]

/-!
## The order of stamps
-/

theorem iso_congr (h : first.seconds = second.seconds) : first.iso = second.iso := by
  rcases first with ⟨seconds, micros⟩
  rcases second with ⟨_, _⟩
  cases h
  rfl

/-- A number with what separates it from the next one decides the order when it differs. -/
theorem le_field (sep : Text) (hn : n < 10 ^ width) (h : m < n ∨ m = n ∧ Text.le u v = true) :
    Text.le (Text.fixed 10 width m ++ (sep ++ u)) (Text.fixed 10 width n ++ (sep ++ v)) = true := by
  apply Text.le_fixed_append hn
  rw [Text.le_append rfl, if_pos rfl]
  exact h

/-- Of two moments the earlier one has the earlier date, or the earlier time on the same date. -/
theorem precedes_or_le (h : first.seconds ≤ second.seconds) :
    first.date.Precedes second.date ∨
      first.date = second.date ∧ first.secondOfDay ≤ second.secondOfDay := by
  have hdays : first.days ≤ second.days := Int.ediv_le_ediv (by decide) h
  rcases Int.lt_or_eq_of_le hdays with hlt | heq
  · apply Or.inl
    apply Date.precedes_of_toDays_lt second.isValid_date
    unfold date
    rw [Date.toDays_ofDays, Date.toDays_ofDays]
    exact hlt
  · apply Or.inr
    constructor
    · exact congrArg Date.ofDays heq
    · unfold days at heq
      unfold secondOfDay
      omega

theorem le_time (h : first.secondOfDay ≤ second.secondOfDay) :
    first.hour < second.hour ∨ first.hour = second.hour ∧
      (first.minute < second.minute ∨ first.minute = second.minute ∧
        first.second ≤ second.second) := by
  unfold hour minute Moment.second
  omega

theorem le_iso (h : first.seconds ≤ second.seconds) (hfrom : 0 ≤ first.date.year)
    (hto : second.date.year < 10000) : Text.le first.iso second.iso = true := by
  have hyear : second.date.year.toNat < 10 ^ 4 := by omega
  have hmonth : second.date.month < 10 ^ 2 := second.month_lt
  have hday : second.date.day < 10 ^ 2 := second.day_lt
  have hhour := second.hour_lt
  have hminute := second.minute_lt
  have hsecond := second.second_lt
  unfold iso
  simp only [List.append_assoc]
  rcases precedes_or_le h with hprecedes | ⟨hdate, htime⟩
  · rcases hprecedes with hlt | ⟨heq, hlt | ⟨heq', hlt⟩⟩
    · exact le_field "-" hyear (Or.inl (by omega))
    · rw [heq]
      exact le_field "-" hyear (Or.inr ⟨rfl, le_field "-" hmonth (Or.inl hlt)⟩)
    · rw [heq, heq']
      refine le_field "-" hyear (Or.inr ⟨rfl, le_field "-" hmonth (Or.inr ⟨rfl, ?_⟩)⟩)
      exact le_field "T" hday (Or.inl hlt)
  · rw [hdate]
    refine le_field "-" hyear (Or.inr ⟨rfl, le_field "-" hmonth (Or.inr ⟨rfl, ?_⟩)⟩)
    refine le_field "T" hday (Or.inr ⟨rfl, ?_⟩)
    refine le_field ":" (by omega) ((le_time htime).imp_right fun ⟨heq, hle⟩ => ⟨heq, ?_⟩)
    refine le_field ":" (by omega) (hle.imp_right fun ⟨heq, hle⟩ => ⟨heq, ?_⟩)
    refine Text.le_fixed_append (by omega) ((Nat.lt_or_eq_of_le hle).imp_right fun heq => ?_)
    exact ⟨heq, Text.le_refl _⟩

/-!
## Stamps of records
-/

theorem ofMicros_date {date : Date} (hvalid : date.IsValid)
    (hdays : date.toDays = micros / 86400000000) : (ofMicros micros).date = date := by
  have hsame : (ofMicros micros).days = date.toDays := by
    unfold ofMicros days
    dsimp only
    omega
  rw [Moment.date, hsame, Date.ofDays_toDays hvalid]

theorem InWrittenYears.year_bounds (h : InWrittenYears micros) :
    1 ≤ (ofMicros micros).date.year ∧ (ofMicros micros).date.year ≤ 9999 := by
  rcases h with ⟨date, hvalid, hfrom, hto, hdays⟩
  rw [ofMicros_date hvalid hdays]
  exact ⟨hfrom, hto⟩

theorem inRange_ofMicros (h : InWrittenYears micros) :
    inRange (ofMicros micros) = .ok (ofMicros micros) := by
  have hyear := h.year_bounds
  have hbmod : Int.bmod (ofMicros micros).date.year 4294967296 = (ofMicros micros).date.year := by
    apply Int.bmod_eq_of_le <;> omega
  unfold inRange
  dsimp only
  rw [hbmod, if_neg (by simp; omega), if_pos (by simp; omega)]

theorem InWrittenYears.bounds (h : InWrittenYears micros) :
    -longLimit ≤ micros / 1000000 ∧ micros / 1000000 < longLimit := by
  rcases h with ⟨date, hvalid, hfrom, hto, hdays⟩
  have hstart := Date.daysBeforeYear_mono hfrom
  have hend := Date.daysBeforeYear_mono hto
  have hlast := hvalid.dayOfYear_lt
  have hfirst : Date.daysBeforeYear 1 = -719162 := by decide
  have hfinal : Date.daysBeforeYear 9999 = 2932532 := by decide
  have hlong : Date.daysInYear date.year ≤ 366 := by
    unfold Date.daysInYear
    split <;> decide
  unfold Date.toDays at hdays
  unfold longLimit
  omega

theorem Counts.eq_ok (h : Counts micros created) (hyears : InWrittenYears micros) :
    created = .ok (ofMicros micros) := by
  rcases hyears.bounds with ⟨hlow, hhigh⟩
  cases h with
  | @whole seconds h =>
      have hmoment : (⟨seconds, 0⟩ : Moment) = ofMicros micros := by
        rw [ofMicros, Moment.mk.injEq]
        omega
      have hseconds : micros / 1000000 = seconds := by omega
      rw [hseconds] at hlow hhigh
      rw [← hmoment]
      simp [ofSeconds, hlow, hhigh]
  | fraction h => exact ofFraction_eq h hlow (Int.le_of_lt hhigh)

theorem stamps_iff (h : Counts micros created) (hyears : InWrittenYears micros) :
    Stamps created stamp ↔ stamp = (ofMicros micros).iso := by
  have hwrite : (ofMicros micros).write [] = .ok (ofMicros micros).iso := rfl
  rw [Stamps, h.eq_ok hyears]
  simp only [Except.bind, inRange_ofMicros hyears, Except.ok.injEq, exists_eq_left', hwrite]
  exact eq_comm

/-- A record whose time is a whole number of microseconds in the years 1 to 9999 has a stamp, which
is read as the second in which the time lies.  The stamps of such records have the order of their
times, and only records of one second share a stamp. -/
theorem stamps_exact_and_ordered :
    (∀ micros created, Counts micros created → InWrittenYears micros →
      ∃ stamp, Stamps created stamp ∧ readIso? stamp = some (micros / 1000000)) ∧
    ∀ a b created other, Counts a created → Counts b other → InWrittenYears a →
      InWrittenYears b → ∀ s t, Stamps created s → Stamps other t → a ≤ b →
        Text.le s t = true ∧ (s = t ↔ a / 1000000 = b / 1000000) := by
  have hread : ∀ micros, InWrittenYears micros →
      readIso? (ofMicros micros).iso = some (micros / 1000000) := by
    intro micros hyears
    have hyear := hyears.year_bounds
    exact readIso?_iso (by omega) (by omega)
  constructor
  · intro micros created hcounts hyears
    exact ⟨_, (stamps_iff hcounts hyears).mpr rfl, hread micros hyears⟩
  · intro a b created other hcounts hcounts' hyears hyears' s t hs ht hle
    rw [stamps_iff hcounts hyears] at hs
    rw [stamps_iff hcounts' hyears'] at ht
    have hfrom := hyears.year_bounds
    have hto := hyears'.year_bounds
    rw [hs, ht]
    constructor
    · exact le_iso (Int.ediv_le_ediv (by decide) hle) (by omega) (by omega)
    · constructor
      · intro hsame
        have hseconds := congrArg readIso? hsame
        rw [hread a hyears, hread b hyears'] at hseconds
        exact Option.some.inj hseconds
      · intro hseconds
        exact iso_congr hseconds

theorem stamps_before_leap_day :
    Stamps (ofFraction ⟨-1, 64⟩) "1969-12-31T23:59:59+00:00" ∧
      Stamps (ofSeconds 951782400) "2000-02-29T00:00:00+00:00" ∧
      readIso? "1969-12-31T23:59:59+00:00" = some (-1) ∧
      Text.le "1969-12-31T23:59:59+00:00" "2000-02-29T00:00:00+00:00" = true := by
  have hbefore : Counts (-15625) (ofFraction ⟨-1, 64⟩) := .fraction ⟨by decide, by decide⟩
  have hleap : Counts 951782400000000 (ofSeconds 951782400) := .whole (by decide)
  have hbeforeYears : InWrittenYears (-15625) :=
    ⟨⟨1969, 12, 31⟩, by decide, by decide, by decide, by decide⟩
  have hleapYears : InWrittenYears 951782400000000 :=
    ⟨⟨2000, 2, 29⟩, by decide, by decide, by decide, by decide⟩
  have hstamp : Stamps (ofFraction ⟨-1, 64⟩) "1969-12-31T23:59:59+00:00" :=
    (stamps_iff hbefore hbeforeYears).mpr rfl
  have hstamp' : Stamps (ofSeconds 951782400) "2000-02-29T00:00:00+00:00" :=
    (stamps_iff hleap hleapYears).mpr rfl
  obtain ⟨hexact, hordered⟩ := stamps_exact_and_ordered
  refine ⟨hstamp, hstamp', ?_, ?_⟩
  · obtain ⟨stamp, hstamps, hread⟩ := hexact _ _ hbefore hbeforeYears
    rw [stamps_iff hbefore hbeforeYears, ← (stamps_iff hbefore hbeforeYears).mp hstamp] at hstamps
    rw [← hstamps, hread]
    decide
  · exact (hordered _ _ _ _ hbefore hleap hbeforeYears hleapYears _ _ hstamp hstamp'
      (by decide)).1

end Moment

end ImportAtlas
