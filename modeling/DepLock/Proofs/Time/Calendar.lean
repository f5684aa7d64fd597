import DepLock.Timestamp
import Mathlib.Tactic.SplitIfs

/-!
# The calendar behind timestamps

`Timestamp.ofUnixNanos` finds the date of a day count with the era arithmetic of
`civilFromDays`, and `Timestamp.toUnixNanos` counts the days of a date back with
`daysFromCivil`. Both count from 0000-03-01 in eras of 400 years (146097 days) and begin
each year in March, so that the leap day ends the year. This file proves that the two
agree:

* within an era, the year (`yearOfEra`) lies in 0..399 and the day of the year counted
  from March in 0..365, and the day 365 only falls in a year whose next year is a leap
  year (`dayOfYear_last`);
* so `civilFromDays` gives a month 1..12 and a day within the month
  (`civilFromDays_month`, `civilFromDays_day`), and `daysFromCivil` counts that date back
  (`daysFromCivil_civilFromDays`);
* an instant from 1970 to the end of year 9999 is therefore a valid timestamp
  (`ofUnixNanos_valid`) that counts back to itself (`toUnixNanos_ofUnixNanos`).

The bounds are facts of linear arithmetic with division by constants, but `omega` does
not find them unaided: each proof states the intermediate floors it needs first.
-/

set_option autoImplicit false

namespace DepLock.Timestamp

/-- A timestamp that names an instant and has an RFC 3339 text: a four-digit year, a
month, a day within the month, a time of day, nanoseconds within the second, and an
offset of whole minutes under a day. -/
structure Valid (t : Timestamp) : Prop where
  year : t.year < 10000
  month : 1 ≤ t.month ∧ t.month ≤ 12
  day : 1 ≤ t.day ∧ t.day ≤ daysIn t.month t.year
  hour : t.hour < 24
  minute : t.minute < 60
  second : t.second < 60
  nanos : t.nanos < 1000000000
  offset : t.offset % 60 = 0 ∧ t.offset.natAbs < 86400

/-! ## Years within an era -/

/-- The year within its era of a day of the era, counted from March. -/
def yearOfEra (doe : Int) : Int := (doe - doe / 1460 + doe / 36524 - doe / 146096) / 365

/-- The days of an era before March 1 of one of its years. -/
def marchStart (yoe : Int) : Int := 365 * yoe + yoe / 4 - yoe / 100

section Era

variable {doe : Int}

/-- The floors that `yearOfEra` takes, against those of the year it finds. -/
theorem yearOfEra_floors (h0 : 0 ≤ doe) (h1 : doe ≤ 146096) :
    yearOfEra doe / 4 ≤ doe / 1460 ∧ doe / 1460 ≤ yearOfEra doe / 4 + 1 ∧
    yearOfEra doe / 100 = doe / 36524 - doe / 146096 := by
  unfold yearOfEra
  refine ⟨by omega, by omega, ?_⟩
  -- the century count is read per century: the era has four and one last day
  have centuries : doe / 36524 = 0 ∨ doe / 36524 = 1 ∨ doe / 36524 = 2 ∨ doe / 36524 = 3 ∨
      doe / 36524 = 4 := by omega
  rcases centuries with h | h | h | h | h <;> omega

/-- The year of a day of an era lies within the era's 400 years. -/
theorem yearOfEra_bounds (h0 : 0 ≤ doe) (h1 : doe ≤ 146096) :
    0 ≤ yearOfEra doe ∧ yearOfEra doe ≤ 399 := by
  unfold yearOfEra
  omega

/-- The day of the year, counted from March, lies in 0..365. -/
theorem dayOfYear_bounds (h0 : 0 ≤ doe) (h1 : doe ≤ 146096) :
    0 ≤ doe - marchStart (yearOfEra doe) ∧ doe - marchStart (yearOfEra doe) ≤ 365 := by
  have floors := yearOfEra_floors h0 h1
  have hy : yearOfEra doe = (doe - doe / 1460 + doe / 36524 - doe / 146096) / 365 := rfl
  unfold marchStart
  omega

/-- The 366th day of a year, counted from March, is the leap day of the next year. -/
theorem dayOfYear_last (h0 : 0 ≤ doe) (h1 : doe ≤ 146096)
    (h : doe - marchStart (yearOfEra doe) = 365) :
    (yearOfEra doe + 1) % 4 = 0 ∧
      ((yearOfEra doe + 1) % 100 ≠ 0 ∨ (yearOfEra doe + 1) % 400 = 0) := by
  obtain ⟨f4, f4', f100⟩ := yearOfEra_floors h0 h1
  have bounds := yearOfEra_bounds h0 h1
  have hy : yearOfEra doe = (doe - doe / 1460 + doe / 36524 - doe / 146096) / 365 := rfl
  unfold marchStart at h
  generalize yearOfEra doe = y at *
  -- the year ends a cycle of four: its four-year floor is one short of the era's
  have cycle : doe / 1460 = y / 4 + 1 := by omega
  have rest : 1095 ≤ 365 * (y % 4) + y / 4 - y / 100 := by omega
  have three : y % 4 = 3 := by omega
  refine ⟨by omega, ?_⟩
  -- and the only century it ends is the era's last
  by_cases hcentury : (y + 1) % 100 = 0
  · have : y = 99 ∨ y = 199 ∨ y = 299 ∨ y = 399 := by omega
    rcases this with rfl | rfl | rfl | rfl <;> omega
  · exact .inl hcentury

end Era

/-! ## Months within a year -/

/-- The first day of a month within its year, months counted from March (0). -/
def monthStart (mp : Int) : Int := (153 * mp + 2) / 5

section Year

variable {doy : Int}

/-- The month a day of the year falls in, counted from March, and the month's first day. -/
theorem monthOf_bounds (h0 : 0 ≤ doy) (h1 : doy ≤ 365) :
    0 ≤ (5 * doy + 2) / 153 ∧ (5 * doy + 2) / 153 ≤ 11 ∧
    monthStart ((5 * doy + 2) / 153) ≤ doy ∧ doy < monthStart ((5 * doy + 2) / 153 + 1) := by
  unfold monthStart
  omega

end Year

/-- The date of a day count in the era's pieces: the era, the day of the era, its year
and day of the year, and the month counted from March. -/
theorem civilFromDays_of {days era doe yoe doy mp : Int} (he : era = (days + 719468) / 146097)
    (hd : doe = days + 719468 - era * 146097) (hy : yoe = yearOfEra doe)
    (hdy : doy = doe - marchStart yoe) (hm : mp = (5 * doy + 2) / 153) :
    civilFromDays days =
      (yoe + era * 400 + (if (if mp < 10 then mp + 3 else mp - 9) ≤ 2 then 1 else 0),
        (if mp < 10 then mp + 3 else mp - 9).toNat, (doy - monthStart mp + 1).toNat) := by
  subst he hd hy hdy hm
  rfl

/-- The pieces of a day count, with the bounds that the era arithmetic keeps. -/
theorem civil_pieces (days : Int) : ∃ era doe yoe doy mp : Int,
    era = (days + 719468) / 146097 ∧ doe = days + 719468 - era * 146097 ∧
    yoe = yearOfEra doe ∧ doy = doe - marchStart yoe ∧ mp = (5 * doy + 2) / 153 ∧
    0 ≤ doe ∧ doe ≤ 146096 ∧ 0 ≤ yoe ∧ yoe ≤ 399 ∧ 0 ≤ doy ∧ doy ≤ 365 ∧ 0 ≤ mp ∧ mp ≤ 11 ∧
    monthStart mp ≤ doy ∧ doy < monthStart (mp + 1) := by
  have hdoe : 0 ≤ days + 719468 - (days + 719468) / 146097 * 146097 ∧
      days + 719468 - (days + 719468) / 146097 * 146097 ≤ 146096 := by omega
  have year := yearOfEra_bounds hdoe.1 hdoe.2
  have day := dayOfYear_bounds hdoe.1 hdoe.2
  have month := monthOf_bounds day.1 day.2
  exact ⟨_, _, _, _, _, rfl, rfl, rfl, rfl, rfl, hdoe.1, hdoe.2, year.1, year.2, day.1, day.2,
    month.1, month.2.1, month.2.2.1, month.2.2.2⟩

/-- `daysFromCivil` of a date given by its era, year of the era, month counted from March
and day of the year: the days before the era, before the year's March, and the day. -/
theorem daysFromCivil_pieces {era yoe doy mp : Int} (hy0 : 0 ≤ yoe) (hy1 : yoe ≤ 399)
    (hm0 : 0 ≤ mp) (hm1 : mp ≤ 11) :
    daysFromCivil (yoe + era * 400 + (if (if mp < 10 then mp + 3 else mp - 9) ≤ 2 then 1 else 0))
      (if mp < 10 then mp + 3 else mp - 9) (doy - monthStart mp + 1) =
      era * 146097 + marchStart yoe + doy - 719468 := by
  -- the year before March is `yoe` of the same era, whichever month it is
  have hera : (yoe + era * 400) / 400 = era := by omega
  unfold daysFromCivil marchStart monthStart
  by_cases hmp : mp < 10
  · have hm : ¬ mp + 3 ≤ 2 := by omega
    simp only [hmp, if_true, hm, if_false, Int.add_zero, show mp + 3 > 2 by omega,
      show mp + 3 - 3 = mp by omega, hera]
    omega
  · have hm : mp - 9 ≤ 2 := by omega
    simp only [hmp, if_false, hm, if_true, show ¬ mp - 9 > 2 by omega,
      show mp - 9 + 9 = mp by omega, show yoe + era * 400 + 1 - 1 = yoe + era * 400 by omega, hera]
    omega

/-- `daysFromCivil` counts the date of a day count back to it. -/
theorem daysFromCivil_civilFromDays (days : Int) :
    daysFromCivil (civilFromDays days).1 (civilFromDays days).2.1 (civilFromDays days).2.2 =
      days := by
  obtain ⟨era, doe, yoe, doy, mp, he, hd, hy, hdy, hm, -, -, hy0, hy1, hdy0, -, hm0, hm1,
    hstart, -⟩ := civil_pieces days
  rw [civilFromDays_of he hd hy hdy hm]
  have month : ((if mp < 10 then mp + 3 else mp - 9).toNat : Int) =
      if mp < 10 then mp + 3 else mp - 9 := by
    split_ifs <;> omega
  have day : ((doy - monthStart mp + 1).toNat : Int) = doy - monthStart mp + 1 := by omega
  simp only [month, day]
  rw [daysFromCivil_pieces hy0 hy1 hm0 hm1]
  omega

/-- The month of a day count is one of the twelve. -/
theorem civilFromDays_month (days : Int) :
    1 ≤ (civilFromDays days).2.1 ∧ (civilFromDays days).2.1 ≤ 12 := by
  obtain ⟨era, doe, yoe, doy, mp, he, hd, hy, hdy, hm, -, -, -, -, -, -, hm0, hm1, -, -⟩ :=
    civil_pieces days
  rw [civilFromDays_of he hd hy hdy hm]
  dsimp only
  split_ifs <;> omega

/-- The year of a day count from 0000-03-01 on is not negative. -/
theorem civilFromDays_year_nonneg {days : Int} (h : 0 ≤ days + 719468) :
    0 ≤ (civilFromDays days).1 := by
  obtain ⟨era, doe, yoe, doy, mp, he, hd, hy, hdy, hm, -, -, hy0, -, -, -, -, -, -, -⟩ :=
    civil_pieces days
  rw [civilFromDays_of he hd hy hdy hm]
  dsimp only
  split_ifs <;> omega

/-- The year of a day count before 10000-01-01 has at most four digits. -/
theorem civilFromDays_year_lt {days : Int} (h : days < 2932897) :
    (civilFromDays days).1 < 10000 := by
  obtain ⟨era, doe, yoe, doy, mp, he, hd, hy, hdy, hm, hdoe0, hdoe1, hy0, hy1, hdy0, hdy1, hm0,
    hm1, hstart, -⟩ := civil_pieces days
  rw [civilFromDays_of he hd hy hdy hm]
  -- only the last December of era 24 is left before the bound; its January is past it
  have hyoe : doe = marchStart yoe + doy := by omega
  unfold marchStart at hyoe
  unfold monthStart at hstart
  dsimp only
  split_ifs <;> omega

/-- The day of a day count lies within its month, the leap day within a leap year's
February. -/
theorem civilFromDays_day {days : Int} (h0 : 0 ≤ days + 719468) :
    1 ≤ (civilFromDays days).2.2 ∧
      (civilFromDays days).2.2 ≤ daysIn (civilFromDays days).2.1 (civilFromDays days).1.toNat := by
  obtain ⟨era, doe, yoe, doy, mp, he, hd, hy, hdy, hm, hdoe0, hdoe1, hy0, hy1, hdy0, hdy1, hm0,
    hm1, hstart, hnext⟩ := civil_pieces days
  have last := fun h => dayOfYear_last hdoe0 hdoe1 (hy ▸ hdy ▸ h)
  rw [civilFromDays_of he hd hy hdy hm]
  rw [← hy] at last
  have hera : 0 ≤ era := by omega
  unfold monthStart at hstart hnext ⊢
  dsimp only
  -- one case per month, counted from March; only February depends on the year
  have months : mp = 0 ∨ mp = 1 ∨ mp = 2 ∨ mp = 3 ∨ mp = 4 ∨ mp = 5 ∨ mp = 6 ∨ mp = 7 ∨
      mp = 8 ∨ mp = 9 ∨ mp = 10 ∨ mp = 11 := by omega
  rcases months with rfl | rfl | rfl | rfl | rfl | rfl | rfl | rfl | rfl | rfl | rfl | rfl
  all_goals simp [daysIn] at hstart hnext ⊢
  all_goals try omega
  -- February is left: its 29th day is the last day of the year, so the year is a leap year
  by_cases h365 : doy = 365
  · obtain ⟨h4, h100⟩ := last h365
    have leap : isLeap (yoe + era * 400 + 1).toNat = true := by
      simp only [isLeap, Bool.and_eq_true, beq_iff_eq, Bool.or_eq_true, bne_iff_ne, ne_eq]
      omega
    rw [if_pos leap]
    omega
  · split <;> omega

/-! ## Instants -/

/-- The fields of the timestamp of an instant: the date of its day and the time of day of
its second, in UTC. -/
theorem ofUnixNanos_eq (n : Int) :
    ofUnixNanos n =
      ⟨(civilFromDays (n / nanosPerSecond / 86400)).1.toNat,
        (civilFromDays (n / nanosPerSecond / 86400)).2.1,
        (civilFromDays (n / nanosPerSecond / 86400)).2.2,
        (n / nanosPerSecond % 86400).toNat / 3600, (n / nanosPerSecond % 86400).toNat / 60 % 60,
        (n / nanosPerSecond % 86400).toNat % 60, (n % nanosPerSecond).toNat, 0⟩ := rfl

/-- An instant from 1970 on counts back to itself. -/
theorem toUnixNanos_ofUnixNanos {n : Int} (h : 0 ≤ n) : (ofUnixNanos n).toUnixNanos = n := by
  have days0 : 0 ≤ n / nanosPerSecond / 86400 + 719468 := by simp only [nanosPerSecond]; omega
  have year := civilFromDays_year_nonneg days0
  rw [ofUnixNanos_eq]
  simp only [toUnixNanos]
  rw [Int.toNat_of_nonneg year, daysFromCivil_civilFromDays]
  simp only [nanosPerSecond]
  omega

/-- An instant from 1970 to the end of year 9999 is a valid timestamp. -/
theorem ofUnixNanos_valid {n : Int} (h0 : 0 ≤ n) (h1 : n < 253402300800000000000) :
    (ofUnixNanos n).Valid := by
  have days0 : 0 ≤ n / nanosPerSecond / 86400 + 719468 := by simp only [nanosPerSecond]; omega
  have days1 : n / nanosPerSecond / 86400 < 2932897 := by simp only [nanosPerSecond]; omega
  have year0 := civilFromDays_year_nonneg days0
  have year1 := civilFromDays_year_lt days1
  rw [ofUnixNanos_eq]
  refine ⟨?_, civilFromDays_month _, civilFromDays_day days0, ?_, ?_, ?_, ?_, ?_⟩ <;> dsimp only
  · omega
  · omega
  · omega
  · omega
  · simp only [nanosPerSecond]
    omega
  · omega

end DepLock.Timestamp
