import DirectoryClient.Calendar
import Mathlib.Algebra.Order.BigOperators.Group.List
import Mathlib.Algebra.Order.Group.Nat
import Mathlib.Data.List.GetD
import Mathlib.Tactic.IntervalCases

/-!
# Every day has one date

Days are counted by adding up: the years before, the months before, the day. Each of
the three sums is undone on its own. A year begins where the one before it ends, so a
day number lies in one year only, and the year guessed from the mean length of a year
is off by one at most (`yearOf_eq`). Taking months off a number of days stops in the
month whose beginning is the sum of those before it (`splitMonths_sum`).

So dates and day numbers are in bijection, in both directions and over all years, those
before year 1 included, and later dates have greater numbers. The same then holds for
times to the second: `DateTime.ofUnixSeconds_unixSeconds`, `DateTime.unixSeconds_lt_iff`.
Together with the first second of 1970, which has number 0, this leaves no choice: there
is only one way to number all seconds in their order.
-/

namespace DirectoryClient

namespace Calendar

/-! ## Years -/

theorem isLeap_iff (year : Int) : isLeap year = true ↔ 4 ∣ year ∧ (¬ 100 ∣ year ∨ 400 ∣ year) := by
  simp only [isLeap, Bool.and_eq_true, Bool.or_eq_true, beq_iff_eq, bne_iff_ne]
  omega

theorem daysBeforeYear_eq (year : Int) :
    daysBeforeYear year =
      365 * (year - 1) + (year - 1) / 4 - (year - 1) / 100 + (year - 1) / 400 := rfl

def daysInYear (year : Int) : Nat := if isLeap year then 366 else 365

theorem sum_monthLengths (year : Int) : (monthLengths year).sum = daysInYear year := by
  unfold monthLengths daysInYear
  cases isLeap year <;> rfl

/-- A year begins where the one before it ends. -/
theorem daysBeforeYear_succ (year : Int) :
    daysBeforeYear (year + 1) = daysBeforeYear year + daysInYear year := by
  rw [daysBeforeYear_eq, daysBeforeYear_eq, daysInYear]
  split
  · next h =>
      rw [isLeap_iff] at h
      omega
  · next h =>
      rw [isLeap_iff] at h
      omega

theorem daysBeforeYear_mono {year year' : Int} (h : year ≤ year') :
    daysBeforeYear year ≤ daysBeforeYear year' := by
  rw [daysBeforeYear_eq, daysBeforeYear_eq]
  omega

theorem lt_of_daysBeforeYear_lt {year year' : Int}
    (h : daysBeforeYear year < daysBeforeYear year') : year < year' := by
  refine Int.not_le.1 fun hle => ?_
  have hmono := daysBeforeYear_mono hle
  omega

/-- The year with a given day, the days counted from the first of year 1. -/
def yearOf (days : Int) : Int :=
  let guess := days * 400 / 146097 + 1
  if days < daysBeforeYear guess then guess - 1
  else if daysBeforeYear (guess + 1) ≤ days then guess + 1
  else guess

theorem yearOf_eq {year days : Int} (h : daysBeforeYear year ≤ days)
    (h' : days < daysBeforeYear (year + 1)) : yearOf days = year := by
  have hguess : year - 1 ≤ days * 400 / 146097 + 1 ∧ days * 400 / 146097 + 1 ≤ year + 1 := by
    rw [daysBeforeYear_eq] at h h'
    omega
  simp only [yearOf]
  generalize days * 400 / 146097 + 1 = guess at hguess
  split
  · next hlt =>
      have hyear := lt_of_daysBeforeYear_lt (Int.lt_of_le_of_lt h hlt)
      omega
  · next hge =>
      split
      · next hle =>
          have hyear := lt_of_daysBeforeYear_lt (Int.lt_of_le_of_lt hle h')
          omega
      · next hlt =>
          have hlow := lt_of_daysBeforeYear_lt (Int.lt_of_le_of_lt (Int.not_lt.1 hge) h')
          have hhigh := lt_of_daysBeforeYear_lt (Int.lt_of_le_of_lt h (Int.not_le.1 hlt))
          omega

/-- Every day is in some year. -/
theorem exists_year (days : Int) :
    ∃ year, daysBeforeYear year ≤ days ∧ days < daysBeforeYear (year + 1) := by
  have hrange : daysBeforeYear (days * 400 / 146097) ≤ days ∧
      days < daysBeforeYear (days * 400 / 146097 + 3) := by
    rw [daysBeforeYear_eq, daysBeforeYear_eq]
    omega
  obtain ⟨hlow, hhigh⟩ := hrange
  generalize days * 400 / 146097 = year at hlow hhigh
  by_cases h1 : days < daysBeforeYear (year + 1)
  · exact ⟨year, hlow, h1⟩
  · by_cases h2 : days < daysBeforeYear (year + 2)
    · exact ⟨year + 1, by omega, by rw [show year + 1 + 1 = year + 2 by omega]; exact h2⟩
    · exact ⟨year + 2, by omega, by rw [show year + 2 + 1 = year + 3 by omega]; exact hhigh⟩

/-! ## Months -/

theorem length_monthLengths (year : Int) : (monthLengths year).length = 12 := rfl

theorem daysBeforeMonth_eq (year : Int) (month : Nat) :
    daysBeforeMonth year month = ((monthLengths year).take (month - 1)).sum :=
  List.sum_eq_foldl_nat.symm

theorem month_lt_length {month : Nat} (h : 1 ≤ month) (h' : month ≤ 12) (year : Int) :
    month - 1 < (monthLengths year).length := by
  rw [length_monthLengths]
  omega

theorem daysInMonth_eq {year : Int} {month : Nat} (h : 1 ≤ month)
    (hlt : month - 1 < (monthLengths year).length) :
    daysInMonth year month = (monthLengths year)[month - 1] := by
  rw [daysInMonth, if_neg (by omega), List.getD_eq_getElem _ _ hlt]

/-- How long a month is, as one learns it. A year is a leap year if 4 divides it, but not if
100 does, unless 400 does too. -/
def monthLength (year : Int) (month : Nat) : Nat :=
  if month = 2 then (if 4 ∣ year ∧ (¬ 100 ∣ year ∨ 400 ∣ year) then 29 else 28)
  else if month = 4 ∨ month = 6 ∨ month = 9 ∨ month = 11 then 30 else 31

theorem daysInMonth_eq_monthLength {year : Int} {month : Nat} (h : 1 ≤ month) (h' : month ≤ 12) :
    daysInMonth year month = monthLength year month := by
  rw [monthLength]
  simp only [← isLeap_iff]
  interval_cases month <;> rfl

/-- Taking months off stops in the month that a day is in. -/
theorem splitMonths_sum {lengths : List Nat} {k d : Nat} (hk : k < lengths.length)
    (hd : d < lengths[k]) (month : Nat) :
    splitMonths month ((lengths.take k).sum + d) lengths = (month + k, d + 1) := by
  induction lengths generalizing k month with
  | nil => cases hk
  | cons n rest ih =>
      cases k with
      | zero =>
          have hdn : d < n := hd
          simp [splitMonths, hdn]
      | succ k =>
          have hrest := ih (Nat.lt_of_succ_lt_succ hk) hd (month + 1)
          rw [List.take_succ_cons, List.sum_cons, splitMonths, if_neg (by omega),
            show n + (rest.take k).sum + d - n = (rest.take k).sum + d by omega, hrest]
          congr 1
          omega

/-- A number of days that is less than all months together is within one of them. -/
theorem exists_month {lengths : List Nat} {days : Nat} (h : days < lengths.sum) :
    ∃ k, ∃ hk : k < lengths.length, ∃ d, d < lengths[k] ∧ days = (lengths.take k).sum + d := by
  induction lengths generalizing days with
  | nil => cases h
  | cons n rest ih =>
      by_cases hn : days < n
      · exact ⟨0, Nat.succ_pos _, days, hn, by simp⟩
      · rw [List.sum_cons] at h
        obtain ⟨k, hk, d, hd, hdays⟩ := ih (show days - n < rest.sum by omega)
        refine ⟨k + 1, Nat.succ_lt_succ hk, d, hd, ?_⟩
        rw [List.take_succ_cons, List.sum_cons]
        omega

theorem daysBeforeMonth_mono (year : Int) {month month' : Nat} (h : month ≤ month') :
    daysBeforeMonth year month ≤ daysBeforeMonth year month' := by
  rw [daysBeforeMonth_eq, daysBeforeMonth_eq]
  exact List.monotone_sum_take _ (Nat.sub_le_sub_right h 1)

theorem daysBeforeMonth_succ (year : Int) {month : Nat} (h : 1 ≤ month) (h' : month ≤ 12) :
    daysBeforeMonth year (month + 1) = daysBeforeMonth year month + daysInMonth year month := by
  have hlt := month_lt_length h h' year
  rw [daysBeforeMonth_eq, daysBeforeMonth_eq, daysInMonth_eq h hlt, ← List.sum_take_succ _ _ hlt]
  congr 2
  omega

/-- No month goes beyond the end of its year. -/
theorem daysBeforeMonth_add_le (year : Int) {month : Nat} (h : 1 ≤ month) (h' : month ≤ 12) :
    daysBeforeMonth year month + daysInMonth year month ≤ daysInYear year := by
  have hlast : daysBeforeMonth year 13 = daysInYear year := by
    rw [daysBeforeMonth_eq, ← sum_monthLengths]
    rfl
  rw [← daysBeforeMonth_succ year h h', ← hlast]
  exact daysBeforeMonth_mono year (Nat.succ_le_succ h')

/-! ## Days -/

/-- Whether there is such a day. -/
structure IsDate (year : Int) (month day : Nat) : Prop where
  one_le_month : 1 ≤ month
  month_le : month ≤ 12
  one_le_day : 1 ≤ day
  day_le : day ≤ monthLength year month

theorem isDate_iff {year : Int} {month day : Nat} :
    IsDate year month day ↔ 1 ≤ month ∧ month ≤ 12 ∧ 1 ≤ day ∧ day ≤ daysInMonth year month := by
  constructor
  · intro ⟨h1, h2, h3, h4⟩
    exact ⟨h1, h2, h3, by rwa [daysInMonth_eq_monthLength h1 h2]⟩
  · intro ⟨h1, h2, h3, h4⟩
    exact ⟨h1, h2, h3, by rwa [daysInMonth_eq_monthLength h1 h2] at h4⟩

theorem IsDate.le_daysInMonth {year : Int} {month day : Nat} (h : IsDate year month day) :
    day ≤ daysInMonth year month := (isDate_iff.1 h).2.2.2

theorem IsDate.day_le_31 {year : Int} {month day : Nat} (h : IsDate year month day) : day ≤ 31 := by
  have hday := h.day_le
  unfold monthLength at hday
  split_ifs at hday <;> omega

theorem ofDayNumber_eq (number : Int) :
    ofDayNumber number =
      (yearOf (number + epoch),
        splitMonths 1 (number + epoch - daysBeforeYear (yearOf (number + epoch))).toNat
          (monthLengths (yearOf (number + epoch)))) := rfl

/-- The days of a year lie between its beginning and that of the next. -/
theorem IsDate.dayNumber_bounds {year : Int} {month day : Nat} (h : IsDate year month day) :
    daysBeforeYear year ≤ dayNumber year month day + epoch ∧
      dayNumber year month day + epoch < daysBeforeYear (year + 1) := by
  have hyear := daysBeforeMonth_add_le year h.one_le_month h.month_le
  have hsucc := daysBeforeYear_succ year
  have hfirst := h.one_le_day
  have hlast := h.le_daysInMonth
  unfold dayNumber
  omega

theorem ofDayNumber_dayNumber {year : Int} {month day : Nat} (h : IsDate year month day) :
    ofDayNumber (dayNumber year month day) = (year, month, day) := by
  obtain ⟨hlow, hhigh⟩ := h.dayNumber_bounds
  have hone := h.one_le_month
  have hfirst := h.one_le_day
  have hk := month_lt_length hone h.month_le year
  have hd : day - 1 < (monthLengths year)[month - 1] := by
    rw [← daysInMonth_eq hone hk]
    have := h.le_daysInMonth
    omega
  have hdays : (dayNumber year month day + epoch - daysBeforeYear year).toNat =
      ((monthLengths year).take (month - 1)).sum + (day - 1) := by
    rw [← daysBeforeMonth_eq]
    unfold dayNumber
    omega
  rw [ofDayNumber_eq, yearOf_eq hlow hhigh, hdays, splitMonths_sum hk hd]
  congr 2 <;> omega

/-- Every number is that of a day. -/
theorem exists_isDate (number : Int) :
    ∃ year month day, IsDate year month day ∧ dayNumber year month day = number := by
  obtain ⟨year, hlow, hhigh⟩ := exists_year (number + epoch)
  have hsucc := daysBeforeYear_succ year
  rw [← sum_monthLengths] at hsucc
  have hlt : (number + epoch - daysBeforeYear year).toNat < (monthLengths year).sum := by omega
  obtain ⟨k, hk, d, hd, hdays⟩ := exists_month hlt
  have hmonth : k + 1 ≤ 12 := hk
  refine ⟨year, k + 1, d + 1, isDate_iff.2 ⟨by omega, hmonth, by omega, ?_⟩, ?_⟩
  · rw [daysInMonth_eq (by omega) hk]
    exact hd
  · have hbefore : daysBeforeMonth year (k + 1) = ((monthLengths year).take k).sum :=
      daysBeforeMonth_eq year (k + 1)
    unfold dayNumber
    omega

/-- The later of two days has the greater number. -/
theorem IsDate.dayNumber_lt {year year' : Int} {month month' day day' : Nat}
    (h : IsDate year month day) (h' : IsDate year' month' day')
    (hlt : year < year' ∨ year = year' ∧ (month < month' ∨ month = month' ∧ day < day')) :
    dayNumber year month day < dayNumber year' month' day' := by
  rcases hlt with hyear | ⟨rfl, hmonth | ⟨rfl, hday⟩⟩
  · have hmono := daysBeforeYear_mono (show year + 1 ≤ year' by omega)
    have hend := h.dayNumber_bounds.2
    have hbegin := h'.dayNumber_bounds.1
    omega
  · have hsucc := daysBeforeMonth_succ year h.one_le_month h.month_le
    have hmono := daysBeforeMonth_mono year (show month + 1 ≤ month' from hmonth)
    have hlast := h.le_daysInMonth
    have hfirst := h'.one_le_day
    unfold dayNumber
    omega
  · unfold dayNumber
    omega

end Calendar

namespace DateTime

open Calendar

/-! ## Seconds -/

theorem isValid_iff (t : DateTime) :
    t.isValid = true ↔
      IsDate t.year t.month t.day ∧ t.hour ≤ 23 ∧ t.minute ≤ 59 ∧ t.second ≤ 59 := by
  simp only [isValid, Bool.and_eq_true, decide_eq_true_eq, isDate_iff, and_assoc]

/-- The fields of a time can be told from its number of seconds. -/
theorem ofUnixSeconds_unixSeconds {t : DateTime} (h : t.isValid = true) :
    ofUnixSeconds t.unixSeconds = t := by
  obtain ⟨hdate, hhour, hminute, hsecond⟩ := (isValid_iff t).1 h
  have hday : t.unixSeconds / 86400 = dayNumber t.year t.month t.day := by
    unfold unixSeconds
    omega
  have hrest : (t.unixSeconds % 86400).toNat = t.hour * 3600 + t.minute * 60 + t.second := by
    unfold unixSeconds
    omega
  unfold ofUnixSeconds
  rw [hday, ofDayNumber_dayNumber hdate, hrest]
  obtain ⟨year, month, day, hour, minute, second⟩ := t
  simp only [mk.injEq, true_and] at hhour hminute hsecond ⊢
  omega

/-- Every number of seconds is that of a time. -/
theorem unixSeconds_ofUnixSeconds (seconds : Int) :
    (ofUnixSeconds seconds).isValid = true ∧ (ofUnixSeconds seconds).unixSeconds = seconds := by
  obtain ⟨year, month, day, hdate, hnumber⟩ := exists_isDate (seconds / 86400)
  have hof : ofUnixSeconds seconds =
      ⟨year, month, day, (seconds % 86400).toNat / 3600, (seconds % 86400).toNat / 60 % 60,
        (seconds % 86400).toNat % 60⟩ := by
    unfold ofUnixSeconds
    rw [← hnumber, ofDayNumber_dayNumber hdate]
  rw [hof, isValid_iff]
  refine ⟨⟨hdate, ?_, ?_, ?_⟩, ?_⟩
  · show (seconds % 86400).toNat / 3600 ≤ 23
    omega
  · show (seconds % 86400).toNat / 60 % 60 ≤ 59
    omega
  · show (seconds % 86400).toNat % 60 ≤ 59
    omega
  · simp only [unixSeconds, hnumber]
    omega

theorem le_of_isValid {t : DateTime} (h : t.isValid = true) :
    t.month ≤ 12 ∧ t.day ≤ 31 ∧ t.hour ≤ 23 ∧ t.minute ≤ 59 ∧ t.second ≤ 59 := by
  obtain ⟨hdate, htime⟩ := (isValid_iff t).1 h
  exact ⟨hdate.month_le, hdate.day_le_31, htime⟩

/-- The fields of a time put behind one another, in a number with two digits for each but
the year. -/
def stamp (t : DateTime) : Int :=
  ((((t.year * 100 + t.month) * 100 + t.day) * 100 + t.hour) * 100 + t.minute) * 100 + t.second

theorem unixSeconds_lt_of_stamp_lt {t u : DateTime} (ht : t.isValid = true) (hu : u.isValid = true)
    (h : t.stamp < u.stamp) : t.unixSeconds < u.unixSeconds := by
  have htdate := ((isValid_iff t).1 ht).1
  have hudate := ((isValid_iff u).1 hu).1
  obtain ⟨htmonth, htday, hthour, htminute, htsecond⟩ := le_of_isValid ht
  obtain ⟨humonth, huday, huhour, huminute, husecond⟩ := le_of_isValid hu
  unfold stamp at h
  by_cases hlt : t.year < u.year ∨
      t.year = u.year ∧ (t.month < u.month ∨ t.month = u.month ∧ t.day < u.day)
  · have hdays := htdate.dayNumber_lt hudate hlt
    unfold unixSeconds
    omega
  · -- not a day earlier, so on the same day
    have hsame : t.year = u.year ∧ t.month = u.month ∧ t.day = u.day := by omega
    have hdays : dayNumber t.year t.month t.day = dayNumber u.year u.month u.day := by
      rw [hsame.1, hsame.2.1, hsame.2.2]
    unfold unixSeconds
    omega

theorem eq_of_stamp_eq {t u : DateTime} (ht : t.isValid = true) (hu : u.isValid = true)
    (h : t.stamp = u.stamp) : t = u := by
  obtain ⟨htmonth, htday, hthour, htminute, htsecond⟩ := le_of_isValid ht
  obtain ⟨humonth, huday, huhour, huminute, husecond⟩ := le_of_isValid hu
  unfold stamp at h
  obtain ⟨year, month, day, hour, minute, second⟩ := t
  obtain ⟨year', month', day', hour', minute', second'⟩ := u
  simp only [mk.injEq] at *
  omega

/-- Times are in the order of their fields, the year first. -/
theorem unixSeconds_lt_iff {t u : DateTime} (ht : t.isValid = true) (hu : u.isValid = true) :
    t.unixSeconds < u.unixSeconds ↔ t.stamp < u.stamp := by
  constructor
  · intro h
    rcases Int.lt_trichotomy t.stamp u.stamp with hlt | heq | hgt
    · exact hlt
    · rw [eq_of_stamp_eq ht hu heq] at h
      exact absurd h (Int.lt_irrefl _)
    · have := unixSeconds_lt_of_stamp_lt hu ht hgt
      omega
  · exact unixSeconds_lt_of_stamp_lt ht hu

end DateTime

end DirectoryClient
