import LoginGate.Time.Civil

/-!
# Dates and day numbers

A day number gives an existing date, and the date gives the number back. A day of a cycle of 400
years, which starts in March, is counted by centuries, by cycles of four years, by years and by
days: the last day of a century of the first three, and of a cycle of four years, is the leap day
of the year before it. The shifts in `Civil.ofDays` find the year of that count without a case
distinction (`Civil.yearOfCycle_eq`).

## Main definitions

* `Civil.yearOfCycle` : the year of a day of a cycle.
* `Civil.ofYearAndDay` : the date of a day of a year that starts in March.

## Main results

* `Civil.toDays_ofDays` : a date gives back its day number.
* `Civil.isValid_ofDays` : the date of a day number exists.
* `Civil.year_ofDays_mem` : the day numbers of the years 1 to 9999.
-/

namespace LoginGate.Civil

/-! ### Days of a cycle -/

/-- The year of a day of a cycle of 400 years. -/
def yearOfCycle (day : Nat) : Nat := (day - day / 1460 + day / 36524 - day / 146096) / 365

/-- The days of a cycle before a year. -/
def daysBefore (year : Nat) : Nat := 365 * year + year / 4 - year / 100

/-- A day of a cycle, counted by centuries, cycles of four years, years and days. -/
structure Count where
  century : Nat
  four : Nat
  year : Nat
  day : Nat
  century_le : century ≤ 3
  four_le : four ≤ 24
  year_le : year ≤ 3
  day_le : day ≤ 365
  /-- Only a leap year has a day with the number 365. -/
  leap : day = 365 → year = 3 ∧ (four = 24 → century = 3)

namespace Count

/-- The day of the cycle. -/
def dayOfCycle (n : Count) : Nat := 36524 * n.century + 1461 * n.four + 365 * n.year + n.day

/-- The year of the cycle. -/
def yearNumber (n : Count) : Nat := 100 * n.century + 4 * n.four + n.year

theorem yearNumber_lt (n : Count) : n.yearNumber < 400 := by
  have hc := n.century_le
  have hf := n.four_le
  have hy := n.year_le
  rw [yearNumber]
  omega

theorem daysBefore_add (n : Count) : daysBefore n.yearNumber + n.day = n.dayOfCycle := by
  have hf := n.four_le
  have hy := n.year_le
  rw [daysBefore, yearNumber, dayOfCycle]
  omega

end Count

/-- Every day of a cycle can be counted. -/
theorem exists_count {day : Nat} (h : day < 146097) : ∃ n : Count, n.dayOfCycle = day := by
  have hcentury : ∃ c r, c ≤ 3 ∧ day = 36524 * c + r ∧ r ≤ 36524 ∧ (r = 36524 → c = 3) :=
    if hlast : day / 36524 = 4 then ⟨3, day - 36524 * 3, by omega⟩
    else ⟨day / 36524, day % 36524, by omega⟩
  obtain ⟨c, r, hc, rfl, hr, hr'⟩ := hcentury
  have hfour : ∃ q s, q ≤ 24 ∧ r = 1461 * q + s ∧ s ≤ 1460 := ⟨r / 1461, r % 1461, by omega⟩
  obtain ⟨q, s, hq, rfl, hs⟩ := hfour
  have hyear : ∃ k t, k ≤ 3 ∧ s = 365 * k + t ∧ t ≤ 365 ∧ (t = 365 → k = 3) :=
    if hlast : s / 365 = 4 then ⟨3, s - 365 * 3, by omega⟩
    else ⟨s / 365, s % 365, by omega⟩
  obtain ⟨k, t, hk, rfl, ht, ht'⟩ := hyear
  refine ⟨⟨c, q, k, t, hc, hq, hk, ht, by omega⟩, ?_⟩
  simp only [Count.dayOfCycle]
  omega

/-- The year of a day of a cycle is that of its count. -/
theorem yearOfCycle_eq (n : Count) : yearOfCycle n.dayOfCycle = n.yearNumber := by
  obtain ⟨c, q, k, t, hc, hq, hk, ht, hleap⟩ := n
  simp only [Count.dayOfCycle, Count.yearNumber, yearOfCycle]
  generalize hday : 36524 * c + 1461 * q + 365 * k + t = day
  have hshift : day / 36524 - day / 146096 = c := by omega
  have hle : day / 146096 ≤ day / 36524 := by omega
  have hfour : day / 1460 = 25 * c + q ∨ (day / 1460 = 25 * c + q + 1 ∧ 0 < t) := by omega
  omega

/-! ### Days of a year -/

/-- The number of the month, from March on, of a day of a year that starts in March. -/
def monthPart (day : Nat) : Nat := (5 * day + 2) / 153

/-- The month of such a number. -/
def monthOfPart (part : Nat) : Nat := if part < 10 then part + 3 else part - 9

/-- The date of a day of a year that starts in March. -/
def ofYearAndDay (cycle : Int) (year day : Nat) : Civil :=
  ⟨cycle * 400 + year + (if monthOfPart (monthPart day) ≤ 2 then 1 else 0),
    monthOfPart (monthPart day), day - (153 * monthPart day + 2) / 5 + 1⟩

theorem ofDays_eq (days : Int) :
    ofDays days =
      let day := ((days + epochShift).fmod 146097).toNat
      ofYearAndDay ((days + epochShift).fdiv 146097) (yearOfCycle day)
        (day - daysBefore (yearOfCycle day)) := rfl

/-- The date of a day number by its cycle and its count. -/
theorem ofDays_of_count {days cycle : Int} {n : Count}
    (h : days + epochShift = cycle * 146097 + n.dayOfCycle) :
    ofDays days = ofYearAndDay cycle n.yearNumber n.day := by
  have hbefore := n.daysBefore_add
  have hlt : n.dayOfCycle < 146097 := by
    have hc := n.century_le
    have hf := n.four_le
    have hy := n.year_le
    have hd := n.day_le
    have hl := n.leap
    rw [Count.dayOfCycle]
    omega
  have hcycle : (days + epochShift).fdiv 146097 = cycle := by
    rw [h, Int.fdiv_eq_ediv_of_nonneg _ (by omega)]
    omega
  have hday : (days + epochShift).fmod 146097 = n.dayOfCycle := by
    rw [h, Int.fmod_eq_emod_of_nonneg _ (by omega)]
    omega
  have hsub : n.dayOfCycle - daysBefore n.yearNumber = n.day := by omega
  simp only [ofDays_eq, hcycle, hday, Int.toNat_natCast, yearOfCycle_eq, hsub]

/-- Every day number has a cycle and a count. -/
theorem exists_cycle_count (days : Int) :
    ∃ (cycle : Int) (n : Count), days + epochShift = cycle * 146097 + n.dayOfCycle := by
  have hday : ((days + epochShift) % 146097).toNat < 146097 := by omega
  obtain ⟨n, hn⟩ := exists_count hday
  refine ⟨(days + epochShift) / 146097, n, ?_⟩
  rw [hn]
  omega

/-! ### Main results -/

theorem toDays_ofYearAndDay (cycle : Int) {year day : Nat} (hyear : year < 400)
    (hday : day ≤ 365) :
    toDays (ofYearAndDay cycle year day) =
      cycle * 146097 + (daysBefore year + day : Nat) - epochShift := by
  have hpart : monthPart day < 12 := by rw [monthPart]; omega
  have hstart : (153 * monthPart day + 2) / 5 ≤ day := by rw [monthPart]; omega
  have hdiv : (cycle * 400 + (year : Int)).fdiv 400 = cycle := by
    rw [Int.fdiv_eq_ediv_of_nonneg _ (by omega)]
    omega
  have hmod : (cycle * 400 + (year : Int)).fmod 400 = year := by
    rw [Int.fmod_eq_emod_of_nonneg _ (by omega)]
    omega
  -- in January and February the year of the date is not the one that starts in March
  by_cases hnew : monthPart day < 10
  · have hmonth : ¬ monthPart day + 3 ≤ 2 := by omega
    have hback : monthPart day + 3 - 3 = monthPart day := by omega
    simp only [toDays, ofYearAndDay, monthOfPart, hnew, hmonth, ↓reduceIte, Int.add_zero, hback,
      hdiv, hmod, Int.toNat_natCast, daysBefore]
    omega
  · have hmonth : monthPart day - 9 ≤ 2 := by omega
    have hback : monthPart day - 9 + 9 = monthPart day := by omega
    have hyears : cycle * 400 + (year : Int) + 1 - 1 = cycle * 400 + year := by omega
    simp only [toDays, ofYearAndDay, monthOfPart, hnew, hmonth, ↓reduceIte, hyears, hback,
      hdiv, hmod, Int.toNat_natCast, daysBefore]
    omega

/-- A date gives back its day number. -/
theorem toDays_ofDays (days : Int) : toDays (ofDays days) = days := by
  obtain ⟨cycle, n, h⟩ := exists_cycle_count days
  rw [ofDays_of_count h, toDays_ofYearAndDay cycle n.yearNumber_lt n.day_le, n.daysBefore_add]
  omega

/-- The year after one whose last day has the number 365 is a leap year. -/
theorem isLeap_of_count (cycle : Int) (n : Count) (h : n.day = 365) :
    isLeap (cycle * 400 + n.yearNumber + 1) := by
  obtain ⟨hy, hfour⟩ := n.leap h
  have hc := n.century_le
  have hf := n.four_le
  simp only [isLeap, Count.yearNumber, Bool.and_eq_true, Bool.or_eq_true, beq_iff_eq, bne_iff_ne]
  refine ⟨by omega, ?_⟩
  by_cases hlast : n.four = 24
  · have := hfour hlast
    right
    omega
  · left
    omega

/-- The date of a day number exists. -/
theorem isValid_ofDays (days : Int) : (ofDays days).isValid := by
  obtain ⟨cycle, n, h⟩ := exists_cycle_count days
  rw [ofDays_of_count h]
  have hday := n.day_le
  have hpart : monthPart n.day < 12 := by rw [monthPart]; omega
  have hstart : (153 * monthPart n.day + 2) / 5 ≤ n.day := by rw [monthPart]; omega
  have hend : n.day < (153 * (monthPart n.day + 1) + 2) / 5 := by rw [monthPart]; omega
  have hleap : n.day = 365 → isLeap (cycle * 400 + n.yearNumber + 1) := isLeap_of_count cycle n
  generalize hp : monthPart n.day = part at *
  simp only [ofYearAndDay, isValid, hp, Bool.and_eq_true, decide_eq_true_eq]
  -- one case for each month, since the number of days depends on it
  have hmonths : part = 0 ∨ part = 1 ∨ part = 2 ∨ part = 3 ∨ part = 4 ∨ part = 5 ∨ part = 6 ∨
      part = 7 ∨ part = 8 ∨ part = 9 ∨ part = 10 ∨ part = 11 := by omega
  rcases hmonths with rfl | rfl | rfl | rfl | rfl | rfl | rfl | rfl | rfl | rfl | rfl | rfl <;>
    simp [monthOfPart, daysInMonth] <;> try omega
  by_cases hlast : n.day = 365
  · simp [hleap hlast, hlast]
  · split <;> omega

/-- The day numbers of the years 1 to 9999. -/
theorem year_ofDays_mem {days : Int} (hlow : -719162 ≤ days) (hhigh : days ≤ 2932896) :
    1 ≤ (ofDays days).year ∧ (ofDays days).year ≤ 9999 := by
  obtain ⟨cycle, n, h⟩ := exists_cycle_count days
  rw [ofDays_of_count h]
  have hlt := n.yearNumber_lt
  have hday := n.day_le
  have hcount : n.dayOfCycle = daysBefore n.yearNumber + n.day := n.daysBefore_add.symm
  rw [hcount, daysBefore, epochShift] at h
  simp only [ofYearAndDay]
  have hmonth : monthOfPart (monthPart n.day) ≤ 2 ↔ 306 ≤ n.day := by
    rw [monthOfPart, monthPart]
    split <;> omega
  by_cases hnew : 306 ≤ n.day
  · rw [if_pos (hmonth.mpr hnew)]
    omega
  · rw [if_neg fun hm => hnew (hmonth.mp hm)]
    omega

end LoginGate.Civil
