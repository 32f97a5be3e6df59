import CredStore.Instant.Calendar

/-!
# Days and dates

The date of a day exists and has the number of that day (`Date.isValid_ofDays`,
`Date.toDays_ofDays`). A date is found in two steps: the year in which the day lies
(`exists_year`), counted from March as the calendar does, then the month and the day within that
year (`Date.ofDayOfYear`).
-/

namespace CredStore.Calendar

/-! ## Years -/

/-- The number of days of the years from the first of March of the year 0 to that of `year`. -/
def daysBefore (year : Int) : Int :=
  365 * year + year / 4 - year / 100 + year / 400

/-- A year that begins in March has its leap day when the next year is a leap year. -/
theorem daysBefore_succ (year : Int) :
    daysBefore (year + 1) = daysBefore year + if isLeap (year + 1) then 366 else 365 := by
  have hleap : isLeap (year + 1) = true ↔
      (year + 1) % 4 = 0 ∧ (year + 1) % 100 ≠ 0 ∨ (year + 1) % 400 = 0 := by
    simp [isLeap]
  unfold daysBefore
  by_cases h : isLeap (year + 1)
  · rw [if_pos h]
    have := hleap.1 h
    omega
  · rw [if_neg h]
    have := mt hleap.2 h
    omega

theorem daysBefore_cycle (cycle year : Int) :
    daysBefore (cycle * 400 + year) = cycle * 146097 + daysBefore year := by
  unfold daysBefore
  omega

/-- The year of a day within a cycle of 400 years. The estimate takes off the leap days of every
four years, puts back those of the centuries, and takes off the one of the whole cycle. -/
theorem year_of_cycle {n year : Int} (h : 0 ≤ n) (h' : n < 146097)
    (hyear : year = (n - n / 1460 + n / 36524 - n / 146096) / 365) :
    0 ≤ year ∧ year ≤ 399 ∧ daysBefore year ≤ n ∧ n < daysBefore (year + 1) := by
  unfold daysBefore
  -- the last day of the cycle is the only one with four whole centuries before it, of 36524 days
  by_cases hlast : n = 146096
  · subst hlast
    omega
  have hzero : n / 146096 = 0 := by omega
  rw [hzero] at hyear
  have hcentury : year / 100 = n / 36524 := by omega
  have hleap : year / 4 ≤ n / 1460 ∧ n / 1460 ≤ (year + 1) / 4 := by omega
  refine ⟨by omega, by omega, by omega, ?_⟩
  by_cases hturn : year + 1 = 100 * (n / 36524 + 1)
  · have h100 : (year + 1) / 100 = n / 36524 + 1 := by omega
    have h4 : (year + 1) / 4 = 25 * (n / 36524 + 1) := by omega
    omega
  · have h100 : (year + 1) / 100 = n / 36524 := by omega
    omega

/-! ## Days of a year -/

/-- The date of a day of a year that begins in March. -/
def Date.ofDayOfYear (year day : Int) : Date :=
  let month := (5 * day + 2) / 153
  let day := day - (153 * month + 2) / 5 + 1
  if month < 10 then ⟨year, (month + 3).toNat, day.toNat⟩
  else ⟨year + 1, (month - 9).toNat, day.toNat⟩

theorem Date.toDays_ofDayOfYear {year day : Int} (h : 0 ≤ day) (h' : day < 366) :
    (ofDayOfYear year day).toDays = daysBefore year + day - 719468 := by
  unfold ofDayOfYear
  have hmonth : 0 ≤ (5 * day + 2) / 153 ∧ (5 * day + 2) / 153 ≤ 11 := by omega
  have hday : 0 ≤ day - (153 * ((5 * day + 2) / 153) + 2) / 5 := by omega
  by_cases hm : (5 * day + 2) / 153 < 10
  · have hnot : ¬((5 * day + 2) / 153 + 3).toNat ≤ 2 := by omega
    simp only [if_pos hm, toDays, if_neg hnot, daysBefore]
    omega
  · have hpos : ((5 * day + 2) / 153 - 9).toNat ≤ 2 := by omega
    simp only [if_neg hm, toDays, if_pos hpos, daysBefore]
    omega

/-- The months from March on are those of 31 and of 30 days in turn that the fractions give; the
last is February, which may have the leap day. -/
theorem Date.isValid_ofDayOfYear {year day : Int} (h : 0 ≤ day)
    (h' : day < if isLeap (year + 1) then 366 else 365) : (ofDayOfYear year day).isValid := by
  have hend : day < 366 := by
    split at h' <;> omega
  unfold ofDayOfYear
  obtain ⟨m, hm⟩ : ∃ m, m = (5 * day + 2) / 153 := ⟨_, rfl⟩
  rw [← hm]
  have hmonth : 0 ≤ m ∧ m ≤ 11 := by omega
  by_cases hlt : m < 10
  · simp only [if_pos hlt, isValid, monthLength, Bool.and_eq_true, decide_eq_true_eq]
    refine ⟨⟨⟨by omega, by omega⟩, by omega⟩, ?_⟩
    rw [if_neg (by omega)]
    split <;> omega
  · simp only [if_neg hlt, isValid, monthLength, Bool.and_eq_true, decide_eq_true_eq]
    refine ⟨⟨⟨by omega, by omega⟩, by omega⟩, ?_⟩
    by_cases hfeb : m = 11
    · rw [if_pos (by omega)]
      split at h'
      · rw [if_pos ‹_›]
        omega
      · rw [if_neg ‹_›]
        omega
    · rw [if_neg (by omega), if_neg (by omega)]
      omega

/-! ## Days -/

/-- Each day lies in a year, and its date is the one of that day of the year. -/
theorem exists_year (n : Int) :
    ∃ year day, 0 ≤ day ∧ (day < if isLeap (year + 1) then 366 else 365) ∧
      n = daysBefore year + day - 719468 ∧ Date.ofDays n = Date.ofDayOfYear year day := by
  obtain ⟨hlow, hhigh, hfrom, hto⟩ := year_of_cycle (n := (n + 719468) % 146097)
    (Int.emod_nonneg _ (by decide)) (Int.emod_lt_of_pos _ (by decide)) rfl
  obtain ⟨y, hy⟩ : ∃ y, y = ((n + 719468) % 146097 - (n + 719468) % 146097 / 1460 +
    (n + 719468) % 146097 / 36524 - (n + 719468) % 146097 / 146096) / 365 := ⟨_, rfl⟩
  rw [← hy] at hlow hhigh hfrom hto
  have hcycle := daysBefore_cycle ((n + 719468) / 146097) y
  have hsucc := daysBefore_succ ((n + 719468) / 146097 * 400 + y)
  have hnext := daysBefore_cycle ((n + 719468) / 146097) (y + 1)
  rw [← Int.add_assoc] at hnext
  refine ⟨(n + 719468) / 146097 * 400 + y, (n + 719468) % 146097 - daysBefore y, by omega,
    by omega, by omega, ?_⟩
  have hday : (n + 719468) % 146097 - daysBefore y =
      (n + 719468) % 146097 - (365 * y + y / 4 - y / 100) := by
    unfold daysBefore
    omega
  rw [hday]
  simp only [Date.ofDays, Date.ofDayOfYear, ← hy]

/-- **The date of a day has the number of that day.** -/
theorem Date.toDays_ofDays (n : Int) : (ofDays n).toDays = n := by
  obtain ⟨year, day, h, h', hn, heq⟩ := exists_year n
  rw [heq, toDays_ofDayOfYear h, hn]
  split at h' <;> omega

/-- **The date of a day exists.** -/
theorem Date.isValid_ofDays (n : Int) : (ofDays n).isValid := by
  obtain ⟨year, day, h, h', -, heq⟩ := exists_year n
  rw [heq]
  exact isValid_ofDayOfYear h h'

end CredStore.Calendar
