import FleetScaling.Time.Calendar

/-!
# Days and dates

The date of a day exists and is counted back to the day (`exists_ofDays`, `toDays_ofDays`). What
there is to show is that the division by 365, corrected for leap days, finds the year of an era: a
day lies between the first days of its year and the next (`inCentury`, `inEra`).
-/

namespace FleetScaling.Time.Date

/-- The year of a century, where `shift` is what the leap days before the century have moved the
count by. -/
theorem inCentury {s shift k t : Int} (h0 : 0 ≤ s) (h1 : s < 36524) (hs0 : 0 ≤ shift)
    (hs1 : shift ≤ 72) (hk : k = (s + shift) / 1460) (ht : t = (s - k) / 365) :
    0 ≤ t ∧ t ≤ 99 ∧ 365 * t + t / 4 ≤ s ∧ s ≤ 365 * t + t / 4 + 365 ∧
      (s = 365 * t + t / 4 + 365 → (t + 1) % 4 = 0 ∧ t ≠ 99) := by
  have early : t / 4 ≤ k := by omega
  have late : k ≤ (t + 1) / 4 := by omega
  omega

/-- The year of an era, and the days since its first. -/
theorem inEra {n y : Int} (h0 : 0 ≤ n) (h1 : n < 146097)
    (hy : y = (n - n / 1460 + n / 36524 - n / 146096) / 365) :
    0 ≤ y ∧ y ≤ 399 ∧ 365 * y + y / 4 - y / 100 ≤ n ∧ n ≤ 365 * y + y / 4 - y / 100 + 365 ∧
      (n = 365 * y + y / 4 - y / 100 + 365 →
        (y + 1) % 4 = 0 ∧ ((y + 1) % 100 ≠ 0 ∨ (y + 1) % 400 = 0)) := by
  -- The last day of an era is a leap day that no century has.
  by_cases hn : n = 146096
  · omega
  · obtain ⟨c, s, hc0, hc3, hs0, hs1, rfl⟩ :
        ∃ c s : Int, 0 ≤ c ∧ c ≤ 3 ∧ 0 ≤ s ∧ s < 36524 ∧ n = 36524 * c + s :=
      ⟨n / 36524, n % 36524, by omega, by omega, by omega, by omega, by omega⟩
    obtain ⟨ht0, ht1, hle, hge, hlast⟩ := inCentury hs0 hs1 (show 0 ≤ 24 * c by omega)
      (by omega) rfl rfl
    have hyear : y = 100 * c + (s - (s + 24 * c) / 1460) / 365 := by omega
    generalize (s - (s + 24 * c) / 1460) / 365 = t at *
    have quarters : y / 4 = 25 * c + t / 4 := by omega
    have centuries : y / 100 = c := by omega
    clear hy
    omega

/-- The month of a year that starts in March, and the day of the month. -/
theorem inYear {d m : Int} (h0 : 0 ≤ d) (h1 : d ≤ 365) (hm : m = (5 * d + 2) / 153) :
    0 ≤ m ∧ m ≤ 11 ∧ (153 * m + 2) / 5 ≤ d ∧ d ≤ (153 * m + 2) / 5 + 30 ∧
      (m = 1 ∨ m = 3 ∨ m = 6 ∨ m = 8 → d ≤ (153 * m + 2) / 5 + 29) ∧
      (m = 11 → d ≤ (153 * m + 2) / 5 + 28) ∧ (m = 11 → d = 365 ∨ d ≤ (153 * m + 2) / 5 + 27) := by
  omega

/-- A date from the parts that the calendar divides a day into: the era, the year of the era, the
month from March, and the day of the month from zero. -/
def ofParts (era yearOfEra month day : Int) : Date :=
  ⟨yearOfEra + 400 * era + (if (if month < 10 then month + 3 else month - 9) ≤ 2 then 1 else 0),
    (if month < 10 then month + 3 else month - 9).toNat, (day + 1).toNat⟩

theorem toDays_ofParts {era y m d : Int} (hy0 : 0 ≤ y) (hy1 : y ≤ 399) (hm0 : 0 ≤ m) (hm1 : m ≤ 11)
    (hd : 0 ≤ d) : (ofParts era y m d).toDays =
      146097 * era + (365 * y + y / 4 - y / 100 + ((153 * m + 2) / 5 + d)) - 719468 := by
  unfold toDays ofParts
  dsimp only
  by_cases hm : m < 10
  · simp only [if_pos hm]
    rw [if_neg (by omega), if_neg (by omega)]
    omega
  · simp only [if_neg hm]
    rw [if_pos (by omega), if_pos (by omega)]
    omega

theorem exists_ofParts {era y m d : Int} (hm0 : 0 ≤ m) (hm1 : m ≤ 11) (hd0 : 0 ≤ d)
    (hd1 : d ≤ 30) (short : m = 1 ∨ m = 3 ∨ m = 6 ∨ m = 8 → d ≤ 29) (february : m = 11 → d ≤ 28)
    (leap : m = 11 → d = 28 → (y + 1) % 4 = 0 ∧ ((y + 1) % 100 ≠ 0 ∨ (y + 1) % 400 = 0)) :
    (ofParts era y m d).Exists := by
  unfold Exists ofParts daysInMonth
  dsimp only
  by_cases hm : m < 10
  · simp only [if_pos hm]
    refine ⟨by omega, by omega, by omega, ?_⟩
    rw [if_neg (by omega)]
    split <;> omega
  · simp only [if_neg hm]
    refine ⟨by omega, by omega, by omega, ?_⟩
    rw [if_pos (show m - 9 ≤ 2 by omega)]
    by_cases hfeb : m = 11
    · rw [if_pos (by omega)]
      split
      · omega
      · rename_i hleap
        unfold isLeapYear at hleap
        simp only [Bool.and_eq_true, Bool.or_eq_true, decide_eq_true_eq] at hleap
        omega
    · rw [if_neg (by omega), if_neg (by omega)]
      omega

/-- The parts of a day, and what is known about them. -/
theorem ofDays_parts (days : Int) : ∃ era y m d : Int, ofDays days = ofParts era y m d ∧
    days = 146097 * era + (365 * y + y / 4 - y / 100 + ((153 * m + 2) / 5 + d)) - 719468 ∧
    (0 ≤ y ∧ y ≤ 399) ∧ (0 ≤ m ∧ m ≤ 11) ∧ (0 ≤ d ∧ d ≤ 30) ∧
    (m = 1 ∨ m = 3 ∨ m = 6 ∨ m = 8 → d ≤ 29) ∧ (m = 11 → d ≤ 28) ∧
    (m = 11 → d = 28 → (y + 1) % 4 = 0 ∧ ((y + 1) % 100 ≠ 0 ∨ (y + 1) % 400 = 0)) := by
  let n := (days + 719468) % 146097
  let y := (n - n / 1460 + n / 36524 - n / 146096) / 365
  let start := 365 * y + y / 4 - y / 100
  let m := (5 * (n - start) + 2) / 153
  have hn : 0 ≤ n ∧ n < 146097 := ⟨by omega, by omega⟩
  obtain ⟨hy0, hy1, hle, hge, hleap⟩ := inEra hn.1 hn.2 (y := y) rfl
  obtain ⟨hm0, hm1, hd0, hd1, hshort, hfeb, hlast⟩ :=
    inYear (d := n - start) (by omega) (by omega) (m := m) rfl
  refine ⟨(days + 719468) / 146097, y, m, n - start - (153 * m + 2) / 5, rfl, ?_, ⟨hy0, hy1⟩,
    ⟨hm0, hm1⟩, ⟨by omega, by omega⟩, fun h => ?_, fun h => ?_, fun h h28 => ?_⟩
  · omega
  · have := hshort h
    omega
  · have := hfeb h
    omega
  · refine hleap ?_
    rcases hlast h with h365 | hearly
    · omega
    · omega

/-- The date of a day is counted back to it. -/
theorem toDays_ofDays (days : Int) : (ofDays days).toDays = days := by
  obtain ⟨era, y, m, d, hdate, hdays, hy, hm, hd, _⟩ := ofDays_parts days
  rw [hdate, toDays_ofParts hy.1 hy.2 hm.1 hm.2 hd.1]
  exact hdays.symm

theorem exists_ofDays (days : Int) : (ofDays days).Exists := by
  obtain ⟨era, y, m, d, hdate, _, _, hm, hd, short, february, leap⟩ := ofDays_parts days
  rw [hdate]
  exact exists_ofParts hm.1 hm.2 hd.1 hd.2 short february leap

/-- The years of the days that instants lie in. -/
theorem year_ofDays {days : Int} (h0 : -96465292 ≤ days) (h1 : days ≤ 95026236) :
    -262143 ≤ (ofDays days).year ∧ (ofDays days).year ≤ 262142 := by
  obtain ⟨era, y, m, d, hdate, hdays, hy, hm, hd, _⟩ := ofDays_parts days
  have hera : era = -656 ∨ (-655 ≤ era ∧ era ≤ 654) ∨ era = 655 := by omega
  rw [hdate]
  unfold ofParts
  dsimp only
  by_cases h : m < 10
  · rw [if_pos h, if_neg (by omega)]
    rcases hera with rfl | hera | rfl <;> omega
  · rw [if_neg h, if_pos (by omega)]
    rcases hera with rfl | hera | rfl <;> omega

end FleetScaling.Time.Date
