import Vmodl.Time.Calendar

/-!
# Dates and days

Every day falls into one year, and within it into one month, so the date of a day is valid and counts
back to the day.
-/

namespace Vmodl.Time

theorem daysBeforeYear_succ (year : Int) :
    daysBeforeYear (year + 1) = daysBeforeYear year + if isLeap year then 366 else 365 := by
  have hleap : isLeap year = true ↔ year % 4 = 0 ∧ (year % 100 ≠ 0 ∨ year % 400 = 0) := by
    simp [isLeap]
  unfold daysBeforeYear
  split
  · rename_i h
    have hdiv := hleap.mp h
    omega
  · rename_i h
    have hdiv := mt hleap.mpr h
    omega

theorem totalDays_monthLengths (year : Int) :
    (totalDays (monthLengths year) : Int) = daysBeforeYear (year + 1) - daysBeforeYear year := by
  rw [daysBeforeYear_succ, monthLengths]
  split <;> simp only [totalDays] <;> omega

/-- The year of a day begins on the day or before, and the next one begins after it. -/
theorem yearOfDay_spec (day : Int) :
    daysBeforeYear (yearOfDay day) ≤ day ∧ day < daysBeforeYear (yearOfDay day + 1) := by
  -- The guess divides by the mean length of a year and is off by at most one year.
  have hbefore : daysBeforeYear (day * 400 / 146097 - 1) ≤ day := by
    unfold daysBeforeYear
    omega
  have hafter : day < daysBeforeYear (day * 400 / 146097 + 2) := by
    unfold daysBeforeYear
    omega
  unfold yearOfDay
  dsimp only
  split
  · rename_i hnext
    refine ⟨hnext, ?_⟩
    rwa [Int.add_assoc]
  · rename_i hnext
    split
    · rename_i hguess
      exact ⟨hbefore, by rwa [Int.sub_add_cancel]⟩
    · rename_i hguess
      exact ⟨Int.not_lt.mp hguess, Int.not_le.mp hnext⟩

/-- The day falls into one of the months that are left. -/
theorem monthAndDay_spec {lengths : List Nat} {month rest : Nat} (hrest : rest < totalDays lengths) :
    ∃ k day n, monthAndDay month rest lengths = (month + k, day) ∧ lengths[k]? = some n ∧
      1 ≤ day ∧ day ≤ n ∧ totalDays (lengths.take k) + day = rest + 1 := by
  induction lengths generalizing month rest with
  | nil => exact absurd hrest (Nat.not_lt_zero rest)
  | cons n lengths ih =>
      by_cases hn : rest < n
      · exact ⟨0, rest + 1, n, by simp [monthAndDay, hn], rfl, by omega, by omega, by simp [totalDays]⟩
      · have hless : rest - n < totalDays lengths := by
          rw [totalDays] at hrest
          omega
        obtain ⟨k, day, m, hmonth, hm, hpos, hle, hsum⟩ := @ih (month + 1) (rest - n) hless
        refine ⟨k + 1, day, m, ?_, hm, hpos, hle, ?_⟩
        · rw [monthAndDay, if_neg hn, hmonth]
          congr 1
          omega
        · rw [List.take_succ_cons, totalDays]
          omega

/-! ### Dates -/

theorem Date.ofDays_spec (day : Int) :
    ∃ k n, (Date.ofDays day).year = yearOfDay day ∧ (Date.ofDays day).month = k + 1 ∧
      (monthLengths (yearOfDay day))[k]? = some n ∧ 1 ≤ (Date.ofDays day).day ∧
      (Date.ofDays day).day ≤ n ∧
      (totalDays ((monthLengths (yearOfDay day)).take k) : Int) + (Date.ofDays day).day =
        day - daysBeforeYear (yearOfDay day) + 1 := by
  obtain ⟨hle, hlt⟩ := yearOfDay_spec day
  have hsum := totalDays_monthLengths (yearOfDay day)
  have hrest : (day - daysBeforeYear (yearOfDay day)).toNat <
      totalDays (monthLengths (yearOfDay day)) := by
    omega
  obtain ⟨k, d, n, hmonth, hn, hpos, hdn, htake⟩ := @monthAndDay_spec _ 1 _ hrest
  have hdate : Date.ofDays day = ⟨yearOfDay day, 1 + k, d⟩ := by
    unfold Date.ofDays
    dsimp only
    rw [hmonth]
  refine ⟨k, n, ?_⟩
  rw [hdate]
  refine ⟨rfl, Nat.add_comm 1 k, hn, hpos, hdn, ?_⟩
  dsimp only
  omega

theorem Date.valid_ofDays (day : Int) : (Date.ofDays day).Valid := by
  obtain ⟨k, n, hyear, hmonth, hn, hpos, hle, _⟩ := Date.ofDays_spec day
  refine ⟨by omega, hpos, n, ?_, hle⟩
  rw [hyear, hmonth, Nat.add_sub_cancel]
  exact hn

/-- The date of a day counts back to the day. -/
theorem Date.toDays_ofDays (day : Int) : (Date.ofDays day).toDays = day := by
  obtain ⟨k, n, hyear, hmonth, _, _, _, hsum⟩ := Date.ofDays_spec day
  rw [Date.toDays, hyear, hmonth, Nat.add_sub_cancel]
  omega

/-- Months and days of valid dates have two digits. -/
theorem Date.Valid.lt_hundred {d : Date} (h : d.Valid) : d.month < 100 ∧ d.day < 100 := by
  obtain ⟨_, _, n, hn, hday⟩ := h
  obtain ⟨hlength, rfl⟩ := List.getElem?_eq_some_iff.mp hn
  have hmonth : d.month - 1 < 12 := hlength
  have hall : ∀ m ∈ monthLengths d.year, m ≤ 31 := by
    unfold monthLengths
    split <;> decide
  have hle := hall _ (List.getElem_mem hlength)
  omega

end Vmodl.Time
