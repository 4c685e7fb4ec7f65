import LiveChat.Time.Calendar
import Mathlib.Tactic.SplitIfs

/-!
Every day has a date of the calendar: its month has that day.
-/

set_option autoImplicit false

namespace LiveChat.Time.Date

theorem is_leap_iff (year : Int) :
    isLeap year = true ↔ year % 4 = 0 ∧ (year % 100 ≠ 0 ∨ year % 400 = 0) := by
  simp [isLeap]

/-- Only a year that ends with a leap day has 366 days. -/
theorem leap_of_last_day (days : Int) (last : (MarchDate.ofDays days).dayOfYear = 365) :
    isLeap ((MarchDate.ofDays days).year + 1) = true := by
  rw [is_leap_iff]
  simp only [MarchDate.ofDays] at last ⊢
  generalize inEraEq : days % 146097 = inEra at last ⊢
  generalize centuryEq : min 3 (inEra / 36524) = century at last ⊢
  generalize inCenturyEq : inEra - century * 36524 = inCentury at last ⊢
  have lastOfFour : inCentury % 1461 = 1460 := by omega
  have year : min 3 (inCentury % 1461 / 365) = 3 := by omega
  rw [year]
  by_cases early : inCentury / 1461 < 24
  · omega
  · have closing : century = 3 := by omega
    omega

/-- The days of a month, by its place in a year that starts in March. -/
theorem day_in_month (year dayOfYear month : Int) (low : 0 ≤ dayOfYear) (high : dayOfYear ≤ 365)
    (leap : dayOfYear = 365 → isLeap (year + 1) = true)
    (monthEq : (5 * dayOfYear + 2) / 153 = month) :
    dayOfYear - daysToMonth month + 1 ≤
      daysInMonth (if month < 10 then year else year + 1)
        (if month < 10 then month + 3 else month - 9).toNat := by
  unfold daysToMonth daysInMonth
  by_cases winter : month < 10
  · simp only [if_pos winter]
    split_ifs <;> omega
  · simp only [if_neg winter]
    by_cases february : (month - 9).toNat = 2
    · rw [if_pos february]
      cases long : isLeap (year + 1) with
      | true =>
          rw [if_pos rfl]
          omega
      | false =>
          rw [long] at leap
          have short : dayOfYear ≠ 365 := by
            intro last
            exact Bool.false_ne_true (leap last)
          rw [if_neg Bool.false_ne_true]
          omega
    · rw [if_neg february]
      split_ifs <;> omega

theorem of_march_valid (date : MarchDate) (low : 0 ≤ date.dayOfYear) (high : date.dayOfYear ≤ 365)
    (leap : date.dayOfYear = 365 → isLeap (date.year + 1) = true) :
    (ofMarch date).valid = true := by
  have within := day_in_month date.year date.dayOfYear _ low high leap rfl
  simp only [valid, Bool.and_eq_true, decide_eq_true_eq]
  simp only [ofMarch]
  generalize monthEq : (5 * date.dayOfYear + 2) / 153 = month at within ⊢
  have month_high : month ≤ 11 := by omega
  have day_low : 1 ≤ date.dayOfYear - daysToMonth month + 1 := by
    unfold daysToMonth
    omega
  refine ⟨⟨⟨?_, ?_⟩, ?_⟩, ?_⟩
  · split_ifs <;> omega
  · split_ifs <;> omega
  · omega
  · omega

theorem of_days_valid (days : Int) : (ofDays days).valid = true := by
  have bounds := MarchDate.dayOfYear_ofDays (days + 719468)
  exact of_march_valid _ bounds.1 bounds.2 (leap_of_last_day _)

end LiveChat.Time.Date
