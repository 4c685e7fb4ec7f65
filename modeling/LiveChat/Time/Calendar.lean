/-!
Dates of the Gregorian calendar, carried on before its introduction, and days counted from
1970-01-01. `toDays_ofDays` says that a day is found again from its date.
-/

set_option autoImplicit false

namespace LiveChat.Time

structure Date where
  year : Int
  month : Nat
  day : Nat
  deriving DecidableEq, Repr

namespace Date

def isLeap (year : Int) : Bool := year % 4 = 0 && (year % 100 ≠ 0 || year % 400 = 0)

def daysInMonth (year : Int) (month : Nat) : Nat :=
  if month = 2 then (if isLeap year then 29 else 28)
  else if month = 4 ∨ month = 6 ∨ month = 9 ∨ month = 11 then 30
  else 31

def valid (date : Date) : Bool :=
  1 ≤ date.month && date.month ≤ 12 && 1 ≤ date.day &&
    date.day ≤ daysInMonth date.year date.month

/-- A day of a year that starts in March, so that a leap day ends it. -/
structure MarchDate where
  year : Int
  dayOfYear : Int

/-- The days from the start of year 0 to the start of this year. -/
def daysBefore (year : Int) : Int := year * 365 + year / 4 - year / 100 + year / 400

/-- 400 years have 146097 days, 100 years 36524 or one more, 4 years 1461 or one less. -/
def MarchDate.ofDays (days : Int) : MarchDate :=
  let inEra := days % 146097
  let century := min 3 (inEra / 36524)
  let inCentury := inEra - century * 36524
  let inFour := inCentury % 1461
  let yearOfFour := min 3 (inFour / 365)
  { year := days / 146097 * 400 + century * 100 + inCentury / 1461 * 4 + yearOfFour
    dayOfYear := inFour - yearOfFour * 365 }

def MarchDate.toDays (date : MarchDate) : Int := daysBefore date.year + date.dayOfYear

theorem daysBefore_parts (era century four year : Int) (century_low : 0 ≤ century)
    (century_high : century ≤ 3) (four_low : 0 ≤ four) (four_high : four ≤ 24)
    (year_low : 0 ≤ year) (year_high : year ≤ 3) :
    daysBefore (era * 400 + century * 100 + four * 4 + year) =
      era * 146097 + century * 36524 + four * 1461 + year * 365 := by
  unfold daysBefore
  omega

theorem MarchDate.toDays_ofDays (days : Int) : (ofDays days).toDays = days := by
  simp only [ofDays, toDays]
  rw [daysBefore_parts _ _ _ _ (by omega) (by omega) (by omega) (by omega) (by omega) (by omega)]
  omega

theorem MarchDate.dayOfYear_ofDays (days : Int) :
    0 ≤ (ofDays days).dayOfYear ∧ (ofDays days).dayOfYear ≤ 365 := by
  simp only [ofDays]
  omega

/-- The days from the first of March to the first of a month, counted from March. -/
def daysToMonth (month : Int) : Int := (153 * month + 2) / 5

def toMarch (date : Date) : MarchDate :=
  { year := if date.month ≤ 2 then date.year - 1 else date.year
    dayOfYear := daysToMonth ((date.month + 9) % 12 : Nat) + date.day - 1 }

def ofMarch (date : MarchDate) : Date :=
  let month := (5 * date.dayOfYear + 2) / 153
  { year := if month < 10 then date.year else date.year + 1
    month := (if month < 10 then month + 3 else month - 9).toNat
    day := (date.dayOfYear - daysToMonth month + 1).toNat }

theorem toMarch_ofMarch (date : MarchDate) (low : 0 ≤ date.dayOfYear)
    (high : date.dayOfYear ≤ 365) : (ofMarch date).toMarch = date := by
  obtain ⟨year, dayOfYear⟩ := date
  simp only [ofMarch, toMarch, MarchDate.mk.injEq] at *
  generalize monthEq : (5 * dayOfYear + 2) / 153 = month
  have month_high : month ≤ 11 := by omega
  have month_back : (((if month < 10 then month + 3 else month - 9).toNat + 9) % 12 : Nat) =
      month := by omega
  rw [month_back]
  unfold daysToMonth
  omega

/-- The first of March of year 0 lies 719468 days before 1970-01-01. -/
def toDays (date : Date) : Int := date.toMarch.toDays - 719468

def ofDays (days : Int) : Date := ofMarch (MarchDate.ofDays (days + 719468))

theorem toDays_ofDays (days : Int) : (ofDays days).toDays = days := by
  have bounds := MarchDate.dayOfYear_ofDays (days + 719468)
  rw [ofDays, toDays, toMarch_ofMarch _ bounds.1 bounds.2, MarchDate.toDays_ofDays]
  omega

end Date

end LiveChat.Time
