import LiveChat.Text.Blank
import LiveChat.Time.Calendar

/-!
Points in time, in seconds from 1970-01-01T00:00:00Z, written and read as RFC 3339 in UTC.
Leap seconds are kept: one is the second before it with a billion nanoseconds or more.
-/

set_option autoImplicit false

namespace LiveChat.Time

structure Instant where
  seconds : Int
  nanoseconds : Nat
  deriving DecidableEq, Repr, Inhabited

namespace Instant

def earliestYear : Int := -262143

def latestYear : Int := 262142

def earliestDay : Int := Date.toDays ⟨earliestYear, 1, 1⟩

def latestDay : Int := Date.toDays ⟨latestYear, 12, 31⟩

def inRange (instant : Instant) : Bool :=
  earliestDay ≤ instant.seconds / 86400 && instant.seconds / 86400 ≤ latestDay

def ofMillis? (millis : Int) : Option Instant :=
  let instant : Instant := ⟨millis / 1000, (millis % 1000).toNat * 1000000⟩
  if instant.inRange then some instant else none

/-- The last `width` digits at least, with zeros in front. -/
def padded (width value : Nat) : List Char :=
  let digits := Nat.toDigits 10 value
  List.replicate (width - digits.length) '0' ++ digits

/-- Four digits, with a sign outside the years 0 to 9999. -/
def yearChars (year : Int) : List Char :=
  if 0 ≤ year ∧ year ≤ 9999 then padded 4 year.toNat
  else if year < 0 then '-' :: padded 4 year.natAbs
  else '+' :: padded 4 year.natAbs

/-- As many digits as needed of none, three, six and nine. -/
def fractionChars (nanoseconds : Nat) : List Char :=
  if nanoseconds = 0 then []
  else if nanoseconds % 1000000 = 0 then '.' :: padded 3 (nanoseconds / 1000000)
  else if nanoseconds % 1000 = 0 then '.' :: padded 6 (nanoseconds / 1000)
  else '.' :: padded 9 nanoseconds

def chars (instant : Instant) : List Char :=
  let date := Date.ofDays (instant.seconds / 86400)
  let second := (instant.seconds % 86400).toNat
  let leap := instant.nanoseconds / 1000000000
  yearChars date.year ++ '-' :: padded 2 date.month ++ '-' :: padded 2 date.day
    ++ 'T' :: padded 2 (second / 3600) ++ ':' :: padded 2 (second / 60 % 60)
    ++ ':' :: padded 2 (second % 60 + leap)
    ++ fractionChars (instant.nanoseconds % 1000000000) ++ ['Z']

def render (instant : Instant) : String := String.ofList instant.chars

def isDigit (char : Char) : Bool := '0' ≤ char && char ≤ '9'

def numberOf (digits : List Char) : Nat :=
  digits.foldl (fun value digit => value * 10 + (digit.toNat - '0'.toNat)) 0

/-- A number of at least `least` digits; no more than `most` of them are taken. -/
def readNumber (least most : Nat) (input : List Char) : Option (Nat × List Char) :=
  let digits := (input.take most).takeWhile isDigit
  if digits.length < least then none
  else some (numberOf digits, input.drop digits.length)

def readChar (char : Char) : List Char → Option (List Char)
  | other :: rest => if char = other then some rest else none
  | [] => none

/-- The fields of a time of day; a second of 60 is a leap second. -/
structure Reading where
  date : Date
  hour : Nat
  minute : Nat
  second : Nat
  nanoseconds : Nat
  /-- How far the local time is ahead of UTC, in minutes. -/
  offset : Int

def Reading.valid (reading : Reading) : Bool :=
  reading.date.valid && earliestYear ≤ reading.date.year && reading.date.year ≤ latestYear &&
    reading.hour ≤ 23 && reading.minute ≤ 59 && reading.second ≤ 60 &&
    reading.offset.natAbs < 24 * 60

def Reading.instant (reading : Reading) : Instant :=
  let leap := reading.second / 60
  { seconds := reading.date.toDays * 86400 + reading.hour * 3600 + reading.minute * 60
      + (reading.second - leap : Nat) - reading.offset * 60
    nanoseconds := reading.nanoseconds + leap * 1000000000 }

def Reading.instant? (reading : Reading) : Option Instant :=
  if reading.valid && reading.instant.inRange then some reading.instant else none

/-- A point and digits, of which nine count. -/
def readFraction : List Char → Option (Nat × List Char)
  | '.' :: rest => do
      let (value, left) ← readNumber 1 9 rest
      some (value * Nat.pow 10 (9 - (rest.length - left.length)), left.dropWhile isDigit)
  | input => some (0, input)

/-- Minutes ahead of UTC. What stands between the hours and the minutes is read by `between`. -/
def readOffset (between : List Char → Option (List Char)) :
    List Char → Option (Int × List Char)
  | [] => none
  | sign :: rest =>
      if sign = 'Z' ∨ sign = 'z' then some (0, rest)
      else if sign = '+' ∨ sign = '-' ∨ sign = '\u2212' then do
        let (hours, rest) ← readNumber 2 2 rest
        let (minutes, rest) ← readNumber 2 2 (← between rest)
        if minutes ≤ 59 then
          let size : Int := hours * 60 + minutes
          some (if sign = '+' then size else -size, rest)
        else none
      else none

def readSeparator : List Char → Option (List Char)
  | char :: rest => if char = 'T' ∨ char = 't' ∨ char = ' ' then some rest else none
  | [] => none

def readStrict (input : List Char) : Option (Reading × List Char) := do
  let (year, rest) ← readNumber 4 4 input
  let (month, rest) ← readNumber 2 2 (← readChar '-' rest)
  let (day, rest) ← readNumber 2 2 (← readChar '-' rest)
  let (hour, rest) ← readNumber 2 2 (← readSeparator rest)
  let (minute, rest) ← readNumber 2 2 (← readChar ':' rest)
  let (second, rest) ← readNumber 2 2 (← readChar ':' rest)
  let (nanoseconds, rest) ← readFraction rest
  let (offset, rest) ← readOffset (readChar ':') rest
  some (⟨⟨year, month, day⟩, hour, minute, second, nanoseconds, offset⟩, rest)

/-- RFC 3339 with a year of four digits. -/
def parse (text : String) : Option Instant := do
  let (reading, rest) ← readStrict text.toList
  if rest.isEmpty then reading.instant? else none

def skipBlanks (input : List Char) : List Char := input.dropWhile Text.isBlank

def readFreeNumber (least most : Nat) (input : List Char) : Option (Nat × List Char) :=
  readNumber least most (skipBlanks input)

def readFreeYear (input : List Char) : Option (Int × List Char) :=
  match skipBlanks input with
  | '-' :: rest => (readNumber 1 rest.length rest).map fun (year, rest) => (-(year : Int), rest)
  | '+' :: rest => (readNumber 1 rest.length rest).map fun (year, rest) => ((year : Int), rest)
  | rest => (readNumber 1 4 rest).map fun (year, rest) => ((year : Int), rest)

def readFreeOffset (input : List Char) : Option (Int × List Char) :=
  let input := skipBlanks input
  if (input.take 3).map Char.toUpper = ['U', 'T', 'C'] then some (0, input.drop 3)
  else
    readOffset (fun rest => some (rest.dropWhile fun char => char = ':' || Text.isBlank char)) input

def readFree (input : List Char) : Option (Reading × List Char) := do
  let (year, rest) ← readFreeYear input
  let (month, rest) ← readFreeNumber 1 2 (← readChar '-' (skipBlanks rest))
  let (day, rest) ← readFreeNumber 1 2 (← readChar '-' (skipBlanks rest))
  let (hour, rest) ← readFreeNumber 1 2 (← readSeparator rest)
  let (minute, rest) ← readFreeNumber 1 2 (← readChar ':' (skipBlanks rest))
  let (second, rest) ← readFreeNumber 1 2 (← readChar ':' (skipBlanks rest))
  let (nanoseconds, rest) ← readFraction rest
  let (offset, rest) ← readFreeOffset rest
  some (⟨⟨year, month, day⟩, hour, minute, second, nanoseconds, offset⟩, rest)

/-- As `parse`, but years may be signed and of any length, numbers may lack leading zeros,
blanks may stand between the parts, and UTC may be named. -/
def parseFree (text : String) : Option Instant := do
  let (reading, rest) ← readFree text.toList
  if (skipBlanks rest).isEmpty then reading.instant? else none

end Instant

end LiveChat.Time
