import LiveChat.Json.Reader

/-!
Labels of domain names in ASCII. The ASCII characters of a label stand first; the others follow
in ascending order as differences of code point and place, in numerals of varying length.
-/

set_option autoImplicit false

namespace LiveChat.Url.Punycode

def digitChar (digit : Nat) : Char :=
  if digit < 26 then Char.ofNat (0x61 + digit) else Char.ofNat (0x30 + (digit - 26))

def digit? (char : Char) : Option Nat :=
  if Json.isDigit char then some (Json.digitValue char + 26)
  else if 'a' ≤ char ∧ char ≤ 'z' then some (char.toNat - 0x61)
  else if 'A' ≤ char ∧ char ≤ 'Z' then some (char.toNat - 0x41)
  else none

/-- A digit below the threshold of its place ends a numeral. -/
def threshold (place bias : Nat) : Nat := max 1 (min 26 (place - bias))

theorem threshold_low (place bias : Nat) : 1 ≤ threshold place bias := by
  unfold threshold
  omega

def shrink (delta place : Nat) : Nat × Nat :=
  if _large : 455 < delta then shrink (delta / 35) (place + 36) else (delta, place)
  termination_by delta

/-- The bias after a difference at the given count of characters. -/
def adapt (delta count : Nat) (first : Bool) : Nat :=
  let scaled := if first then delta / 700 else delta / 2
  let (delta, place) := shrink (scaled + scaled / count) 0
  place + 36 * delta / (delta + 38)

def numeral (bias place value : Nat) : List Char :=
  let low := threshold place bias
  if _done : value < low then [digitChar value]
  else
    digitChar (low + (value - low) % (36 - low))
      :: numeral bias (place + 36) ((value - low) / (36 - low))
  termination_by value
  decreasing_by
    have low_pos := threshold_low place bias
    exact Nat.lt_of_le_of_lt (Nat.div_le_self _ _) (by omega)

/-- The numeral so far, the difference that runs, the bias and the characters that are placed. -/
structure Writer where
  written : List Char
  delta : Nat
  bias : Nat
  placed : Nat

/-- Goes past one character while those of this code point are placed. -/
def Writer.pass (basic point : Nat) (writer : Writer) (char : Char) : Writer :=
  if char.toNat < point then { writer with delta := writer.delta + 1 }
  else if char.toNat = point then
    { written := writer.written ++ numeral writer.bias 36 writer.delta, delta := 0
      bias := adapt writer.delta (writer.placed + 1) (writer.placed = basic)
      placed := writer.placed + 1 }
  else writer

/-- Places the characters of each code point in turn; `next` is the least one that is left. -/
def placeAll (label : List Char) (basic : Nat) : List Nat → Nat → Writer → List Char
  | [], _, writer => writer.written
  | point :: points, next, writer =>
      let skipped :=
        { writer with delta := writer.delta + (point - next) * (writer.placed + 1) }
      let placed := label.foldl (Writer.pass basic point) skipped
      placeAll label basic points (point + 1) { placed with delta := placed.delta + 1 }

def insertPoint (point : Nat) : List Nat → List Nat
  | [] => [point]
  | other :: points =>
      if point < other then point :: other :: points
      else if point = other then other :: points
      else other :: insertPoint point points

def encode (label : List Char) : List Char :=
  let basic := label.filter (·.toNat < 0x80)
  let points := (label.filter (0x80 ≤ ·.toNat)).foldr (fun char => insertPoint char.toNat) []
  let start : Writer := { written := [], delta := 0, bias := 72, placed := basic.length }
  (if basic = [] then [] else basic ++ ['-']) ++ placeAll label basic.length points 0x80 start

/-- One numeral, on top of a value, and what follows it. -/
def readNumeral (bias : Nat) :
    Nat → Nat → Nat → List Char → Option (Nat × List Char)
  | _, _, _, [] => none
  | place, weight, value, char :: rest => do
      let digit ← digit? char
      let low := threshold place bias
      if digit < low then some (value + digit * weight, rest)
      else readNumeral bias (place + 36) (weight * (36 - low)) (value + digit * weight) rest

def readPlaces : Nat → List Char → Nat → Nat → Nat → List Char → Option (List Char)
  | 0, _, _, _, _, _ => none
  | _ + 1, label, _, _, _, [] => some label
  | fuel + 1, label, point, index, bias, input => do
      let (value, rest) ← readNumeral bias 36 1 index input
      let count := label.length + 1
      let point := point + value / count
      let place := value % count
      if ¬ point.isValidChar then none
      let label := label.take place ++ Char.ofNat point :: label.drop place
      readPlaces fuel label point (place + 1) (adapt (value - index) count (index = 0)) rest

/-- The label that is written so. -/
def decode? (text : List Char) : Option (List Char) :=
  let tail := (text.reverse.takeWhile (· ≠ '-')).reverse
  let basic := text.take (text.length - tail.length - 1)
  if text.any (0x80 ≤ ·.toNat) then none
  else readPlaces (tail.length + 1) basic 0x80 0 72 tail

end LiveChat.Url.Punycode
