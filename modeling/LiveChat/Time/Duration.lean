import LiveChat.Decimal.Shortest

/-!
Lengths of time in whole nanoseconds, fewer than `2 ^ 64` seconds. Scaling by a real number goes
through binary64 seconds and rounds once more to nanoseconds, a half to the even neighbour.
-/

set_option autoImplicit false

namespace LiveChat.Time

structure Duration where
  nanoseconds : Nat
  deriving DecidableEq, Repr, Inhabited

namespace Duration

def perSecond : Nat := 1000000000

def largest : Nat := Nat.pow 2 64 * perSecond - 1

def ofMillis (millis : Nat) : Duration := ⟨millis * 1000000⟩

def ofSeconds (seconds : Nat) : Duration := ⟨seconds * perSecond⟩

def seconds (duration : Duration) : Nat := duration.nanoseconds / perSecond

def subsecond (duration : Duration) : Nat := duration.nanoseconds % perSecond

def millis (duration : Duration) : Nat := duration.nanoseconds / 1000000

def min (first second : Duration) : Duration :=
  if first.nanoseconds ≤ second.nanoseconds then first else second

def times? (duration : Duration) (factor : Nat) : Option Duration :=
  if duration.nanoseconds * factor ≤ largest then some ⟨duration.nanoseconds * factor⟩ else none

def roundHalfEven (numerator denominator : Nat) : Nat :=
  let whole := numerator / denominator
  let rest := numerator % denominator
  if 2 * rest < denominator ∨ (2 * rest = denominator ∧ whole % 2 = 0) then whole else whole + 1

def toFloat (duration : Duration) : Float :=
  duration.seconds.toUInt64.toFloat + duration.subsecond.toUInt64.toFloat / 1e9

/-- Nothing if the seconds are negative, infinite or too many. -/
def ofFloat? (seconds : Float) : Option Duration :=
  let binary := Decimal.Binary.ofFloat seconds
  if seconds.isNaN || seconds.isInf || (binary.negative && binary.significand ≠ 0) then none
  else
    let numerator := binary.significand * perSecond * Nat.pow 2 binary.exponent.toNat
    let rounded := roundHalfEven numerator (Nat.pow 2 (-binary.exponent).toNat)
    if rounded ≤ largest then some ⟨rounded⟩ else none

def scale? (duration : Duration) (factor : Float) : Option Duration :=
  ofFloat? (factor * duration.toFloat)

end Duration

end LiveChat.Time
