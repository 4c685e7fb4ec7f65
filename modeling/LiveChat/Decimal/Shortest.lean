/-!
The fewest decimal digits that read back as the same binary64 number. A positive number is
`significand * 2 ^ exponent`; the reals that round to it form an interval, closed iff the
significand is even. Grids of 1, 2, … 17 digits are tried in turn, each at the two
neighbours of the number; the first grid with a hit wins, and of two hits the nearer one.
-/

set_option autoImplicit false

namespace LiveChat.Decimal

structure Binary where
  negative : Bool
  significand : Nat
  exponent : Int
  deriving DecidableEq, Repr

def Binary.ofFloat (value : Float) : Binary :=
  let bits := value.toBits.toNat
  let field : Nat := bits / Nat.pow 2 52 % 2048
  let fraction : Nat := bits % Nat.pow 2 52
  { negative := bits / Nat.pow 2 63 % 2 = 1
    significand := if field = 0 then fraction else Nat.pow 2 52 + fraction
    exponent := if field = 0 then -1074 else (field : Int) - 1075 }

/-- The number `digits * 10 ^ exponent`. -/
structure Digits where
  digits : Nat
  exponent : Int
  deriving DecidableEq, Repr

/-- The interval of a positive number and the number itself, over one denominator. -/
structure Interval where
  low : Nat
  mid : Nat
  high : Nat
  denominator : Nat
  closed : Bool

/-- Below a power of two the next number is only half as far away as above it. -/
def Interval.ofBinary (significand : Nat) (exponent : Int) : Interval :=
  let below := if significand = Nat.pow 2 52 ∧ -1074 < exponent then 1 else 2
  let scale := Nat.pow 2 (exponent - 2).toNat
  { low := (4 * significand - below) * scale
    mid := 4 * significand * scale
    high := (4 * significand + 2) * scale
    denominator := Nat.pow 2 (2 - exponent).toNat
    closed := significand % 2 = 0 }

/-- The same interval measured in units of `10 ^ unit`. -/
def Interval.inUnits (interval : Interval) (unit : Int) : Interval :=
  let up := Nat.pow 10 (-unit).toNat
  { interval with
    low := interval.low * up
    mid := interval.mid * up
    high := interval.high * up
    denominator := interval.denominator * Nat.pow 10 unit.toNat }

def Interval.holds (interval : Interval) (point : Nat) : Bool :=
  let scaled := point * interval.denominator
  if interval.closed then interval.low ≤ scaled && scaled ≤ interval.high
  else interval.low < scaled && scaled < interval.high

def raise (numerator denominator : Nat) : Nat → Int → Int
  | 0, power => power
  | steps + 1, power =>
      let next := power + 1
      if denominator * Nat.pow 10 next.toNat ≤ numerator * Nat.pow 10 (-next).toNat then
        raise numerator denominator steps next
      else power

/-- The largest power of ten that is at most the quotient. The first guess is from the
lengths of the two numbers and is at most three too low. -/
def magnitude (numerator denominator : Nat) : Int :=
  let guess := ((numerator.log2 : Int) - denominator.log2 - 1) * 1233 / 4096 - 1
  raise numerator denominator 4 guess

def Interval.gridPoint? (interval : Interval) (unit : Int) : Option Digits :=
  let grid := interval.inUnits unit
  let below := grid.mid / grid.denominator
  let above := below + 1
  let nearer := 2 * grid.mid < (below + above) * grid.denominator ||
    (2 * grid.mid = (below + above) * grid.denominator && below % 2 = 0)
  match grid.holds below, grid.holds above with
  | true, true => some ⟨if nearer then below else above, unit⟩
  | true, false => some ⟨below, unit⟩
  | false, true => some ⟨above, unit⟩
  | false, false => none

def dropZeros : Nat → Digits → Digits
  | 0, digits => digits
  | steps + 1, digits =>
      if digits.digits ≠ 0 ∧ digits.digits % 10 = 0 then
        dropZeros steps ⟨digits.digits / 10, digits.exponent + 1⟩
      else digits

def shortest (significand : Nat) (exponent : Int) : Digits :=
  let interval := Interval.ofBinary significand exponent
  let top := magnitude interval.mid interval.denominator
  let found := (List.range 17).findSome? fun extra => interval.gridPoint? (top - (extra : Nat))
  dropZeros 17 (found.getD ⟨0, 0⟩)

end LiveChat.Decimal
