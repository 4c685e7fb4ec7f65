import LiveChat.Time.Duration

/-!
When a dropped connection is tried again: the delay doubles from attempt to attempt up to a
ceiling, and a draw scales it down to at least one half.
-/

set_option autoImplicit false

namespace LiveChat.Stream

open Time

structure ReconnectPolicy where
  initial : Duration
  ceiling : Duration
  /-- The number of failures in a row after which no further attempt is made. -/
  maxAttempts : Nat
  deriving DecidableEq, Repr

def ReconnectPolicy.standard : ReconnectPolicy :=
  { initial := .ofMillis 1000, ceiling := .ofMillis 30000, maxAttempts := 20 }

instance : Inhabited ReconnectPolicy := ⟨.standard⟩

namespace ReconnectPolicy

/-- The delay doubles at most twenty times. -/
def nominal (policy : ReconnectPolicy) (attempt : Nat) : Duration :=
  match policy.initial.times? (Nat.pow 2 (min attempt 20)) with
  | some delay => delay.min policy.ceiling
  | none => policy.ceiling.min policy.ceiling

/-- A draw outside the unit interval counts as its nearer end, and one that is not a finite
number counts as one. -/
def clampDraw (draw : Float) : Float :=
  if draw.isNaN || draw.isInf then 1.0
  else if draw < 0.0 then 0.0
  else if 1.0 < draw then 1.0
  else draw

def jittered? (policy : ReconnectPolicy) (attempt : Nat) (draw : Float) : Option Duration :=
  (policy.nominal attempt).scale? (0.5 + clampDraw draw * 0.5)

end ReconnectPolicy

end LiveChat.Stream
