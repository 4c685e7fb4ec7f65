import LiveChat.Json.Record

/-!
What the stream delivered and what it discarded.
-/

set_option autoImplicit false

namespace LiveChat.Stream

/-- Why a payload is not an event. -/
inductive Rejection where
  | oversized
  | malformed
  | invalid
  deriving DecidableEq, Repr

def Rejection.label : Rejection → String
  | oversized => "oversized"
  | malformed => "malformed"
  | invalid => "invalid"

structure Counters where
  payloadsReceived : Nat
  eventsDispatched : Nat
  droppedOversized : Nat
  droppedMalformed : Nat
  droppedInvalid : Nat
  connectionsOpened : Nat
  reconnectsScheduled : Nat
  noticesDropped : Nat
  deriving DecidableEq, Repr, Inhabited

namespace Counters

def zero : Counters := ⟨0, 0, 0, 0, 0, 0, 0, 0⟩

def payload (counters : Counters) : Counters :=
  { counters with payloadsReceived := counters.payloadsReceived + 1 }

def dispatch (counters : Counters) : Counters :=
  { counters with eventsDispatched := counters.eventsDispatched + 1 }

def reject (counters : Counters) : Rejection → Counters
  | .oversized => { counters with droppedOversized := counters.droppedOversized + 1 }
  | .malformed => { counters with droppedMalformed := counters.droppedMalformed + 1 }
  | .invalid => { counters with droppedInvalid := counters.droppedInvalid + 1 }

def opened (counters : Counters) : Counters :=
  { counters with connectionsOpened := counters.connectionsOpened + 1 }

def reconnect (counters : Counters) : Counters :=
  { counters with reconnectsScheduled := counters.reconnectsScheduled + 1 }

def noticeDropped (counters : Counters) : Counters :=
  { counters with noticesDropped := counters.noticesDropped + 1 }

def droppedTotal (counters : Counters) : Nat :=
  counters.droppedOversized + counters.droppedMalformed + counters.droppedInvalid

theorem dropped_total_reject (counters : Counters) (rejection : Rejection) :
    (counters.reject rejection).droppedTotal = counters.droppedTotal + 1 := by
  cases rejection <;> simp only [reject, droppedTotal] <;> omega

def names : List String :=
  ["payloads_received", "events_dispatched", "dropped_oversized", "dropped_malformed",
    "dropped_invalid", "connections_opened", "reconnects_scheduled", "notices_dropped"]

def values (counters : Counters) : List Nat :=
  [counters.payloadsReceived, counters.eventsDispatched, counters.droppedOversized,
    counters.droppedMalformed, counters.droppedInvalid, counters.connectionsOpened,
    counters.reconnectsScheduled, counters.noticesDropped]

def toJson (counters : Counters) : Json :=
  .ofFields (names.zip (counters.values.map fun (value : Nat) => .integer value))

def ofJson? (value : Json) : Option Counters := do
  let slots ← value.slots names
  let [a, b, c, d, e, f, g, h] ←
    slots.mapM fun slot => slot.bind (Json.natural? (Nat.pow 2 64)) | none
  some ⟨a, b, c, d, e, f, g, h⟩

end Counters

end LiveChat.Stream
