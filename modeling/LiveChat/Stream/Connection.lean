import LiveChat.Stream.Backoff
import LiveChat.Stream.Counters
import LiveChat.Stream.Endpoint
import LiveChat.Stream.Payload

/-!
Keeping one connection to the event stream. A connection that drops is opened again after a
delay, until too many attempts in a row have failed; one that stays hidden for too long is closed
and opened again when it comes back into view. Times are nanoseconds of one clock.
-/

set_option autoImplicit false

namespace LiveChat.Stream

inductive Status where
  | connected
  | reconnecting
  | disconnected
  deriving DecidableEq, Repr

def Status.label : Status → String
  | connected => "connected"
  | reconnecting => "reconnecting"
  | disconnected => "disconnected"

def Status.parse (label : String) : Option Status :=
  [Status.connected, .reconnecting, .disconnected].find? (·.label = label)

/-- Whether the user is looking. -/
inductive Visibility where
  | visible
  | hidden
  deriving DecidableEq, Repr

def Visibility.label : Visibility → String
  | visible => "visible"
  | hidden => "hidden"

def Visibility.parse (label : String) : Option Visibility :=
  [Visibility.visible, .hidden].find? (·.label = label)

/-- What observers are told: a live or opening connection dropped, or a connection opened
after a drop or an idle close. -/
inductive Notice where
  | disconnected
  | reconnected
  deriving DecidableEq, Repr

inductive Link where
  | opening
  | live
  deriving DecidableEq, Repr

structure Settings where
  endpoint : Endpoint
  policy : ReconnectPolicy
  /-- How long a connection may stay hidden. -/
  inactivity : Time.Duration
  payloadLimit : Nat

def Settings.standard : Settings :=
  { endpoint := .standard, policy := .standard, inactivity := .ofSeconds 300
    payloadLimit := maxPayload }

instance : Inhabited Settings := ⟨.standard⟩

structure Connection where
  status : Status
  /-- How often the status took another value. -/
  statusChanges : Nat
  visibility : Visibility
  link : Option Link
  /-- The failures since the last open that were followed by another attempt. -/
  attempt : Nat
  reconnectAt : Option Nat
  inactivityAt : Option Nat
  /-- The next open is to be announced. -/
  reconnecting : Bool
  closedByInactivity : Bool
  destroyed : Bool
  counters : Counters
  deriving Repr

namespace Connection

def initial : Connection :=
  { status := .disconnected, statusChanges := 0, visibility := .visible, link := none
    attempt := 0, reconnectAt := none, inactivityAt := none, reconnecting := false
    closedByInactivity := false, destroyed := false, counters := .zero }

instance : Inhabited Connection := ⟨initial⟩

/-- What can happen to a connection. -/
inductive Signal where
  | connect
  | disconnect
  | destroy
  | setVisibility (visibility : Visibility)
  | opened
  | failed (error : StreamError)
  | reconnectDue
  | inactivityDue
  deriving Repr

/-- What a connection asks of its surroundings. -/
inductive Output where
  | openLink
  | notify (notice : Notice)
  deriving DecidableEq, Repr

def setStatus (status : Status) (connection : Connection) : Connection :=
  if connection.status = status then connection
  else { connection with status, statusChanges := connection.statusChanges + 1 }

/-- A link that is there gives way to the new one. -/
def connect (connection : Connection) : Connection × List Output :=
  if connection.destroyed then (connection, [])
  else ({ connection with reconnectAt := none, link := some .opening }, [.openLink])

def disconnect (connection : Connection) : Connection :=
  { connection with
    reconnectAt := none, inactivityAt := none, link := none, reconnecting := false
    closedByInactivity := false }.setStatus .disconnected

def destroy (connection : Connection) : Connection :=
  if connection.destroyed then connection else { connection.disconnect with destroyed := true }

def armInactivity (settings : Settings) (now : Nat) (connection : Connection) : Connection :=
  if connection.status = .connected ∧ connection.visibility = .hidden ∧
      connection.inactivityAt = none then
    { connection with inactivityAt := some (now + settings.inactivity.nanoseconds) }
  else connection

def setVisibility (settings : Settings) (now : Nat) (visibility : Visibility)
    (connection : Connection) : Connection × List Output :=
  let seen := { connection with visibility }
  match visibility with
  | .hidden => (seen.armInactivity settings now, [])
  | .visible =>
      let awake := { seen with inactivityAt := none }
      if awake.closedByInactivity && !awake.destroyed then
        connect { awake with closedByInactivity := false, reconnecting := true }
      else (awake, [])

def opened (settings : Settings) (now : Nat) (connection : Connection) :
    Connection × List Output :=
  let live := { connection with
    link := some .live, counters := connection.counters.opened, attempt := 0
    closedByInactivity := false }.setStatus .connected
  let armed := live.armInactivity settings now
  if armed.reconnecting then ({ armed with reconnecting := false }, [.notify .reconnected])
  else (armed, [])

/-- The delay before the next attempt is drawn only if there is one. -/
def scheduleReconnect (settings : Settings) (now : Nat) (draw : Float) (connection : Connection) :
    Connection :=
  let failures := connection.attempt + 1
  if settings.policy.maxAttempts ≤ failures then
    { connection with reconnectAt := none }.setStatus .disconnected
  else
    let delay := (settings.policy.jittered? connection.attempt draw).getD settings.policy.ceiling
    { connection with
      attempt := failures, reconnectAt := some (now + delay.nanoseconds)
      counters := connection.counters.reconnect }

def failed (settings : Settings) (now : Nat) (draw : Float) (error : StreamError)
    (connection : Connection) : Connection × List Output :=
  let dropped := { connection with link := none, inactivityAt := none }
  if error.transient then
    let waiting := { dropped with reconnecting := true }.setStatus .reconnecting
    (waiting.scheduleReconnect settings now draw, [.notify .disconnected])
  else
    ({ dropped with reconnectAt := none, reconnecting := false }.setStatus .disconnected,
      [.notify .disconnected])

def idleClose (connection : Connection) : Connection :=
  let fired := { connection with inactivityAt := none }
  if fired.status = .connected ∧ fired.visibility = .hidden then
    { fired with link := none, closedByInactivity := true }.setStatus .disconnected
  else fired

def step (settings : Settings) (now : Nat) (draw : Float) (connection : Connection) :
    Signal → Connection × List Output
  | .connect => connection.connect
  | .disconnect => (connection.disconnect, [])
  | .destroy => (connection.destroy, [])
  | .setVisibility visibility => connection.setVisibility settings now visibility
  | .opened => connection.opened settings now
  | .failed error => connection.failed settings now draw error
  | .reconnectDue => { connection with reconnectAt := none }.connect
  | .inactivityDue => (connection.idleClose, [])

/-- Counts a payload; one that is an event comes with the place it goes to. -/
def read (settings : Settings) (payload : String) (connection : Connection) :
    Connection × Option Route :=
  let counters := connection.counters.payload
  match Event.parse settings.payloadLimit payload with
  | .error rejection => ({ connection with counters := counters.reject rejection }, none)
  | .ok event => ({ connection with counters := counters.dispatch }, some event.route)

/-- The connection as it reports itself. -/
def toJson (connection : Connection) : Json :=
  .ofFields [("status", .string connection.status.label),
    ("visibility", .string connection.visibility.label),
    ("reconnect_attempt", .integer connection.attempt),
    ("is_reconnecting", .bool connection.reconnecting),
    ("closed_by_inactivity", .bool connection.closedByInactivity),
    ("reconnect_pending", .bool connection.reconnectAt.isSome),
    ("inactivity_pending", .bool connection.inactivityAt.isSome),
    ("destroyed", .bool connection.destroyed)]

end Connection

end LiveChat.Stream
