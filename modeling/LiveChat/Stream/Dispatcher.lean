import LiveChat.Stream.Channel
import LiveChat.Stream.Connection

/-!
A connection together with the queues to its handlers. Chat events, changes and notices each have
one handler at most; the chat handler may be replaced. An event whose queue is full is parked,
and nothing more is read from a live link until it has gone where it belongs. Notices are never
parked: one that finds its queue full is counted and lost.
-/

set_option autoImplicit false

namespace LiveChat.Stream

/-- An event that waits for room in its queue. -/
inductive Parked where
  | chat (channel : Nat) (event : ChatEvent)
  | change (change : Change)
  deriving Repr

structure Dispatcher where
  settings : Settings
  connection : Connection
  /-- Every queue for chat events that was ever made. -/
  chats : List (Channel ChatEvent)
  /-- The place of the present chat handler among them. -/
  handler : Option Nat
  changes : Option (Channel Change)
  notices : Option (Channel Notice)
  parked : Option Parked

namespace Dispatcher

def new (settings : Settings) (chat changes notices : Option Nat) : Dispatcher :=
  { settings, connection := .initial, chats := (chat.map Channel.new).toList
    handler := chat.map fun _ => 0, changes := changes.map Channel.new
    notices := notices.map Channel.new, parked := none }

def chat? (dispatcher : Dispatcher) (channel : Nat) : Option (Channel ChatEvent) :=
  dispatcher.chats[channel]?

def setChat (dispatcher : Dispatcher) (channel : Nat) (queue : Channel ChatEvent) : Dispatcher :=
  { dispatcher with chats := dispatcher.chats.set channel queue }

/-- Makes a queue for chat events; nothing is sent to it yet. -/
def addChat (dispatcher : Dispatcher) (capacity : Nat) : Dispatcher × Nat :=
  ({ dispatcher with chats := dispatcher.chats ++ [Channel.new capacity] }, dispatcher.chats.length)

/-- Takes effect for the next event; one that is parked keeps its queue. -/
def setHandler (dispatcher : Dispatcher) (handler : Option Nat) : Dispatcher :=
  { dispatcher with handler }

def deliverChat (dispatcher : Dispatcher) (channel : Nat) (event : ChatEvent) : Dispatcher :=
  match dispatcher.chat? channel with
  | none => dispatcher
  | some queue =>
      match queue.offer event with
      | .sent next => dispatcher.setChat channel next
      | .full => { dispatcher with parked := some (.chat channel event) }
      | .gone => dispatcher

def deliverChange (dispatcher : Dispatcher) (change : Change) : Dispatcher :=
  match dispatcher.changes with
  | none => dispatcher
  | some queue =>
      match queue.offer change with
      | .sent next => { dispatcher with changes := some next }
      | .full => { dispatcher with parked := some (.change change) }
      | .gone => dispatcher

def deliver (dispatcher : Dispatcher) : Route → Dispatcher
  | .chat event =>
      match dispatcher.handler with
      | none => dispatcher
      | some channel => dispatcher.deliverChat channel event
  | .change change => dispatcher.deliverChange change
  | .keepalive => dispatcher

def notify (dispatcher : Dispatcher) (notice : Notice) : Dispatcher :=
  match dispatcher.notices with
  | none => dispatcher
  | some queue =>
      match queue.offer notice with
      | .sent next => { dispatcher with notices := some next }
      | .full =>
          let connection := dispatcher.connection
          { dispatcher with
            connection := { connection with counters := connection.counters.noticeDropped } }
      | .gone => dispatcher

def perform (dispatcher : Dispatcher) : List Connection.Output → Dispatcher
  | [] => dispatcher
  | .openLink :: rest => dispatcher.perform rest
  | .notify notice :: rest => (dispatcher.notify notice).perform rest

/-- The connection's next state, with its notices sent, and what it asks for. -/
def signal (now : Nat) (draw : Float) (dispatcher : Dispatcher) (signal : Connection.Signal) :
    Dispatcher × List Connection.Output :=
  let (connection, outputs) := dispatcher.connection.step dispatcher.settings now draw signal
  ({ dispatcher with connection }.perform outputs, outputs)

/-- One payload of a live link. -/
def receive (dispatcher : Dispatcher) (payload : String) : Dispatcher :=
  match dispatcher.connection.read dispatcher.settings payload with
  | (connection, none) => { dispatcher with connection }
  | (connection, some route) => { dispatcher with connection }.deliver route

/-- The parked event can move: its queue has room or is gone. -/
def parkedReady (dispatcher : Dispatcher) : Bool :=
  match dispatcher.parked with
  | none => false
  | some (.chat channel _) =>
      match dispatcher.chat? channel with
      | none => true
      | some queue => !queue.receiving || queue.hasRoom
  | some (.change _) =>
      match dispatcher.changes with
      | none => true
      | some queue => !queue.receiving || queue.hasRoom

/-- Sends the parked event on, if it can move. -/
def unpark (dispatcher : Dispatcher) : Dispatcher :=
  if dispatcher.parkedReady then
    let free := { dispatcher with parked := none }
    match dispatcher.parked with
    | none => free
    | some (.chat channel event) => free.deliverChat channel event
    | some (.change change) => free.deliverChange change
  else dispatcher

/-- What a link has to say is heard unless the link is live and an event is parked. -/
def listening (dispatcher : Dispatcher) : Bool :=
  dispatcher.parked.isNone || dispatcher.connection.link = some .opening

/-- A sender for this queue still exists. -/
def chatSending (dispatcher : Dispatcher) (channel : Nat) : Bool :=
  dispatcher.handler = some channel ||
    match dispatcher.parked with
    | some (.chat parkedAt _) => parkedAt = channel
    | _ => false

end Dispatcher

end LiveChat.Stream
