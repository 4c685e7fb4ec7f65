import LiveChat.Rehearsal.World

/-!
The one who runs a rehearsal: lays plans, gives orders, types at the terminal and reads the queues
that nobody else reads. After each action all tasks go on as far as they can.
-/

set_option autoImplicit false

namespace LiveChat.Rehearsal

open LiveChat.Stream (Connection Channel Visibility Change ChatEvent Notice StreamError)
open Session (ServiceError SessionError)

/-- The queues that can be read. -/
inductive Family where
  | chat
  | changes
  | notices
  deriving DecidableEq

/-- What is read from a queue; an end is read once. -/
inductive Received where
  | chat (event : ChatEvent)
  | change (change : Change)
  | notice (notice : Notice)
  | ended

structure Operator where
  world : World
  /-- The queue of chat events that is read here. -/
  chat : Option Nat
  /-- Changes are read here. -/
  changes : Bool
  notices : Bool

namespace Operator

def onWorld (change : World → World) (operator : Operator) : Operator :=
  { operator with world := change operator.world }

def settle (operator : Operator) : Operator := operator.onWorld World.settle

/-! Reading. -/

def waiting (family : Family) (operator : Operator) : Option Nat :=
  let world := operator.world
  match family with
  | .chat => operator.chat.map fun queue => (world.chatItems queue).length
  | .changes => if operator.changes then some world.changeItems.length else none
  | .notices => if operator.notices then some world.noticeItems.length else none

/-- Nothing more will come. -/
def isEnded (family : Family) (operator : Operator) : Bool :=
  match family with
  | .chat => (operator.chat.map fun queue => !operator.world.chatSending queue).getD true
  | .changes => operator.world.ended
  | .notices => operator.world.ended

def items (family : Family) (operator : Operator) : List Received :=
  let world := operator.world
  match family with
  | .chat => ((operator.chat.map world.chatItems).getD []).map .chat
  | .changes => world.changeItems.map .change
  | .notices => world.noticeItems.map .notice

def keepFrom {Item : Type} (count : Nat) (channel : Channel Item) : Channel Item :=
  { channel with items := channel.items.drop count }

/-- Takes items away from the front of a queue. -/
def drop (family : Family) (count : Nat) (operator : Operator) : Operator :=
  operator.onWorld fun world =>
    let dispatcher := world.dispatcher
    let dispatcher := match family with
      | .chat =>
          match operator.chat with
          | none => dispatcher
          | some place =>
              { dispatcher with chats := dispatcher.chats.modify place (keepFrom count) }
      | .changes => { dispatcher with changes := dispatcher.changes.map (keepFrom count) }
      | .notices => { dispatcher with notices := dispatcher.notices.map (keepFrom count) }
    { world with dispatcher }.rouseParked

/-- Reads no more from a queue that has ended. -/
def leave (family : Family) (operator : Operator) : Operator :=
  match family with
  | .chat => { operator with chat := none }
  | .changes => { operator with changes := false }
  | .notices => { operator with notices := false }

/-- Reads at most as many items as are allowed and wait now, and the end if it was reached. -/
def receive (family : Family) (allowed : Nat) (operator : Operator) :
    List Received × Operator :=
  match operator.waiting family with
  | none => ([], operator)
  | some count =>
      let taken := (operator.items family).take allowed
      let operator := operator.drop family taken.length
      if taken.length = count ∧ count < allowed ∧ operator.isEnded family then
        (taken ++ [.ended], operator.leave family)
      else (taken, operator)

/-- Stops reading from a queue. -/
def dropReceiver (family : Family) (operator : Operator) : Operator :=
  let dropped := match family with
    | .chat => operator.onWorld (World.dropQueue operator.chat)
    | .changes =>
        if operator.changes then
          operator.onWorld fun world =>
            let changes := world.dispatcher.changes.map Channel.drop
            { world with dispatcher := { world.dispatcher with changes } }.rouseParked
        else operator
    | .notices =>
        if operator.notices then
          operator.onWorld fun world =>
            let notices := world.dispatcher.notices.map Channel.drop
            { world with dispatcher := { world.dispatcher with notices } }
        else operator
  dropped.leave family

def allowance : Nat := Nat.pow 2 32

/-- Empties all queues, of which the notices stand first, then the chat events, then the changes.
Tasks that waited for room go on later. -/
def drain (operator : Operator) : List Received × Operator :=
  let (notices, operator) := operator.receive .notices allowance
  let (chat, operator) := operator.receive .chat allowance
  let (changes, operator) := operator.receive .changes allowance
  (notices ++ chat ++ changes, operator)

/-! The server. -/

def plan (plan : Plan) (delay : Nat) (operator : Operator) : Operator :=
  operator.onWorld fun world => { world with server := world.server.plan plan delay }

def planFailures (count delay : Nat) (operator : Operator) : Operator :=
  (List.range count).foldl
    (fun operator index => operator.plan (.failure (.connect (failureText index))) delay) operator

/-- Plans a connection and gives the place of the feed that will drive it. -/
def planFeed (delay : Nat) (operator : Operator) : Operator × Nat :=
  let (server, feed) := operator.world.server.addFeed .new
  ({ operator with world := { operator.world with server } }.plan (.payloads feed) delay, feed)

/-- Plans an answer over HTTP. Its body is the one that is given, or comes over a feed. -/
def planReply (reply : Http.Reply) (fed : Bool) (delay : Nat) (operator : Operator) :
    Operator × Nat :=
  let body := match reply with
    | .failed _ => []
    | .answered response =>
        response.body.parts.map Arrival.part ++
          (if response.body.broken then [.failure Http.EventSource.broken] else [])
  let start : Feed := if fed then .new else { arrivals := body, ended := true, released := false }
  let (server, feed) := operator.world.server.addFeed start
  ({ operator with world := { operator.world with server } }.plan (.reply reply feed) delay, feed)

def feed (place : Nat) (operator : Operator) : Feed :=
  operator.world.server.feeds.getD place .new

def modifyFeed (place : Nat) (change : Feed → Feed) (operator : Operator) : Operator :=
  operator.onWorld fun world =>
    { world with server := world.server.modifyFeed place change }.wake .connection

/-- Whether the feed still takes what is sent. -/
def send (place : Nat) (arrivals : List Arrival) (operator : Operator) : Bool × Operator :=
  if (operator.feed place).released then (false, operator)
  else
    let add := fun (feed : Feed) => { feed with arrivals := feed.arrivals ++ arrivals }
    (true, operator.modifyFeed place add)

def endFeed (place : Nat) (operator : Operator) : Operator :=
  operator.modifyFeed place fun feed => { feed with ended := true }

/-! The connection. -/

def signal (signal : Connection.Signal) (operator : Operator) : Operator :=
  (operator.onWorld (World.order .operator (.signal signal))).settle

def dropHandle (operator : Operator) : Operator :=
  operator.onWorld fun world => { world with handle := false }.wake .connection

/-- Changes who the chat events go to from now on. -/
def setHandler (handler : Option Nat) (operator : Operator) : Operator :=
  operator.onWorld fun world =>
    { world with dispatcher := world.dispatcher.setHandler handler }.rouse

/-- The connection as it reports itself. -/
def snapshot (operator : Operator) : Except StreamError Connection :=
  if operator.world.ended then .error .closed else .ok operator.world.dispatcher.connection

/-- Has the chat events sent to a new queue that is read here, or to none. -/
def setChat (capacity : Option Nat) (operator : Operator) : Operator :=
  let operator := operator.dropReceiver .chat
  match capacity with
  | none => operator.setHandler none
  | some capacity =>
      let (dispatcher, place) := operator.world.dispatcher.addChat capacity
      let world := { operator.world with dispatcher }
      { operator with world, chat := some place }.setHandler (some place)

/-! The session. -/

def ask (command : Session.Command) (operator : Operator) : Except SessionError Unit × Operator :=
  let cleared := operator.onWorld fun world => { world with answer := none }
  let operator := (cleared.onWorld (World.request .operator command)).settle
  match operator.world.answer with
  | some .closed => (.error .closed, operator)
  | _ => (.ok (), operator)

/-- Has the session listen to the chat events. -/
def attach (operator : Operator) : Except SessionError Unit × Operator :=
  let (dispatcher, place) := operator.world.dispatcher.addChat operator.world.eventCapacity
  let operator := operator.onWorld fun world => { world with dispatcher, offered := some place }
  let (result, operator) := operator.ask (.attach place)
  let operator := operator.onWorld fun world => { world with offered := none }
  match result with
  | .ok () => (.ok (), operator.setHandler (some place))
  | .error error => (.error error, operator)

def detach (operator : Operator) : Except SessionError Unit × Operator :=
  (operator.setHandler none).ask .detach

/-- Fetches the records, however long it takes. -/
def fetch : Nat → Nat → Operator → Except ServiceError (List Json) × Operator
  | 0, _, operator => (.error (.request Service.silence), operator)
  | count + 1, retries, operator =>
      let world := operator.world
      match world.service.remote with
      | none => (world.service.history, operator)
      | some messages =>
          match world.service.attempt messages world.now .history retries with
          | (.waiting retries due, service) =>
              fetch count retries { operator with world := { world with service }.advanceTo due }
          | (.done result, service) =>
              (recordsOf result, { operator with world := { world with service } })

/-- Loads the history from the service and counts what is then there. -/
def refresh (operator : Operator) : Except SessionError Nat × Operator :=
  match operator.fetch (Http.maxRetries + 1) 0 with
  | (.error error, operator) => (.error (.service error), operator)
  | (.ok records, operator) =>
      match operator.ask (.dispatch (.loadHistory records)) with
      | (.ok (), operator) => (.ok operator.world.conversation.messages.length, operator)
      | (.error error, operator) => (.error error, operator)

/-! The service. -/

def onService (change : Service → Service) (operator : Operator) : Operator :=
  operator.onWorld fun world => { world with service := change world.service }

def isHeld (job : Job) : Bool :=
  match job.stage with
  | .held _ => true
  | _ => false

/-- The answers that were held back go out. -/
def release (operator : Operator) : Operator :=
  (operator.onService fun service => { service with held := false }).onWorld fun world =>
    world.jobs.zipIdx.foldl
      (fun world (job, index) => world.wakeIf (isHeld job) (.job index)) world

/-! The terminal. -/

def onConsole (change : Console → Console) (operator : Operator) : Operator :=
  operator.onWorld fun world =>
    { world with console := world.console.map change }.wake .console

/-- Types a line; a terminal that has finished does not take it. -/
def type (octets : List UInt8) (operator : Operator) : Bool × Operator :=
  match operator.world.console with
  | none => (false, operator)
  | some console =>
      if console.isFinished then (false, operator)
      else
        (true, operator.onConsole fun console =>
          { console with input := console.input ++ octets ++ [Console.lineEnd] })

def endInput (operator : Operator) : Operator :=
  operator.onConsole fun console => { console with inputEnded := true }

/-- Interrupts the terminal, which notices it only while it listens. -/
def interrupt (operator : Operator) : Operator :=
  operator.onConsole fun console => { console with interrupted := console.isListening }

/-! The start. -/

structure Setup where
  settings : Stream.Settings
  source : Source
  draws : List Float
  chat : Option Nat
  changes : Option Nat
  notices : Option Nat
  /-- How many events may wait for the session, if there is one. -/
  session : Option Nat
  service : Service
  /-- How many changes are kept, if they are kept. -/
  recent : Option Nat
  console : Bool

def Setup.world (setup : Setup) : World :=
  { now := 0, dispatcher := .new setup.settings setup.chat setup.changes setup.notices
    server := .new setup.source, line := none, orders := [], draws := setup.draws
    handle := true, offered := none
    session := setup.session.map fun _ => .new
    eventCapacity := setup.session.getD 1, service := setup.service, jobs := []
    recent := setup.recent.map .new, console := none, answer := none, consoleAnswer := none
    ready := [], stamps := 1 }

/-- The terminal starts once the session is attached. -/
def begin (setup : Setup) : Operator :=
  let operator : Operator :=
    { world := setup.world, chat := setup.chat.map fun _ => 0
      changes := setup.changes.isSome && setup.recent.isNone
      notices := setup.notices.isSome && !setup.console }
  if setup.console then
    let (_, operator) := operator.attach
    let world := { operator.world with console := some .new }
    { operator with world := world.wake .console }.settle
  else operator.settle

end Operator

end LiveChat.Rehearsal
