import LiveChat.Rehearsal.Console
import LiveChat.Rehearsal.Server
import LiveChat.Rehearsal.Service
import LiveChat.Stream.RecentChanges
import LiveChat.Stream.Dispatcher
import LiveChat.Terminal.Shell

/-!
All parts together, as tasks that take turns. A task that has something to do stands in a line;
it goes on until it has to wait, or until it has had its share, and then stands at the end again.
Time stands still meanwhile: the clock counts milliseconds and moves from one alarm to the next.
-/

set_option autoImplicit false

namespace LiveChat.Rehearsal

open Conversation (Action State Message)
open LiveChat.Stream (Dispatcher Connection Channel Visibility Change ChatEvent Notice Status
  RecentChanges)
open Session (SessionError)
open Terminal (Command)

inductive Task where
  | connection
  | session
  | changes
  | console
  | job (index : Nat)
  deriving DecidableEq

/-- Those who wait for answers. -/
inductive Caller where
  | operator
  | console
  deriving DecidableEq

inductive Answer where
  | done
  | closed
  | report (connection : Connection)

/-- What the connection can be told. -/
inductive Order where
  | signal (signal : Connection.Signal)
  | report

structure World where
  now : Nat
  dispatcher : Dispatcher
  server : Server
  line : Option Line
  orders : List (Caller × Order)
  /-- The draws that scale delays, used in turn. -/
  draws : List Float
  /-- The operator can still reach the connection. -/
  handle : Bool
  /-- A queue for chat events that is about to be used. -/
  offered : Option Nat
  session : Option (Session Caller)
  /-- How many events may wait for the session. -/
  eventCapacity : Nat
  service : Service
  jobs : List Job
  recent : Option RecentChanges
  console : Option Console
  answer : Option Answer
  consoleAnswer : Option Answer
  ready : List Task
  /-- How many stamps were used up. -/
  stamps : Nat

namespace World

/-- The share of a task before others get their turn. -/
def share : Nat := 128

def maxTurns : Nat := Nat.pow 2 62

/-- A time that no record can carry. -/
def clock : Time.Instant := ⟨100000000000000000000, 0⟩

def mintedStart : String := "local-00000000-0000-4000-8000-"

def minted (index : Nat) : String :=
  mintedStart ++ String.ofList (Time.Instant.padded 12 index)

def stamp (index : Nat) : Message.Stamp := { id := minted index, time := clock }

def nanoseconds (world : World) : Nat := world.now * 1000000

/-- The connection was destroyed, and its task is over. -/
def ended (world : World) : Bool := world.dispatcher.connection.destroyed

def wake (task : Task) (world : World) : World :=
  if task ∈ world.ready then world else { world with ready := world.ready ++ [task] }

def wakeIf (condition : Bool) (task : Task) (world : World) : World :=
  if condition then world.wake task else world

/-- Somebody can still reach the connection. -/
def reachable (world : World) : Bool :=
  world.handle || (world.console.map fun console => !console.isFinished).getD false

def draw (world : World) : Float :=
  let index := world.dispatcher.connection.counters.reconnectsScheduled
  world.draws.getD (index % world.draws.length) 0.0

/-- Events may still come to this queue. -/
def chatSending (world : World) (queue : Nat) : Bool :=
  world.offered = some queue ||
    (world.dispatcher.handler = some queue && (world.reachable || !world.ended)) ||
    (!world.ended && world.dispatcher.chatSending queue)

def chatItems (world : World) (queue : Nat) : List ChatEvent :=
  ((world.dispatcher.chat? queue).map (·.items)).getD []

def changeItems (world : World) : List Change :=
  (world.dispatcher.changes.map (·.items)).getD []

def noticeItems (world : World) : List Notice :=
  (world.dispatcher.notices.map (·.items)).getD []

/-- There is something to hear for the session. -/
def sessionHears (world : World) : Bool :=
  match world.session.bind (·.events) with
  | none => false
  | some queue => world.chatItems queue ≠ [] || !world.chatSending queue

def changesHeard (world : World) : Bool :=
  world.recent.isSome && world.changeItems ≠ []

def consoleHears (world : World) : Bool :=
  match world.console with
  | none => false
  | some console =>
      console.isListening && console.noticesOpen && (world.noticeItems ≠ [] || world.ended)

/-- Wakes those who have something to hear. -/
def rouse (world : World) : World :=
  let world := world.wakeIf world.sessionHears .session
  let world := world.wakeIf world.changesHeard .changes
  world.wakeIf world.consoleHears .console

/-- A parked event may have found room. -/
def rouseParked (world : World) : World :=
  world.wakeIf (!world.ended && world.dispatcher.parkedReady) .connection

def setAnswer (caller : Caller) (answer : Answer) (world : World) : World :=
  match caller with
  | .operator => { world with answer := some answer }
  | .console => { world with consoleAnswer := some answer }.wake .console

/-! The connection. -/

def dropLine (world : World) : World :=
  match world.line with
  | none => world
  | some line => { world with line := none, server := world.server.release line }

def openLine (world : World) : World :=
  let world := world.dropLine
  let (line, server) := world.server.openLine world.now world.dispatcher.settings.endpoint
  { world with line := some line, server }

/-- The task of the connection is over: nothing is parked, and nobody is told any more. -/
def close (world : World) : World :=
  let dispatcher := { world.dispatcher with parked := none }
  let waiting := world.orders
  let world := { world.dropLine with dispatcher, orders := [] }
  waiting.foldl (fun world (caller, _) => world.setAnswer caller .closed) world

def signal (signal : Connection.Signal) (world : World) : World :=
  let (dispatcher, outputs) := world.dispatcher.signal world.nanoseconds world.draw signal
  let world := { world with dispatcher }
  let world :=
    if outputs.contains .openLink then world.openLine
    else if dispatcher.connection.link.isNone then world.dropLine
    else world
  (if world.ended then world.close else world).rouse

def carryOut (order : Order) (world : World) : World × Answer :=
  match order with
  | .signal signal => (world.signal signal, .done)
  | .report => (world, .report world.dispatcher.connection)

def isDue (world : World) (alarm : Option Nat) : Bool :=
  match alarm with
  | none => false
  | some nanoseconds => tick nanoseconds ≤ world.now

/-- What is heard on the line, if anything is. -/
def hear? (world : World) : Option World :=
  match world.line with
  | none => none
  | some line =>
      match world.server.hear world.now line with
      | (.nothing, _, _) => none
      | (.signal signal, line, server) =>
          some ({ world with line := some line, server }.signal signal)
      | (.payload text, line, server) =>
          let dispatcher := world.dispatcher.receive text
          some { world with line := some line, server, dispatcher }.rouse

def hearIfListening? (world : World) : Option World :=
  if world.dispatcher.listening then world.hear? else none

def alarm? (world : World) : Option World :=
  let connection := world.dispatcher.connection
  if world.isDue connection.reconnectAt then some (world.signal .reconnectDue)
  else if world.isDue connection.inactivityAt then some (world.signal .inactivityDue)
  else none

/-- Orders go first, then the parked event, the line and the alarms. -/
def connectionTurn (world : World) : Option World :=
  if world.ended then none
  else match world.orders with
    | (caller, order) :: orders =>
        let (world, answer) := { world with orders }.carryOut order
        some (world.setAnswer caller answer)
    | [] =>
        if !world.reachable then some (world.signal .destroy)
        else if world.dispatcher.parkedReady then
          some { world with dispatcher := world.dispatcher.unpark }.rouse
        else match world.hearIfListening? with
          | some world => some world
          | none => world.alarm?

/-! The session. -/

def setSession (session : Session Caller) (world : World) : World :=
  { world with session := some session }

/-- What the session may hear next. -/
def offer (session : Session Caller) (world : World) : Session.Offer :=
  match session.events with
  | none => .nothing
  | some place =>
      match (world.chatItems place).head? with
      | some event => .event event
      | none => if world.chatSending place then .nothing else .ended

/-- Takes the event that was heard out of its queue. -/
def takeEvent (queue : Option Nat) (world : World) : World :=
  match queue with
  | none => world
  | some place =>
      match (world.dispatcher.chat? place).bind Channel.take? with
      | none => world
      | some (_, channel) =>
          { world with dispatcher := world.dispatcher.setChat place channel }.rouseParked

def dropQueue (queue : Option Nat) (world : World) : World :=
  match queue with
  | none => world
  | some place =>
      match world.dispatcher.chat? place with
      | none => world
      | some channel =>
          { world with dispatcher := world.dispatcher.setChat place channel.drop }.rouseParked

/-- A submission sets out. -/
def submit (submission : Option Conversation.Submission) (world : World) : World :=
  match submission with
  | none => world
  | some submission =>
      let job : Job := { submission, stage := .fresh }
      { world with jobs := world.jobs ++ [job] }.wake (.job world.jobs.length)

def isListening (world : World) : Bool :=
  (world.console.map Console.isListening).getD false

/-- A new state may be printed, and those who wait for the session are told. -/
def carryOn (turn : Session.Turn Caller) (world : World) : World :=
  let published := (world.session.map (·.published)).getD 0
  let news := turn.session.published ≠ published || turn.session.stopped
  let world := (world.dropQueue turn.left).setSession turn.session
  let world := { world with stamps := world.stamps + 1 }.wakeIf (news && world.isListening) .console
  let world := world.submit turn.submission
  let world := turn.served.toList.foldl (fun world caller => world.setAnswer caller .done) world
  turn.refused.foldl (fun world caller => world.setAnswer caller .closed) world

def sessionTurn (world : World) : Option World := do
  let session ← world.session
  let (input, session) ← session.next? (world.offer session)
  let world := match input with
    | .event _ => world.takeEvent session.events
    | _ => world
  some (world.carryOn (session.take (stamp world.stamps) input))

/-- Asks the session for something; one that is gone answers at once. -/
def request (caller : Caller) (command : Session.Command) (world : World) : World :=
  match world.session.bind fun session => session.ask? caller command with
  | none => world.setAnswer caller .closed
  | some session => (world.setSession session).wake .session

/-- Orders something from the connection; one that is gone answers at once. -/
def order (caller : Caller) (order : Order) (world : World) : World :=
  if world.ended then world.setAnswer caller .closed
  else { world with orders := world.orders ++ [(caller, order)] }.wake .connection

/-! Submissions and changes. -/

def report (action : Action) (world : World) : World :=
  match world.session with
  | none => world
  | some session => (world.setSession (session.report action)).wake .session

def jobWaits (world : World) (job : Job) : Bool :=
  match job.stage with
  | .over => true
  | .fresh => false
  | .held _ => world.service.held
  | .waiting _ due => world.now < due

def jobTurn (index : Nat) (world : World) : Option World :=
  match world.jobs[index]? with
  | none => none
  | some job =>
      if world.jobWaits job then none
      else
        let (job, service, action) := job.advance world.service world.now
        let world := { world with jobs := world.jobs.set index job, service }
        some ((action.map world.report).getD world)

def changesTurn (world : World) : Option World :=
  match world.recent, world.dispatcher.changes.bind Channel.take? with
  | some recent, some (change, channel) =>
      let dispatcher := { world.dispatcher with changes := some channel }
      some { world with recent := some (recent.add change), dispatcher }.rouseParked
  | _, _ => none

/-! The terminal. -/

def setConsole (console : Console) (world : World) : World :=
  { world with console := some console }

/-- The terminal lets go of the notices and of the connection. -/
def finishConsole (failure : Option String) (console : Console) (world : World) : World :=
  let dispatcher := { world.dispatcher with notices := world.dispatcher.notices.map Channel.drop }
  let console := { console with stage := .finished failure }
  ({ world with dispatcher }.setConsole console).wake .connection

def listen (text : String) (console : Console) (world : World) : World :=
  world.setConsole ({ console with stage := .listening }.print text)

def conversation (world : World) : State :=
  (world.session.map (·.state)).getD .empty

def runCommand (command : Command) (console : Console) (world : World) : World :=
  let waiting := fun stage => { world with consoleAnswer := none }.setConsole { console with stage }
  match command with
  | .send text => (waiting .acting).request .console (.dispatch (.send text))
  | .clear => (waiting .acting).request .console (.dispatch .clear)
  | .history => (waiting (.fetching 0 world.now)).wake .console
  | .hide => (waiting (.turning .hidden)).order .console (.signal (.setVisibility .hidden))
  | .show => (waiting (.turning .visible)).order .console (.signal (.setVisibility .visible))
  | .status => (waiting (.reporting world.dispatcher.connection.status)).order .console .report
  | .changes =>
      let changes := (world.recent.map (·.entries)).getD []
      world.listen (Terminal.changesText changes) console
  | .help => world.listen Terminal.help console
  | .quit => world.finishConsole none console
  | .unknown name => world.listen (Terminal.unknownText name) console

/-- What is wrong with the octets of a line. -/
def notText (octets : List UInt8) : String :=
  match Text.Utf8.fault? octets with
  | none => ""
  | some (index, size) =>
      "invalid utf-8 sequence of " ++ Nat.repr size ++ " bytes from index " ++ Nat.repr index

/-- The states that were published, then the notices, then an interruption. -/
def watchTurn (console : Console) (world : World) : Option World :=
  let published := (world.session.map (·.published)).getD 0
  let stopped := (world.session.map (·.stopped)).getD true
  if console.seen ≠ published then
    some (world.setConsole (console.display published world.conversation))
  else if stopped then some (world.finishConsole none console)
  else match if console.noticesOpen then world.dispatcher.notices.bind Channel.take? else none with
    | some (notice, channel) =>
        let dispatcher := { world.dispatcher with notices := some channel }
        let console := console.print (Terminal.noticeText notice)
        some ({ world with dispatcher }.setConsole console)
    | none =>
        if console.noticesOpen && world.ended then
          some (world.setConsole { console with noticesOpen := false })
        else if console.interrupted then some (world.finishConsole none console)
        else none

/-- Lines go first. -/
def listenTurn (console : Console) (world : World) : Option World :=
  match console.takeLine with
  | (.line octets, console) =>
      match Text.Utf8.decode octets with
      | some line => some (world.runCommand (Command.parse line) console)
      | none => some (world.finishConsole (some (notText octets)) console)
  | (.finished, console) => some (world.finishConsole none console)
  | (.nothing, console) => world.watchTurn console

/-- The history arrived, or it did not. -/
def fetched (result : Except Session.ServiceError (List Json)) (console : Console)
    (world : World) : World :=
  match result with
  | .ok records =>
      (world.setConsole { console with stage := .loading }).request .console
        (.dispatch (.loadHistory records))
  | .error error => world.listen (Terminal.notLoadedText (.service error)) console

def fetchTurn (retries due : Nat) (console : Console) (world : World) : Option World :=
  if world.now < due then none
  else match world.service.remote with
    | none => some (world.fetched world.service.history console)
    | some messages =>
        match world.service.attempt messages world.now .history retries with
        | (.waiting retries due, service) =>
            some ({ world with service }.setConsole { console with stage := .fetching retries due })
        | (.done result, service) =>
            some ({ world with service }.fetched (recordsOf result) console)

/-- What the terminal does with an answer. -/
def answered (answer : Answer) (console : Console) (world : World) : World :=
  match console.stage, answer with
  | .acting, .closed => world.listen (Terminal.failureText .closed) console
  | .loading, .closed => world.listen (Terminal.notLoadedText .closed) console
  | .loading, _ => world.listen (Terminal.loadedText world.conversation.messages.length) console
  | .turning visibility, _ => world.listen (Terminal.visibilityText visibility) console
  | .reporting status, .report connection =>
      world.listen (Terminal.statusText status world.dispatcher.settings.endpoint (.ok connection)
        world.dispatcher.connection.counters) console
  | .reporting status, _ =>
      world.listen (Terminal.statusText status world.dispatcher.settings.endpoint (.error .closed)
        world.dispatcher.connection.counters) console
  | _, _ => world.listen "" console

def consoleTurn (world : World) : Option World :=
  match world.console with
  | none => none
  | some console =>
      match console.stage with
      | .finished _ => none
      | .starting =>
          let console := { console with stage := .listening }.print Terminal.greeting
          let published := (world.session.map (·.published)).getD 0
          some (world.setConsole (console.display published world.conversation))
      | .listening => world.listenTurn console
      | .fetching retries due => world.fetchTurn retries due console
      | _ =>
          match world.consoleAnswer with
          | none => none
          | some answer => some ({ world with consoleAnswer := none }.answered answer console)

/-! Taking turns. -/

def turn (task : Task) (world : World) : Option World :=
  match task with
  | .connection => world.connectionTurn
  | .session => world.sessionTurn
  | .changes => world.changesTurn
  | .console => world.consoleTurn
  | .job index => world.jobTurn index

def serve (task : Task) : Nat → World → World
  | 0, world => world.wake task
  | count + 1, world =>
      match world.turn task with
      | none => world
      | some next => serve task count next

def settleWithin : Nat → World → World
  | 0, world => world
  | count + 1, world =>
      match world.ready with
      | [] => world
      | task :: ready => settleWithin count (serve task share { world with ready })

/-- Lets every task go on until none can without time passing. -/
def settle (world : World) : World := settleWithin maxTurns world

/-! The clock. -/

def jobAlarms (world : World) : List (Nat × Task) :=
  world.jobs.zipIdx.filterMap fun (job, index) =>
    match job.stage with
    | .waiting _ due => some (due, .job index)
    | _ => none

/-- The alarms that are set, with the tasks they wake. -/
def alarms (world : World) : List (Nat × Task) :=
  let connection := world.dispatcher.connection
  let timers := if world.ended then [] else
    [connection.reconnectAt, connection.inactivityAt].filterMap fun alarm =>
      alarm.map fun nanoseconds => (tick nanoseconds, Task.connection)
  let opening := match world.line with
    | some (.opening due _ _) => [(due, Task.connection)]
    | _ => []
  let fetching := match world.console.map (·.stage) with
    | some (.fetching _ due) => [(due, Task.console)]
    | _ => []
  timers ++ opening ++ world.jobAlarms ++ fetching

def nextAlarm? (world : World) : Option Nat :=
  ((world.alarms.map Prod.fst).filter (world.now < ·)).min?

/-- The clock moves on and wakes those whose alarm went off. -/
def wakeAt (now : Nat) (world : World) : World :=
  let due := (world.alarms.filter fun (alarm, _) => world.now < alarm && alarm ≤ now)
  due.foldl (fun world (_, task) => world.wake task) { world with now }

/-- Moves the clock from alarm to alarm. -/
def advanceFrom (now target : Nat) (world : World) : World :=
  match world.nextAlarm? with
  | some alarm =>
      if _between : now < alarm ∧ alarm ≤ target then
        advanceFrom alarm target (world.wakeAt alarm).settle
      else world.wakeAt target
  | none => world.wakeAt target
  termination_by target - now

def advanceTo (time : Nat) (world : World) : World := world.advanceFrom world.now time

end World

end LiveChat.Rehearsal
