import LiveChat.Rehearsal.Operator

/-!
A rehearsal step by step. Feeds have names; after each step all tasks go on as far as they can,
and what changed since the last look can be seen.
-/

set_option autoImplicit false

namespace LiveChat.Rehearsal

open LiveChat.Stream (Connection StreamError Change Status)
open Session (ServiceError SessionError)

inductive Step where
  | planFeed (feed : String) (delay : Nat)
  | planFailures (count delay : Nat)
  | planFailure (error : StreamError) (delay : Nat)
  /-- An answer over HTTP, with the name of the feed that its body comes over. -/
  | planReply (reply : Http.Reply) (feed : Option String) (delay : Nat)
  | push (feed : String) (payloads : List String)
  | fail (feed : String) (reason : String)
  | close (feed : String)
  | sendPart (feed : String) (octets : List UInt8)
  | breakBody (feed : String)
  | signal (signal : Connection.Signal)
  | dropHandle
  | setChat (capacity : Option Nat)
  | advance (millis : Nat)
  | receive (family : Family) (allowed : Nat)
  | dropReceiver (family : Family)
  | ask (command : Session.Command)
  | attach
  | detach
  | refresh
  | hold
  | release
  | reply (reply : Except ServiceError String)
  | history (history : Except ServiceError (List Json))
  | respond (reply : Http.Reply)
  | typeLine (octets : List UInt8)
  | endInput
  | interrupt

inductive Result where
  | done
  | truth (value : Bool)
  | truths (values : List Bool)
  | received (items : List Received)
  | loaded (count : Nat)
  | failed (error : SessionError)
  | noFeed
  | noHandle
  | noInput

/-- A rehearsal under way, with what was seen of it. -/
structure Play where
  operator : Operator
  /-- The feeds of payloads, and those that were closed, by name. -/
  listed : List (String × Nat)
  bodyFeeds : List (String × Nat)
  /-- The feeds that were closed. -/
  closed : List Nat
  inputEnded : Bool
  seenStatus : Nat
  seenState : Option Conversation.State
  seenRequests : Nat
  seenCalls : Nat

namespace Play

def begin (setup : Operator.Setup) : Play :=
  { operator := .begin setup, listed := [], bodyFeeds := [], closed := []
    inputEnded := false, seenStatus := 0, seenState := none, seenRequests := 0, seenCalls := 0 }

def named (feeds : List (String × Nat)) (name : String) (place : Nat) : List (String × Nat) :=
  feeds.filter (·.1 ≠ name) ++ [(name, place)]

def known? (play : Play) (name : String) : Option Nat :=
  (play.listed.lookup name).or (play.bodyFeeds.lookup name)

/-- The place of a feed that was not closed. -/
def feed? (play : Play) (name : String) : Option Nat :=
  (play.known? name).filter fun place => !play.closed.contains place

def give (play : Play) (result : Result) (operator : Operator) : Play × Result :=
  ({ play with operator }, result)

def onOperator (play : Play) (change : Operator → Operator) : Play × Result :=
  play.give .done (change play.operator)

/-- Needs a handle on the connection. -/
def byHandle (play : Play) (act : Operator → Result × Operator) : Play × Result :=
  if play.operator.world.handle then
    let (result, operator) := act play.operator
    play.give result operator
  else (play, .noHandle)

def send (play : Play) (name : String) (arrivals : List Arrival) (result : Bool → Result) :
    Play × Result :=
  match play.feed? name with
  | none => (play, .noFeed)
  | some place =>
      let (taken, operator) := play.operator.send place arrivals
      play.give (result taken) operator

def closeFeed (play : Play) (name : String) : Play × Result :=
  match play.known? name with
  | none => (play, .noFeed)
  | some place =>
      ({ play with
        closed := place :: play.closed, listed := named play.listed name place
        operator := play.operator.endFeed place }, .done)

def resultOf : Except SessionError Unit → Result
  | .ok () => .done
  | .error error => .failed error

def countOf : Except SessionError Nat → Result
  | .ok count => .loaded count
  | .error error => .failed error

def plan (play : Play) : Step → Play × Result
  | .planFeed name delay =>
      let (operator, place) := play.operator.planFeed delay
      ({ play with operator, listed := named play.listed name place }, .done)
  | .planFailures count delay => play.onOperator (·.planFailures count delay)
  | .planFailure error delay => play.onOperator (·.plan (.failure error) delay)
  | .planReply reply feed delay =>
      let (operator, place) := play.operator.planReply reply feed.isSome delay
      match feed with
      | none => ({ play with operator }, .done)
      | some name =>
          ({ play with operator, bodyFeeds := named play.bodyFeeds name place }, .done)
  | _ => (play, .done)

def perform (play : Play) (step : Step) : Play × Result :=
  match step with
  | .push name payloads =>
      play.send name (payloads.map .payload) fun taken => .truths (payloads.map fun _ => taken)
  | .fail name reason => play.send name [.failure (.broken reason)] fun _ => .done
  | .close name => play.closeFeed name
  | .sendPart name octets => play.send name [.part octets] .truth
  | .breakBody name => play.send name [.failure Http.EventSource.broken] .truth
  | .signal signal => play.byHandle fun operator => (.done, operator.signal signal)
  | .dropHandle => play.byHandle fun operator => (.done, operator.dropHandle)
  | .setChat capacity => play.byHandle fun operator => (.done, operator.setChat capacity)
  | .advance millis =>
      play.onOperator (·.onWorld fun world => world.advanceTo (world.now + millis))
  | .receive family allowed =>
      let (items, operator) := play.operator.receive family allowed
      play.give (.received items) operator
  | .dropReceiver family => play.onOperator (·.dropReceiver family)
  | .ask command =>
      let (result, operator) := play.operator.ask command
      play.give (resultOf result) operator
  | .attach => play.byHandle fun operator => operator.attach.map resultOf id
  | .detach => play.byHandle fun operator => operator.detach.map resultOf id
  | .refresh =>
      let (result, operator) := play.operator.refresh
      play.give (countOf result) operator
  | .hold => play.onOperator (·.onService fun service => { service with held := true })
  | .release => play.onOperator (·.release)
  | .reply reply =>
      play.onOperator (·.onService fun service =>
        { service with replies := service.replies ++ [reply] })
  | .history history => play.onOperator (·.onService fun service => { service with history })
  | .respond reply =>
      play.onOperator (·.onService fun service =>
        { service with responses := service.responses ++ [reply] })
  | .typeLine octets =>
      if play.inputEnded then (play, .noInput)
      else
        let (taken, operator) := play.operator.type octets
        play.give (.truth taken) operator
  | .endInput => { play with inputEnded := true }.onOperator (·.endInput)
  | .interrupt => play.onOperator (·.interrupt)
  | step => play.plan step

/-- One step, after which all tasks go on as far as they can. -/
def step (play : Play) (step : Step) : Play × Result :=
  let (play, result) := play.perform step
  ({ play with operator := play.operator.settle }, result)

/-- Reads all queues. -/
def drain (play : Play) : List Received × Play :=
  let (items, operator) := play.operator.drain
  (items, { play with operator })

/-- What can be seen of a session. -/
structure SessionView where
  /-- The state, if it is another one than was seen before. -/
  state : Option Conversation.State
  submitted : Nat
  lastSubmitted : Option String

/-- What can be seen. Requests and printed text are those since the last look. -/
structure View where
  now : Nat
  status : Status
  /-- Whether the status changed, unless the connection has come to its end. -/
  notified : Option Bool
  opens : Nat
  /-- The connection and its counters, if it can be reached. -/
  connection : Option (Except StreamError Connection × Stream.Counters)
  /-- Whether each feed was let go of, unless it was closed. -/
  feeds : List (String × Option Bool)
  requests : List Http.Request
  calls : List Http.Request
  session : Option SessionView
  changes : List Change
  console : Option Console

def feedView (play : Play) (place : Nat) : Option Bool :=
  if play.closed.contains place then none else some (play.operator.feed place).released

def sessionView (play : Play) : Option SessionView :=
  let world := play.operator.world
  world.session.map fun session =>
    let submitted := if world.service.remote.isSome then [] else world.service.submitted
    { state := if play.seenState == some session.state then none else some session.state
      submitted := submitted.length, lastSubmitted := submitted.head? }

def view (play : Play) : View :=
  let world := play.operator.world
  let connection := world.dispatcher.connection
  { now := world.now, status := connection.status
    notified := if world.ended then none else some (play.seenStatus < connection.statusChanges)
    opens := world.server.opens
    connection :=
      if world.handle then some (play.operator.snapshot, connection.counters) else none
    feeds := play.listed.map fun (name, place) => (name, play.feedView place)
    requests := world.server.requests.drop play.seenRequests
    calls := world.service.requests.drop play.seenCalls
    session := play.sessionView
    changes := (world.recent.map (·.entries)).getD []
    console := world.console }

/-- Takes note of what was seen. -/
def look (play : Play) : View × Play :=
  let world := play.operator.world
  let quiet := fun (world : World) =>
    { world with console := world.console.map fun console => { console with output := "" } }
  (play.view,
    { play with
      operator := play.operator.onWorld quiet
      seenStatus := world.dispatcher.connection.statusChanges
      seenState := world.session.map (·.state)
      seenRequests := world.server.requests.length
      seenCalls := world.service.requests.length })

end Play

end LiveChat.Rehearsal
