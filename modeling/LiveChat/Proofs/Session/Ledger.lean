import LiveChat.Proofs.Session.Runs
import LiveChat.Stream.Channel

/-!
A session with all that goes into it: the calls of any number of handles, the outcomes that are
reported, and the events of the queues it listens to. The ledger keeps what each source handed in,
what each call came back with, and what was taken, in the order in which it happened. Which of
them comes next is left open.
-/

set_option autoImplicit false

namespace LiveChat.Session

open Conversation (Action Message State)
open LiveChat.Stream (Channel ChatEvent)

structure Call where
  handle : Nat
  command : Command

/-- Where an action comes from. -/
inductive Source where
  | call (number : Nat)
  | outcomes
  | queue (place : Nat)
  deriving DecidableEq

structure Entry where
  stamp : Message.Stamp
  action : Action
  source : Source

structure Ledger where
  session : Session Nat
  /-- Every call that was made. Its number is its place. -/
  calls : List Call
  /-- The calls that came back, and with what. -/
  returned : List (Nat × Except SessionError Unit)
  /-- The actions that were taken, oldest first. -/
  taken : List Entry
  reported : List Action
  queues : List (Channel ChatEvent)
  /-- What was sent, and to which queue. -/
  sent : List (Nat × ChatEvent)

namespace Ledger

def new : Ledger :=
  { session := .new, calls := [], returned := [], taken := [], reported := [], queues := []
    sent := [] }

/-- A session that has stopped answers at once. -/
def call (handle : Nat) (command : Command) (ledger : Ledger) : Ledger :=
  let number := ledger.calls.length
  let made : Ledger := { ledger with calls := ledger.calls ++ [⟨handle, command⟩] }
  match ledger.session.ask? number command with
  | none => { made with returned := ledger.returned ++ [(number, .error .closed)] }
  | some session => { made with session }

def report (action : Action) (ledger : Ledger) : Ledger :=
  { ledger with
    session := ledger.session.report action, reported := ledger.reported ++ [action] }

def openQueue (capacity : Nat) (ledger : Ledger) : Ledger :=
  { ledger with queues := ledger.queues ++ [.new capacity] }

def send (place : Nat) (event : ChatEvent) (channel : Channel ChatEvent) (ledger : Ledger) :
    Ledger :=
  { ledger with queues := ledger.queues.set place channel, sent := ledger.sent ++ [(place, event)] }

/-- What a queue that is listened to, if there is one, becomes. -/
def onQueue (place : Option Nat) (change : Channel ChatEvent → Channel ChatEvent)
    (queues : List (Channel ChatEvent)) : List (Channel ChatEvent) :=
  match place with
  | none => queues
  | some place => queues.modify place change

def withoutFirst (channel : Channel ChatEvent) : Channel ChatEvent :=
  { channel with items := channel.items.tail }

def source? (session : Session Nat) : Input Nat → Option Source
  | .request request => some (.call request.caller)
  | .outcome _ => some .outcomes
  | .event _ => session.events.map .queue
  | .silence => none

def entryOf? (stamp : Message.Stamp) (input : Input Nat) (session : Session Nat) : Option Entry :=
  match input.action?, source? session input with
  | some action, some source => some ⟨stamp, action, source⟩
  | _, _ => none

/-- The session takes an input. An event that was heard is gone from its queue, and a queue that is
not listened to any more is given up. -/
def take (stamp : Message.Stamp) (input : Input Nat) (session : Session Nat) (ledger : Ledger) :
    Ledger :=
  let turn := session.take stamp input
  let queues := match input with
    | .event _ => onQueue session.events withoutFirst ledger.queues
    | _ => ledger.queues
  { ledger with
    session := turn.session
    returned := ledger.returned ++ (turn.served.toList.map fun number => (number, .ok ())) ++
      turn.refused.map fun number => (number, .error .closed)
    taken := ledger.taken ++ (entryOf? stamp input session).toList
    queues := onQueue turn.left Channel.drop queues }

/-- What the session may hear. A queue ends when it is empty and nobody can send to it. -/
def Offers (ledger : Ledger) : Offer → Prop
  | .nothing => True
  | .event event => ∃ place channel rest, ledger.session.events = some place ∧
      ledger.queues[place]? = some channel ∧ channel.take? = some (event, rest)
  | .ended => ∃ place, ledger.session.events = some place ∧
      ∀ channel, ledger.queues[place]? = some channel → channel.items = []

/-- The last handle is gone, so the session stops once nothing is asked of it. -/
def abandon (ledger : Ledger) : Ledger :=
  { ledger with
    session :=
      { ledger.session with requests := [], outcomes := [], events := none, stopped := true }
    queues := onQueue ledger.session.events Channel.drop ledger.queues }

inductive Step : Ledger → Ledger → Prop where
  | call {ledger : Ledger} (handle : Nat) (command : Command) :
      Step ledger (ledger.call handle command)
  | report {ledger : Ledger} (action : Action) : Step ledger (ledger.report action)
  | openQueue {ledger : Ledger} (capacity : Nat) : Step ledger (ledger.openQueue capacity)
  | send {ledger : Ledger} {place : Nat} {event : ChatEvent} {channel next : Channel ChatEvent}
      (found : ledger.queues[place]? = some channel) (sent : channel.offer event = .sent next) :
      Step ledger (ledger.send place event next)
  | take {ledger : Ledger} {session : Session Nat} {input : Input Nat} {offer : Offer}
      (stamp : Message.Stamp) (offers : ledger.Offers offer)
      (next : ledger.session.next? offer = some (input, session)) :
      Step ledger (ledger.take stamp input session)
  | abandon {ledger : Ledger} (idle : ledger.session.requests = []) : Step ledger ledger.abandon

inductive Reached : Ledger → Prop where
  | start : Reached new
  | next {before after : Ledger} (reached : Reached before) (step : Step before after) :
      Reached after

theorem call_frame (handle : Nat) (command : Command) (ledger : Ledger) :
    ledger.call handle command =
      { ledger with
        session :=
          { ledger.session with
            requests := ledger.session.requests ++
              if ledger.session.stopped then [] else [⟨ledger.calls.length, command⟩] }
        calls := ledger.calls ++ [⟨handle, command⟩]
        returned := ledger.returned ++
          if ledger.session.stopped then [(ledger.calls.length, .error .closed)] else [] } := by
  obtain ⟨⟨_, _, _, _, _, stopped⟩, _⟩ := ledger
  cases stopped <;> simp [call, ask?]

theorem report_frame (action : Action) (ledger : Ledger) :
    ledger.report action =
      { ledger with
        session :=
          { ledger.session with
            outcomes := ledger.session.outcomes ++
              if ledger.session.stopped then [] else [action] }
        reported := ledger.reported ++ [action] } := by
  obtain ⟨⟨_, _, _, _, _, stopped⟩, _⟩ := ledger
  cases stopped <;> simp [report, Session.report]

/-- What a turn of the session can be. -/
inductive Turns (stamp : Message.Stamp) (ledger : Ledger) : Ledger → Prop where
  | dispatch {number : Nat} {action : Action} {later : List (Request Nat)}
      (first : ledger.session.requests = ⟨number, .dispatch action⟩ :: later) :
      Turns stamp ledger
        { ledger with
          session :=
            { ledger.session with
              requests := later, state := (ledger.session.state.apply stamp action).1
              published := ledger.session.published + 1 }
          returned := ledger.returned ++ [(number, .ok ())]
          taken := ledger.taken ++ [⟨stamp, action, .call number⟩] }
  | listen {number : Nat} {command : Command} {later : List (Request Nat)} (events : Option Nat)
      (first : ledger.session.requests = ⟨number, command⟩ :: later)
      (idle : command.action? = none) :
      Turns stamp ledger
        { ledger with
          session := { ledger.session with requests := later, events }
          returned := ledger.returned ++ [(number, .ok ())]
          queues := onQueue ledger.session.events Channel.drop ledger.queues }
  | stop {number : Nat} {later : List (Request Nat)}
      (first : ledger.session.requests = ⟨number, .shutdown⟩ :: later) :
      Turns stamp ledger
        { ledger with
          session :=
            { ledger.session with requests := [], outcomes := [], events := none, stopped := true }
          returned := ledger.returned ++ [(number, .ok ())] ++
            later.map fun request => (request.caller, .error .closed)
          queues := onQueue ledger.session.events Channel.drop ledger.queues }
  | outcome {action : Action} {later : List Action} (idle : ledger.session.requests = [])
      (first : ledger.session.outcomes = action :: later) :
      Turns stamp ledger
        { ledger with
          session :=
            { ledger.session with
              outcomes := later, state := (ledger.session.state.apply stamp action).1
              published := ledger.session.published + 1 }
          taken := ledger.taken ++ [⟨stamp, action, .outcomes⟩] }
  | event {place : Nat} {event : ChatEvent} {channel rest : Channel ChatEvent}
      (listening : ledger.session.events = some place)
      (found : ledger.queues[place]? = some channel) (first : channel.take? = some (event, rest)) :
      Turns stamp ledger
        { ledger with
          session :=
            { ledger.session with
              state := (ledger.session.state.apply stamp (.ofChat event)).1
              published := ledger.session.published + 1 }
          taken := ledger.taken ++ [⟨stamp, .ofChat event, .queue place⟩]
          queues := ledger.queues.modify place withoutFirst }
  | silence :
      Turns stamp ledger { ledger with session := { ledger.session with events := none } }

theorem apply_turn (stamp : Message.Stamp) (action : Action) (session : Session Nat) :
    session.apply stamp action =
      { session :=
          { session with
            state := (session.state.apply stamp action).1, published := session.published + 1 }
        submission := (session.state.apply stamp action).2
        served := none, refused := [], left := none } := by
  simp only [apply, turnOf]

theorem take_turns {ledger : Ledger} {session : Session Nat} {input : Input Nat} {offer : Offer}
    (stamp : Message.Stamp) (offers : ledger.Offers offer)
    (next : ledger.session.next? offer = some (input, session)) :
    ledger.session.stopped = false ∧ Turns stamp ledger (ledger.take stamp input session) := by
  have alive := (next_frame next).1
  refine ⟨alive, ?_⟩
  simp only [next?, alive, Bool.false_eq_true, if_false] at next
  split at next
  · next request later first =>
    cases next
    obtain ⟨number, command⟩ := request
    cases command with
    | dispatch action =>
        have turn := @Turns.dispatch stamp _ _ _ _ first
        simpa [take, Session.take, perform, apply_turn, entryOf?, source?, Input.action?,
          Command.action?, onQueue, alive] using turn
    | attach queue =>
        have turn := @Turns.listen stamp _ _ _ _ (some queue) first rfl
        simpa [take, Session.take, perform, turnOf, entryOf?, Input.action?, Command.action?,
          alive] using turn
    | detach =>
        have turn := @Turns.listen stamp _ _ _ _ none first rfl
        simpa [take, Session.take, perform, turnOf, entryOf?, Input.action?, Command.action?,
          alive] using turn
    | shutdown =>
        have turn := @Turns.stop stamp _ _ _ first
        simpa [take, Session.take, perform, turnOf, entryOf?, Input.action?, Command.action?,
          Function.comp_def, alive] using turn
  · next action later idle first =>
    cases next
    have turn := @Turns.outcome stamp _ _ _ idle first
    simpa [take, Session.take, apply_turn, entryOf?, source?, Input.action?, onQueue, alive]
      using turn
  · next event idle none =>
    cases next
    obtain ⟨place, channel, rest, listening, found, first⟩ := offers
    have turn := @Turns.event stamp _ _ _ _ _ listening found first
    simpa [take, Session.take, apply_turn, entryOf?, source?, Input.action?, onQueue,
      listening] using turn
  · next idle none =>
    cases next
    have turn := @Turns.silence stamp ledger
    simpa [take, Session.take, turnOf, entryOf?, Input.action?, onQueue] using turn
  · cases next

end Ledger

end LiveChat.Session
