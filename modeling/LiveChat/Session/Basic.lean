import LiveChat.Conversation.Basic
import LiveChat.Session.Error

/-!
The owner of a conversation. It takes one input at a time: commands first, then the outcomes of
its submissions, then the chat events it listens to. Every action is published as one new state.
-/

set_option autoImplicit false

namespace LiveChat

open Conversation (Action State Submission Message)
open LiveChat.Stream (ChatEvent)

namespace Session

inductive Command where
  | dispatch (action : Action)
  /-- Listens to this queue of chat events instead of the one before. -/
  | attach (queue : Nat)
  | detach
  | shutdown

/-- A command with the one who waits for it to be carried out. -/
structure Request (Caller : Type) where
  caller : Caller
  command : Command

/-- What the queue that is listened to has to offer. -/
inductive Offer where
  | nothing
  | event (event : ChatEvent)
  | ended

inductive Input (Caller : Type) where
  | request (request : Request Caller)
  | outcome (action : Action)
  | event (event : ChatEvent)
  /-- No more events will come. -/
  | silence

end Session

structure Session (Caller : Type) where
  state : State
  /-- How often a state was published. -/
  published : Nat
  requests : List (Session.Request Caller)
  outcomes : List Action
  /-- The queue of chat events that is listened to. -/
  events : Option Nat
  stopped : Bool

/-- A session after an input, and what that means for others. -/
structure Session.Turn (Caller : Type) where
  session : Session Caller
  submission : Option Submission
  /-- Whose command was carried out. -/
  served : Option Caller
  /-- Those whose commands never will be. -/
  refused : List Caller
  /-- The queue that is not listened to any more. -/
  left : Option Nat

namespace Session

variable {Caller : Type}

def new : Session Caller :=
  { state := .empty, published := 0, requests := [], outcomes := [], events := none
    stopped := false }

def Command.action? : Command → Option Action
  | .dispatch action => some action
  | _ => none

/-- The action that an input stands for. -/
def Input.action? : Input Caller → Option Action
  | .request asked => asked.command.action?
  | .outcome action => some action
  | .event heard => some (.ofChat heard)
  | .silence => none

/-- The next input, and the session that is about to take it. -/
def next? (offer : Offer) (session : Session Caller) : Option (Input Caller × Session Caller) :=
  if session.stopped then none
  else match session.requests, session.outcomes, offer with
    | request :: requests, _, _ => some (.request request, { session with requests })
    | [], action :: outcomes, _ => some (.outcome action, { session with outcomes })
    | [], [], .event event => some (.event event, session)
    | [], [], .ended => some (.silence, session)
    | [], [], .nothing => none

def turnOf (session : Session Caller) : Turn Caller :=
  { session, submission := none, served := none, refused := [], left := none }

def apply (stamp : Message.Stamp) (action : Action) (session : Session Caller) : Turn Caller :=
  let (state, submission) := session.state.apply stamp action
  { turnOf { session with state, published := session.published + 1 } with submission }

/-- Carries out one command. -/
def perform (stamp : Message.Stamp) (command : Command) (session : Session Caller) : Turn Caller :=
  match command with
  | .dispatch action => session.apply stamp action
  | .attach queue => { turnOf { session with events := some queue } with left := session.events }
  | .detach => { turnOf { session with events := none } with left := session.events }
  | .shutdown =>
      { turnOf { session with requests := [], outcomes := [], events := none, stopped := true } with
        refused := session.requests.map (·.caller), left := session.events }

def take (stamp : Message.Stamp) (input : Input Caller) (session : Session Caller) : Turn Caller :=
  match input with
  | .request request =>
      { session.perform stamp request.command with served := some request.caller }
  | .outcome action => session.apply stamp action
  | .event event => session.apply stamp (.ofChat event)
  | .silence => turnOf { session with events := none }

/-- Hands over a command, unless the session has stopped. -/
def ask? (caller : Caller) (command : Command) (session : Session Caller) :
    Option (Session Caller) :=
  if session.stopped then none
  else some { session with requests := session.requests ++ [{ caller, command }] }

/-- What a submission led to. -/
def outcome (submission : Submission) : Except ServiceError String → Action
  | .ok serverId => .sendAccepted submission.localId serverId
  | .error error => .sendFailed error.message

/-- A session that has stopped hears of nothing. -/
def report (action : Action) (session : Session Caller) : Session Caller :=
  if session.stopped then session else { session with outcomes := session.outcomes ++ [action] }

end Session

end LiveChat
