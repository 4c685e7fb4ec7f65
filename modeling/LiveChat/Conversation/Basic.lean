import LiveChat.Conversation.History

/-!
The conversation and what can happen to it. An action gives the next conversation and at most
one submission, which is for the owner to carry out. An action that does not apply leaves
everything as it is.
-/

set_option autoImplicit false

namespace LiveChat.Conversation

inductive Action where
  | send (text : String)
  | sendAccepted (localId serverId : String)
  | sendFailed (error : String)
  | token (text : String)
  | toolStarted (tool : String) (args : Json)
  | toolFinished (tool : String) (success : Bool)
  | done (messageId : Option String)
  | loadHistory (records : List Json)
  | clear
  deriving BEq, Repr

namespace Action

def kind : Action → String
  | send _ => "send"
  | sendAccepted _ _ => "send_accepted"
  | sendFailed _ => "send_failed"
  | token _ => "token"
  | toolStarted _ _ => "tool_started"
  | toolFinished _ _ => "tool_finished"
  | done _ => "done"
  | loadHistory _ => "load_history"
  | clear => "clear"

def ofChat : Stream.ChatEvent → Action
  | .token text => token text
  | .done messageId => done messageId
  | .toolStart tool args => toolStarted tool args
  | .toolResult tool success => toolFinished tool success

end Action

/-- A message of the user that is to be handed to the server. -/
structure Submission where
  localId : String
  content : String
  deriving DecidableEq, Repr

structure State where
  messages : List Message
  /-- A send is under way or a reply is arriving. -/
  streaming : Bool
  /-- How often the whole list was replaced. -/
  epoch : Nat
  /-- The messages added since then, those that were dropped again included. -/
  appended : Nat
  deriving BEq, Repr

namespace State

def empty : State := { messages := [], streaming := false, epoch := 0, appended := 0 }

instance : Inhabited State := ⟨empty⟩

def last? (state : State) : Option Message := state.messages.getLast?

def updateFirst {Item : Type} (test : Item → Bool) (change : Item → Item) :
    List Item → List Item
  | [] => []
  | item :: rest =>
      if test item then change item :: rest else item :: updateFirst test change rest

/-- Changes the last item that satisfies the test. -/
def updateLast {Item : Type} (test : Item → Bool) (change : Item → Item) (items : List Item) :
    List Item :=
  (updateFirst test change items.reverse).reverse

theorem updateLast_append {Item : Type} (test : Item → Bool) (change : Item → Item)
    (items : List Item) (last : Item) :
    updateLast test change (items ++ [last]) =
      if test last then items ++ [change last] else updateLast test change items ++ [last] := by
  by_cases passes : test last <;> simp [updateLast, updateFirst, passes]

def push (state : State) (message : Message) : State :=
  { state with messages := state.messages ++ [message], appended := state.appended + 1 }

def replace (state : State) (messages : List Message) : State :=
  { messages, streaming := false, epoch := state.epoch + 1, appended := messages.length }

/-- Ends the reply that is arriving; it takes the server's identifier if there is one. -/
def finalize (state : State) (serverId : Option String) : State :=
  { state with messages := state.messages.map fun message =>
      if message.streaming then
        { message with streaming := false, id := serverId.getD message.id }
      else message }

def openReply? (state : State) : Option Message := state.last?.filter Message.isOpenReply

def setLast (state : State) (message : Message) : State :=
  { state with messages := state.messages.dropLast ++ [message] }

def send (stamp : Message.Stamp) (text : String) (state : State) : State × Option Submission :=
  let content := Text.trim text
  if content = "" ∨ maxInput < content.utf8ByteSize ∨ state.streaming then (state, none)
  else
    let sent := state.push (.plain stamp .user content)
    ({ sent with streaming := true }, some { localId := stamp.id, content })

def accept (localId serverId : String) (state : State) : State :=
  let sent := fun (message : Message) => message.role = .user && message.id = localId
  let renamed := fun (message : Message) => { message with id := serverId }
  if validId serverId then { state with messages := updateLast sent renamed state.messages }
  else state

def failSend (stamp : Message.Stamp) (error : String) (state : State) : State :=
  let ended := { state.finalize none with streaming := false }
  ended.push (.plain stamp .system ("Failed to send message: " ++ error))

def token (stamp : Message.Stamp) (text : String) (state : State) : State :=
  match state.openReply? with
  | some reply =>
      if maxContent < reply.content.utf8ByteSize + text.utf8ByteSize then state
      else { state.setLast { reply with content := reply.content ++ text } with streaming := true }
  | none =>
      if maxContent < text.utf8ByteSize then state
      else { state.push (.reply stamp text) with streaming := true }

def toolStarted (tool : String) (args : Json) (state : State) : State :=
  match state.openReply? with
  | some reply =>
      if reply.tools.length < maxTools then
        state.setLast { reply with
          tools := reply.tools ++ [{ tool, args := capToolArgs args, status := .running }] }
      else state
  | none => state

/-- The newest running call of this name ends, also on a reply that is complete. -/
def toolFinished (tool : String) (success : Bool) (state : State) : State :=
  let running := fun (call : ToolCall) => call.tool = tool && call.status = .running
  let ended := fun (call : ToolCall) =>
    { call with status := if success then ToolStatus.success else ToolStatus.error }
  match state.last?.filter (·.role = .agent) with
  | some reply => state.setLast { reply with tools := updateLast running ended reply.tools }
  | none => state

def done (messageId : Option String) (state : State) : State :=
  { state.finalize (messageId.filter validId) with streaming := false }

/-- What an action does before the oldest messages are dropped. -/
def perform (stamp : Message.Stamp) (action : Action) (state : State) :
    State × Option Submission :=
  match action with
  | .send text => state.send stamp text
  | .sendAccepted localId serverId => (state.accept localId serverId, none)
  | .sendFailed error => (state.failSend stamp error, none)
  | .token text => (state.token stamp text, none)
  | .toolStarted tool args => (state.toolStarted tool args, none)
  | .toolFinished tool success => (state.toolFinished tool success, none)
  | .done messageId => (state.done messageId, none)
  | .loadHistory records => (state.replace (ofRecords records), none)
  | .clear => (state.replace [], none)

/-- The stamp goes to the message that the action makes, if it makes one. -/
def apply (stamp : Message.Stamp) (action : Action) (state : State) :
    State × Option Submission :=
  let (next, submission) := state.perform stamp action
  ({ next with messages := newest next.messages }, submission)

end State

end LiveChat.Conversation
