import LiveChat.Json.Record

/-!
Events that the server pushes, and where each one is delivered.
-/

set_option autoImplicit false

namespace LiveChat.Stream

/-- A record on the server changed. -/
structure Change where
  resource : String
  id : String
  action : String
  deriving DecidableEq, Repr

inductive Event where
  | chatToken (text : String)
  | chatDone (messageId : String)
  | toolStart (tool : String) (args : Json.Fields)
  | toolResult (tool : String) (success : Bool)
  | dataChanged (change : Change)
  | heartbeat
  deriving BEq, Repr

inductive ChatEvent where
  | token (text : String)
  | done (messageId : Option String)
  | toolStart (tool : String) (args : Json)
  | toolResult (tool : String) (success : Bool)
  deriving BEq, Repr

inductive Route where
  | chat (event : ChatEvent)
  | change (change : Change)
  | keepalive
  deriving BEq, Repr

def maxToolName : Nat := 128

def toolNameOk (tool : String) : Bool := tool ≠ "" && tool.utf8ByteSize ≤ maxToolName

namespace Event

/-- The constraints beside the shape of an event. -/
def valid : Event → Bool
  | toolStart tool _ => toolNameOk tool
  | toolResult tool _ => toolNameOk tool
  | dataChanged change => change.resource ≠ "" && change.action ≠ ""
  | _ => true

def route : Event → Route
  | chatToken text => .chat (.token text)
  | chatDone messageId => .chat (.done (if messageId = "" then none else some messageId))
  | toolStart tool args => .chat (.toolStart tool (.object args))
  | toolResult tool success => .chat (.toolResult tool success)
  | dataChanged change => .change change
  | heartbeat => .keepalive

def textSlot (slot : Option Json) : Option String := slot.bind Json.text?

/-- The event with this tag, from the values at its fields' places. -/
def ofSlots (tag : String) (slotsOf : List String → Option (List (Option Json))) : Option Event :=
  if tag = "chat_token" then do
    let [text] ← slotsOf ["text"] | none
    some (chatToken (← textSlot text))
  else if tag = "chat_done" then do
    let [messageId] ← slotsOf ["message_id"] | none
    some (chatDone (← textSlot messageId))
  else if tag = "tool_start" then do
    let [tool, args] ← slotsOf ["tool", "args"] | none
    some (toolStart (← textSlot tool) (← args.bind Json.fields?))
  else if tag = "tool_result" then do
    let [tool, success] ← slotsOf ["tool", "success"] | none
    some (toolResult (← textSlot tool) (← success.bind Json.bool?))
  else if tag = "data_changed" then do
    let [resource, id, action] ← slotsOf ["resource", "id", "action"] | none
    some (dataChanged ⟨← textSlot resource, ← textSlot id, ← textSlot action⟩)
  else if tag = "heartbeat" then do
    let [] ← slotsOf [] | none
    some heartbeat
  else none

/-- An object with the tag under `type`, or an array that the tag starts. -/
def ofJson? : Json → Option Event
  | .object fields => do
      let tag ← textSlot (Json.Fields.get? fields "type")
      ofSlots tag fun names => Json.slots names (.object fields)
  | .array (tag :: items) => do
      ofSlots (← tag.text?) fun names => Json.slots names (.array items)
  | _ => none

def toJson : Event → Json
  | chatToken text => .ofFields [("type", .string "chat_token"), ("text", .string text)]
  | chatDone messageId =>
      .ofFields [("type", .string "chat_done"), ("message_id", .string messageId)]
  | toolStart tool args =>
      .ofFields [("type", .string "tool_start"), ("tool", .string tool), ("args", .object args)]
  | toolResult tool success =>
      .ofFields [("type", .string "tool_result"), ("tool", .string tool),
        ("success", .bool success)]
  | dataChanged change =>
      .ofFields [("type", .string "data_changed"), ("resource", .string change.resource),
        ("id", .string change.id), ("action", .string change.action)]
  | heartbeat => .ofFields [("type", .string "heartbeat")]

end Event

namespace Change

def ofJson? (value : Json) : Option Change := do
  let [resource, id, action] ← value.slots ["resource", "id", "action"] | none
  some ⟨← resource.bind Json.text?, ← id.bind Json.text?, ← action.bind Json.text?⟩

def toJson (change : Change) : Json :=
  .ofFields [("resource", .string change.resource), ("id", .string change.id),
    ("action", .string change.action)]

end Change

end LiveChat.Stream
