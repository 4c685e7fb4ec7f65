import LiveChat.Conversation.Limits
import LiveChat.Conversation.Message
import LiveChat.Stream.Event

/-!
Conversations as the server records them. A record is loosely typed JSON and is judged alone: it
becomes a message within the limits or is left out.
-/

set_option autoImplicit false

namespace LiveChat.Conversation

namespace Message

def idOfRecord? : Json → Option String
  | .string id => if validId id then some id else none
  | .integer value =>
      let id := String.ofList (Json.integerChars value)
      if validId id then some id else none
  | _ => none

def timeOfRecord? : Json → Option Time.Instant
  | .string text => Time.Instant.parse text
  | .integer millis =>
      if millis ≤ Json.largestSigned then Time.Instant.ofMillis? millis else none
  | _ => none

/-- A missing list is empty, and bad items are left out; the rest counts up to the cap. -/
def listOfRecord? {Item : Type} (item : Json → Option Item) (cap : Nat) :
    Option Json → Option (List Item)
  | none => some []
  | some .null => some []
  | some (.array items) => some ((items.filterMap item).take cap)
  | some _ => none

end Message

def ToolCall.ofRecord? (record : Json) : Option ToolCall := do
  let tool ← (← record.field? "tool").text?
  if !Stream.toolNameOk tool then none
  let args ← match record.field? "args" with
    | none => some (.object [])
    | some .null => some (.object [])
    | some (.object fields) => some (capToolArgs (.object fields))
    | some _ => none
  let status ← match record.field? "status" with
    | none => some .success
    | some status => status.text?.bind ToolStatus.parse
  some { tool, args, status }

def Card.ofRecord? (record : Json) : Option Card := do
  let kind ← (← record.field? "type").text?.bind CardKind.parse
  let data ← record.field? "data"
  if data.isObject && data.size ≤ maxCardData then some { kind, data } else none

def Message.ofRecord? (record : Json) : Option Message := do
  let fields ← record.fields?
  some
    { id := ← (← fields.get? "id") |> idOfRecord?
      role := ← (← fields.get? "role").text?.bind Role.parse
      content := cutText maxContent (← (← fields.get? "content").text?)
      timestamp := ← (← fields.get? "timestamp") |> timeOfRecord?
      streaming := false
      tools := ← listOfRecord? ToolCall.ofRecord? maxTools (fields.get? "tools")
      cards := ← listOfRecord? Card.ofRecord? maxCards (fields.get? "cards") }

/-- The messages of the newest good records, oldest first. -/
def ofRecords (records : List Json) : List Message := newest (records.filterMap Message.ofRecord?)

end LiveChat.Conversation
