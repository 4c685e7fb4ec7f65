import LiveChat.Json.Record
import LiveChat.Time.Instant

/-!
Messages of a conversation, with the tool calls and cards that a reply carries.
-/

set_option autoImplicit false

namespace LiveChat.Conversation

inductive Role where
  | user
  | agent
  | system
  deriving DecidableEq, Repr

namespace Role

def label : Role → String
  | user => "user"
  | agent => "agent"
  | system => "system"

def parse (label : String) : Option Role := [user, agent, system].find? (·.label = label)

theorem parse_label (role : Role) : parse role.label = some role := by cases role <;> decide

end Role

inductive ToolStatus where
  | running
  | success
  | error
  deriving DecidableEq, Repr

namespace ToolStatus

def label : ToolStatus → String
  | running => "running"
  | success => "success"
  | error => "error"

def parse (label : String) : Option ToolStatus :=
  [running, success, error].find? (·.label = label)

theorem parse_label (status : ToolStatus) : parse status.label = some status := by
  cases status <;> decide

end ToolStatus

inductive CardKind where
  | posting
  | application
  | resume
  | persona
  deriving DecidableEq, Repr

namespace CardKind

def label : CardKind → String
  | posting => "posting"
  | application => "application"
  | resume => "resume"
  | persona => "persona"

def parse (label : String) : Option CardKind :=
  [posting, application, resume, persona].find? (·.label = label)

theorem parse_label (kind : CardKind) : parse kind.label = some kind := by cases kind <;> decide

end CardKind

structure ToolCall where
  tool : String
  args : Json
  status : ToolStatus
  deriving BEq, Repr

structure Card where
  kind : CardKind
  data : Json
  deriving BEq, Repr

structure Message where
  id : String
  role : Role
  content : String
  timestamp : Time.Instant
  /-- More of the content may still arrive. -/
  streaming : Bool
  tools : List ToolCall
  cards : List Card
  deriving BEq, Repr

namespace ToolCall

def toJson (call : ToolCall) : Json :=
  .ofFields [("tool", .string call.tool), ("args", call.args),
    ("status", .string call.status.label)]

def ofJson? (value : Json) : Option ToolCall := do
  let [tool, args, status] ← value.slots ["tool", "args", "status"] | none
  some
    { tool := ← tool.bind Json.text?
      args := ← args
      status := ← (← status.bind Json.label?) |> ToolStatus.parse }

end ToolCall

namespace Card

def toJson (card : Card) : Json :=
  .ofFields [("type", .string card.kind.label), ("data", card.data)]

def ofJson? (value : Json) : Option Card := do
  let [kind, data] ← value.slots ["type", "data"] | none
  some { kind := ← (← kind.bind Json.label?) |> CardKind.parse, data := ← data }

end Card

namespace Message

/-- What a message that is made here gets: an identifier and the time. -/
structure Stamp where
  id : String
  time : Time.Instant

def plain (stamp : Stamp) (role : Role) (content : String) : Message :=
  { id := stamp.id, role, content, timestamp := stamp.time, streaming := false
    tools := [], cards := [] }

def reply (stamp : Stamp) (content : String) : Message :=
  { plain stamp .agent content with streaming := true }

def isOpenReply (message : Message) : Bool := message.streaming && message.role = .agent

def toJson (message : Message) : Json :=
  .ofFields [("id", .string message.id), ("role", .string message.role.label),
    ("content", .string message.content), ("timestamp", .string message.timestamp.render),
    ("is_streaming", .bool message.streaming),
    ("tools", .array (message.tools.map ToolCall.toJson)),
    ("cards", .array (message.cards.map Card.toJson))]

/-- A list that may be left out. -/
def listSlot {Item : Type} (item : Json → Option Item) : Option Json → Option (List Item)
  | none => some []
  | some value => value.items?.bind fun items => items.mapM item

def fieldNames : List String :=
  ["id", "role", "content", "timestamp", "is_streaming", "tools", "cards"]

def ofJson? (value : Json) : Option Message := do
  let [id, role, content, timestamp, streaming, tools, cards] ← value.slots fieldNames | none
  some
    { id := ← id.bind Json.text?
      role := ← (← role.bind Json.label?) |> Role.parse
      content := ← content.bind Json.text?
      timestamp := ← (← timestamp.bind Json.text?) |> Time.Instant.parseFree
      streaming := ← streaming.bind Json.bool?
      tools := ← listSlot ToolCall.ofJson? tools
      cards := ← listSlot Card.ofJson? cards }

end Message

end LiveChat.Conversation
