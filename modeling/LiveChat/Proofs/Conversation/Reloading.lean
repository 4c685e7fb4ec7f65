import LiveChat.Proofs.Conversation.Records
import LiveChat.Proofs.Time.Instants

/-!
A conversation that was read from records is written as records and read again. Nothing is lost
and nothing changes, except that a message of a year that RFC 3339 has no digits for is left out.
-/

set_option autoImplicit false

namespace LiveChat.Conversation

/-! The fields of what is written. -/

theorem field_of_fields (written : List (String × Json)) (key : String) :
    (Json.ofFields written).field? key = written.reverse.lookup key :=
  (Json.Fields.gathers_of_list written).last key

/-- A call that is the same once it is written and read. -/
structure ToolCall.Restorable (call : ToolCall) : Prop where
  named : Stream.toolNameOk call.tool = true
  object : call.args.isObject = true
  small : call.args.size ≤ maxToolArgs

/-- A card that is the same once it is written and read. -/
structure Card.Restorable (card : Card) : Prop where
  object : card.data.isObject = true
  small : card.data.size ≤ maxCardData

/-- A message that is the same once it is written and read, if its time is. -/
structure Message.Restorable (message : Message) : Prop where
  id : validId message.id = true
  content : message.content.utf8ByteSize ≤ maxContent
  timestamp : message.timestamp.Proper
  settled : message.streaming = false
  tools : message.tools.length ≤ maxTools
  calls : ∀ call ∈ message.tools, call.Restorable
  cards : message.cards.length ≤ maxCards
  attached : ∀ card ∈ message.cards, card.Restorable

theorem ToolCall.of_record_written {call : ToolCall} (restorable : call.Restorable) :
    ofRecord? call.toJson = some call := by
  have tool : call.toJson.field? "tool" = some (.string call.tool) := field_of_fields _ _
  have args : call.toJson.field? "args" = some call.args := field_of_fields _ _
  have status : call.toJson.field? "status" = some (.string call.status.label) :=
    field_of_fields _ _
  rw [of_record_iff, tool, args, status]
  refine ⟨rfl, restorable.named, ?_, (ToolStatus.parse_iff _ _).mpr rfl⟩
  have small := restorable.small
  have object := restorable.object
  cases given : call.args with
  | object fields =>
      rw [given] at small
      exact congrArg some (if_pos small)
  | _ =>
      rw [given] at object
      cases object

theorem Card.of_record_written {card : Card} (restorable : card.Restorable) :
    ofRecord? card.toJson = some card := by
  have kind : card.toJson.field? "type" = some (.string card.kind.label) := field_of_fields _ _
  have data : card.toJson.field? "data" = some card.data := field_of_fields _ _
  rw [of_record_iff, kind, data]
  exact ⟨rfl, rfl, restorable.object, restorable.small⟩

theorem list_of_record_written {Item : Type} {read : Json → Option Item} {write : Item → Json}
    {cap : Nat} {items : List Item} (few : items.length ≤ cap)
    (back : ∀ item ∈ items, read (write item) = some item) :
    Message.listOfRecord? read cap (some (.array (items.map write))) = some items := by
  have all : (items.map write).filterMap read = items := by
    rw [List.filterMap_map]
    exact (List.filterMap_congr back).trans List.filterMap_some
  rw [Message.listOfRecord?, all, List.take_of_length_le few]

/-- A message is read back if its time is, and not at all otherwise. -/
theorem Message.of_record_written {message : Message} (restorable : message.Restorable) :
    ofRecord? message.toJson = if message.timestamp.Civil then some message else none := by
  have id : message.toJson.field? "id" = some (.string message.id) := field_of_fields _ _
  have role : message.toJson.field? "role" = some (.string message.role.label) :=
    field_of_fields _ _
  have content : message.toJson.field? "content" = some (.string message.content) :=
    field_of_fields _ _
  have timestamp : message.toJson.field? "timestamp" = some (.string message.timestamp.render) :=
    field_of_fields _ _
  have tools : message.toJson.field? "tools" = some (.array (message.tools.map ToolCall.toJson)) :=
    field_of_fields _ _
  have cards : message.toJson.field? "cards" = some (.array (message.cards.map Card.toJson)) :=
    field_of_fields _ _
  by_cases civil : message.timestamp.Civil
  · have named : idOfRecord? (.string message.id) = some message.id := if_pos restorable.id
    have whole : cutText maxContent message.content = message.content := if_pos restorable.content
    have read : timeOfRecord? (.string message.timestamp.render) = some message.timestamp :=
      Time.Instant.parse_rendered civil restorable.timestamp
    have calls := list_of_record_written restorable.tools fun call member =>
      ToolCall.of_record_written (restorable.calls call member)
    have attached := list_of_record_written restorable.cards fun card member =>
      Card.of_record_written (restorable.attached card member)
    rw [if_pos civil, of_record_iff, tools, cards]
    exact ⟨⟨_, id, named⟩, role, ⟨_, content, whole⟩, ⟨_, timestamp, read⟩, restorable.settled,
      calls, attached⟩
  · have unread : timeOfRecord? (.string message.timestamp.render) = none :=
      Time.Instant.parse_render_signed civil
    rw [if_neg civil, Option.eq_none_iff_forall_ne_some]
    intro other made
    have ⟨_, _, _, time, _⟩ := (of_record_iff _ other).mp made
    obtain ⟨value, found, read⟩ := time
    rw [timestamp] at found
    rw [← Option.some.inj found, unread] at read
    cases read

/-! What was read from records is restorable. -/

theorem ToolCall.of_record_restorable {record : Json} {call : ToolCall}
    (counted : (record.size : Int) ≤ Json.largestInteger)
    (made : ofRecord? record = some call) : call.Restorable :=
  ⟨((of_record_iff record call).mp made).2.1, (of_record_told record call made).object,
    of_record_size made counted⟩

theorem Card.of_record_restorable {record : Json} {card : Card}
    (made : ofRecord? record = some card) : card.Restorable :=
  ⟨(of_record_told record card made).object, of_record_size made⟩

theorem Message.time_of_record_proper {value : Json} {instant : Time.Instant}
    (read : timeOfRecord? value = some instant) : instant.Proper := by
  cases value with
  | string text => exact Time.Instant.parse_proper read
  | integer millis =>
      exact Time.Instant.of_millis_proper (Option.ite_none_right_eq_some.mp read).2
  | _ => cases read

theorem Message.of_record_restorable {record : Json} {message : Message}
    (counted : (record.size : Int) ≤ Json.largestInteger)
    (made : ofRecord? record = some message) : message.Restorable := by
  have told := of_record_told record message made
  have ⟨_, _, _, _, _, calls, cards⟩ := (of_record_iff record message).mp made
  obtain ⟨_, _, read⟩ := told.timestamp
  refine ⟨told.valid, told.short, time_of_record_proper read, told.settled, told.tools.few, ?_,
    told.cards.few, ?_⟩
  · intro call member
    obtain ⟨sources, source, slot, inside, same⟩ := (list_of_record_cases calls).2 call member
    have item := Json.item_size_le inside
    have part : (Json.array sources).size ≤ record.size := by
      cases record with
      | object fields => exact Json.field_size_le slot
      | _ => cases slot
    exact ToolCall.of_record_restorable (by omega) same
  · intro card member
    obtain ⟨_, _, _, _, same⟩ := (list_of_record_cases cards).2 card member
    exact Card.of_record_restorable same

/-- Records that were read, written and read again give the same messages, those apart whose year in
UTC does not have four digits. -/
theorem reloaded_unchanged (records : List Json)
    (counted : ∀ record ∈ records, (record.size : Int) ≤ Json.largestInteger) :
    ofRecords ((ofRecords records).map Message.toJson) =
      (ofRecords records).filter fun message => message.timestamp.Civil := by
  have restorable : ∀ message ∈ ofRecords records, message.Restorable := by
    intro message member
    obtain ⟨record, inside, made⟩ := List.mem_filterMap.mp (mem_of_mem_newest member)
    exact Message.of_record_restorable (counted record inside) made
  have few : (ofRecords records).length ≤ maxMessages := newest_length _
  generalize ofRecords records = messages at restorable few ⊢
  have read : (messages.map Message.toJson).filterMap Message.ofRecord? =
      messages.filter fun message => message.timestamp.Civil := by
    rw [List.filterMap_map, ← List.filterMap_eq_filter]
    apply List.filterMap_congr
    intro message member
    rw [Function.comp_apply, Message.of_record_written (restorable message member)]
    simp [Option.guard]
  rw [ofRecords, read, newest_few (Nat.le_trans (List.length_filter_le _ _) few)]

/-- A message of the year 10000. -/
def distant : Json :=
  .object [("content", .string "hello"), ("id", .string "1"), ("role", .string "user"),
    ("timestamp", .integer 253402300800000)]

/-- A reply with one call, beside an item that tells of none. -/
def recent : Json :=
  .object [("content", .string "hi"), ("id", .integer 42), ("role", .string "agent"),
    ("timestamp", .string "2026-03-01T12:00:00Z"),
    ("tools", .array [.object [("tool", .string "search")], .null])]

theorem recent_reloaded :
    (∀ record ∈ [distant, recent], (record.size : Int) ≤ Json.largestInteger) ∧
      ofRecords ((ofRecords [distant, recent]).map Message.toJson) =
        [{ id := "42", role := .agent, content := "hi", timestamp := ⟨1772366400, 0⟩
           streaming := false, tools := [⟨"search", .object [], .success⟩], cards := [] }] := by
  have counted : ∀ record ∈ [distant, recent], (record.size : Int) ≤ Json.largestInteger := by
    decide
  refine ⟨counted, ?_⟩
  rw [reloaded_unchanged [distant, recent] counted]
  rfl

/-- The message of the year 10000 is lost, so what was read is not what was written. -/
theorem distant_lost :
    (ofRecords [distant]).length = 1 ∧
      ofRecords ((ofRecords [distant]).map Message.toJson) = [] ∧
      ofRecords ((ofRecords [distant]).map Message.toJson) ≠ ofRecords [distant] := by
  have read : (ofRecords [distant]).length = 1 := by decide
  have lost : ofRecords ((ofRecords [distant]).map Message.toJson) = [] := by rfl
  refine ⟨read, lost, ?_⟩
  intro same
  rw [← same, lost] at read
  cases read

end LiveChat.Conversation
