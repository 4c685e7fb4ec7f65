import LiveChat.Proofs.Json.Printing
import LiveChat.Proofs.Json.Reading
import LiveChat.Stream.Payload
import Mathlib.Tactic.SplitIfs

/-!
Which payloads are events, why the others are refused, where each event goes, and how it is written.
-/

set_option autoImplicit false

namespace LiveChat.Stream

open Json.Fields (get?)

/-- The event that the fields of an object make. Fields that are not looked at do not matter. -/
inductive Shapes (fields : Json.Fields) : Event → Prop where
  | chatToken {text : String} (tagged : get? fields "type" = some (.string "chat_token"))
      (has : get? fields "text" = some (.string text)) : Shapes fields (.chatToken text)
  | chatDone {messageId : String} (tagged : get? fields "type" = some (.string "chat_done"))
      (has : get? fields "message_id" = some (.string messageId)) :
      Shapes fields (.chatDone messageId)
  | toolStart {tool : String} {args : Json.Fields}
      (tagged : get? fields "type" = some (.string "tool_start"))
      (named : get? fields "tool" = some (.string tool)) (filled : 1 ≤ tool.utf8ByteSize)
      (short : tool.utf8ByteSize ≤ maxToolName) (given : get? fields "args" = some (.object args)) :
      Shapes fields (.toolStart tool args)
  | toolResult {tool : String} {success : Bool}
      (tagged : get? fields "type" = some (.string "tool_result"))
      (named : get? fields "tool" = some (.string tool)) (filled : 1 ≤ tool.utf8ByteSize)
      (short : tool.utf8ByteSize ≤ maxToolName)
      (ended : get? fields "success" = some (.bool success)) :
      Shapes fields (.toolResult tool success)
  | dataChanged {resource id action : String}
      (tagged : get? fields "type" = some (.string "data_changed"))
      (what : get? fields "resource" = some (.string resource)) (of : resource ≠ "")
      (which : get? fields "id" = some (.string id))
      (how : get? fields "action" = some (.string action)) (done : action ≠ "") :
      Shapes fields (.dataChanged ⟨resource, id, action⟩)
  | heartbeat (tagged : get? fields "type" = some (.string "heartbeat")) :
      Shapes fields .heartbeat

theorem text_slot_iff (slot : Option Json) (text : String) :
    Event.textSlot slot = some text ↔ slot = some (.string text) := by
  cases slot with
  | none => simp [Event.textSlot]
  | some value => cases value <;> simp [Event.textSlot, Json.text?]

theorem fields_of_iff (value : Json) (fields : Json.Fields) :
    value.fields? = some fields ↔ value = .object fields := by
  cases value <;> simp [Json.fields?]

theorem bool_of_iff (value : Json) (given : Bool) :
    value.bool? = some given ↔ value = .bool given := by
  cases value <;> simp [Json.bool?]

theorem tool_name_iff (tool : String) :
    toolNameOk tool = true ↔ 1 ≤ tool.utf8ByteSize ∧ tool.utf8ByteSize ≤ maxToolName := by
  have empty : tool ≠ "" ↔ 1 ≤ tool.utf8ByteSize := by
    rw [Nat.one_le_iff_ne_zero, ne_eq, ne_eq, String.utf8ByteSize_eq_zero_iff]
  rw [toolNameOk, Bool.and_eq_true, decide_eq_true_iff, decide_eq_true_iff, empty]

theorem of_object_iff (fields : Json.Fields) (event : Event) :
    Event.ofJson? (.object fields) = some event ↔
      ∃ tag, get? fields "type" = some (.string tag) ∧
        Event.ofSlots tag (fun names => some (names.map fun name => get? fields name)) =
          some event := by
  simp only [Event.ofJson?, Json.slots, Option.bind_eq_bind, Option.bind_eq_some_iff,
    text_slot_iff]

/-- An object is an event that is valid exactly if its fields have the event's shape. -/
theorem shapes_iff (fields : Json.Fields) (event : Event) :
    Shapes fields event ↔ Event.ofJson? (.object fields) = some event ∧ event.valid = true := by
  rw [of_object_iff]
  constructor
  · intro shapes
    cases shapes with
    | chatToken tagged has =>
        refine ⟨⟨_, tagged, ?_⟩, rfl⟩
        simp [Event.ofSlots, has, Event.textSlot, Json.text?]
    | chatDone tagged has =>
        refine ⟨⟨_, tagged, ?_⟩, rfl⟩
        simp [Event.ofSlots, has, Event.textSlot, Json.text?]
    | toolStart tagged named filled short given =>
        refine ⟨⟨_, tagged, ?_⟩, (tool_name_iff _).mpr ⟨filled, short⟩⟩
        simp [Event.ofSlots, named, given, Event.textSlot, Json.text?, Json.fields?]
    | toolResult tagged named filled short ended =>
        refine ⟨⟨_, tagged, ?_⟩, (tool_name_iff _).mpr ⟨filled, short⟩⟩
        simp [Event.ofSlots, named, ended, Event.textSlot, Json.text?, Json.bool?]
    | dataChanged tagged what of which how done =>
        refine ⟨⟨_, tagged, ?_⟩, by simp [Event.valid, of, done]⟩
        simp [Event.ofSlots, what, which, how, Event.textSlot, Json.text?]
    | heartbeat tagged => exact ⟨⟨_, tagged, by simp [Event.ofSlots]⟩, rfl⟩
  · rintro ⟨⟨tag, tagged, made⟩, valid⟩
    simp only [Event.ofSlots, Option.bind_eq_bind, Option.bind_some, List.map_cons,
      List.map_nil] at made
    split_ifs at made with token done start result change beat
    · simp only [Option.bind_eq_some_iff, text_slot_iff] at made
      obtain ⟨text, has, made⟩ := made
      cases made
      exact .chatToken (token ▸ tagged) has
    · simp only [Option.bind_eq_some_iff, text_slot_iff] at made
      obtain ⟨messageId, has, made⟩ := made
      cases made
      exact .chatDone (done ▸ tagged) has
    · simp only [Option.bind_eq_some_iff, text_slot_iff, fields_of_iff, exists_eq_right] at made
      obtain ⟨tool, named, args, given, made⟩ := made
      cases made
      obtain ⟨filled, short⟩ := (tool_name_iff tool).mp valid
      exact .toolStart (start ▸ tagged) named filled short given
    · simp only [Option.bind_eq_some_iff, text_slot_iff, bool_of_iff, exists_eq_right] at made
      obtain ⟨tool, named, success, ended, made⟩ := made
      cases made
      obtain ⟨filled, short⟩ := (tool_name_iff tool).mp valid
      exact .toolResult (result ▸ tagged) named filled short ended
    · simp only [Option.bind_eq_some_iff, text_slot_iff] at made
      obtain ⟨resource, what, id, which, action, how, made⟩ := made
      cases made
      have given : resource ≠ "" ∧ action ≠ "" := by simpa [Event.valid] using valid
      exact .dataChanged (change ▸ tagged) what given.1 which how given.2
    · cases made
      exact .heartbeat (beat ▸ tagged)

/-- Where an event goes, and with which values. -/
inductive Routes : Event → Route → Prop where
  | token (text : String) : Routes (.chatToken text) (.chat (.token text))
  | done {messageId : String} (named : messageId ≠ "") :
      Routes (.chatDone messageId) (.chat (.done (some messageId)))
  | unnamed : Routes (.chatDone "") (.chat (.done none))
  | toolStart (tool : String) (args : Json.Fields) :
      Routes (.toolStart tool args) (.chat (.toolStart tool (.object args)))
  | toolResult (tool : String) (success : Bool) :
      Routes (.toolResult tool success) (.chat (.toolResult tool success))
  | change (change : Change) : Routes (.dataChanged change) (.change change)
  | keepalive : Routes .heartbeat .keepalive

theorem routes_iff (event : Event) (route : Route) : Routes event route ↔ route = event.route := by
  constructor
  · intro routes
    cases routes with
    | done named => simp [Event.route, named]
    | _ => rfl
  · rintro rfl
    cases event with
    | chatToken text => exact .token text
    | chatDone messageId =>
        by_cases named : messageId = ""
        · subst named
          exact .unnamed
        · rw [Event.route, if_neg named]
          exact .done named
    | toolStart tool args => exact .toolStart tool args
    | toolResult tool success => exact .toolResult tool success
    | dataChanged change => exact .change change
    | heartbeat => exact .keepalive

theorem parse_shaped {limit : Nat} {payload : String} {fields : Json.Fields} {event : Event}
    (fits : payload.utf8ByteSize ≤ limit) (text : Json.IsText (.object fields) payload)
    (shapes : Shapes fields event) : Event.parse limit payload = .ok event := by
  obtain ⟨made, valid⟩ := (shapes_iff fields event).mp shapes
  have parsed := (Json.parse_iff payload (.object fields)).mpr text
  simp [Event.parse, Nat.not_lt.mpr fits, parsed, Json.isObject, made, valid]

/-- A payload over the limit is oversized, whatever it holds. Of the others those that are not JSON
are malformed, those whose object has the shape of an event are that event, and the rest are
invalid. An event goes to one place, with its values, except that an empty identifier is none. -/
theorem parse_decides (limit : Nat) (payload : String) :
    (Event.parse limit payload = .error .oversized ↔ limit < payload.utf8ByteSize) ∧
    (Event.parse limit payload = .error .malformed ↔
      payload.utf8ByteSize ≤ limit ∧ ¬∃ value, Json.IsText value payload) ∧
    (∀ event, Event.parse limit payload = .ok event ↔
      payload.utf8ByteSize ≤ limit ∧
        ∃ fields, Json.IsText (.object fields) payload ∧ Shapes fields event) ∧
    (Event.parse limit payload = .error .invalid ↔
      payload.utf8ByteSize ≤ limit ∧ (∃ value, Json.IsText value payload) ∧
        ¬∃ fields event, Json.IsText (.object fields) payload ∧ Shapes fields event) ∧
    ∀ event route, Routes event route ↔ route = event.route := by
  have text (value : Json) : Json.IsText value payload ↔ Json.parse payload = some value :=
    (Json.parse_iff payload value).symm
  simp only [text, shapes_iff]
  by_cases long : limit < payload.utf8ByteSize
  · have refused : Event.parse limit payload = .error .oversized := if_pos long
    have unfit : ¬payload.utf8ByteSize ≤ limit := Nat.not_le.mpr long
    simp [refused, long, unfit, routes_iff]
  · have fits : payload.utf8ByteSize ≤ limit := Nat.not_lt.mp long
    cases parsed : Json.parse payload with
    | none =>
        have refused : Event.parse limit payload = .error .malformed := by
          simp [Event.parse, long, parsed]
        simp [refused, long, fits, routes_iff]
    | some value =>
        cases value with
        | object fields =>
            cases made : Event.ofJson? (.object fields) with
            | none =>
                have refused : Event.parse limit payload = .error .invalid := by
                  simp [Event.parse, long, parsed, Json.isObject, made]
                simp [refused, long, fits, routes_iff, made]
            | some event =>
                cases valid : event.valid with
                | false =>
                    have refused : Event.parse limit payload = .error .invalid := by
                      simp [Event.parse, long, parsed, Json.isObject, made, valid]
                    simp [refused, long, fits, routes_iff, made, valid]
                | true =>
                    have accepted : Event.parse limit payload = .ok event := by
                      simp [Event.parse, long, parsed, Json.isObject, made, valid]
                    simp [accepted, long, fits, routes_iff, made, valid]
        | _ =>
            have refused : Event.parse limit payload = .error .invalid := by
              simp [Event.parse, long, parsed, Json.isObject]
            simp [refused, long, fits, routes_iff]

/-! Events as payloads. -/

namespace Event

/-- The fields in the order in which they are written. -/
def written : Event → List (String × Json)
  | chatToken text => [("type", .string "chat_token"), ("text", .string text)]
  | chatDone messageId => [("type", .string "chat_done"), ("message_id", .string messageId)]
  | toolStart tool args =>
      [("type", .string "tool_start"), ("tool", .string tool), ("args", .object args)]
  | toolResult tool success =>
      [("type", .string "tool_result"), ("tool", .string tool), ("success", .bool success)]
  | dataChanged change =>
      [("type", .string "data_changed"), ("resource", .string change.resource),
        ("id", .string change.id), ("action", .string change.action)]
  | heartbeat => [("type", .string "heartbeat")]

theorem to_json_written (event : Event) : event.toJson = .ofFields event.written := by
  cases event <;> rfl

def render (event : Event) : String := Json.render (.object event.written)

/-- The arguments of a tool can be written so that they are read back, in an object that is
nested in another one. -/
def Plain : Event → Prop
  | toolStart _ args => Json.Plain (Json.depthLimit - 1) (.object args)
  | _ => True

theorem written_spelled {event : Event} (plain : event.Plain) :
    Json.IsText (.ofFields event.written) event.render := by
  have text (given : String) :
      Json.Spells 126 (.string given) (Json.chars (.string given)) :=
    Json.scalar_spells (.string (Json.string_quoted given))
  have bool (given : Bool) : Json.Spells 126 (.bool given) (Json.chars (.bool given)) :=
    Json.plain_printed trivial
  have each : ∀ field ∈ event.written, Json.Spells 126 field.2 field.2.chars := by
    cases event with
    | toolStart tool args =>
        have given : Json.Spells 126 (.object args) (Json.chars (.object args)) :=
          Json.plain_printed plain
        simp [written, text, given]
    | _ => simp [written, text, bool]
  rw [Json.IsText, render, Json.render, String.toList_ofList]
  exact Json.padded_of (.inr (.inr (Json.object_printed each)))

theorem written_shapes {event : Event} (valid : event.valid = true) :
    Shapes (Json.Fields.ofList event.written) event := by
  have found (key : String) :
      get? (Json.Fields.ofList event.written) key = event.written.reverse.lookup key :=
    (Json.Fields.gathers_of_list event.written).last key
  cases event with
  | chatToken text => exact .chatToken (found _) (found _)
  | chatDone messageId => exact .chatDone (found _) (found _)
  | toolStart tool args =>
      obtain ⟨filled, short⟩ := (tool_name_iff tool).mp valid
      exact .toolStart (found _) (found _) filled short (found _)
  | toolResult tool success =>
      obtain ⟨filled, short⟩ := (tool_name_iff tool).mp valid
      exact .toolResult (found _) (found _) filled short (found _)
  | dataChanged change =>
      have given : change.resource ≠ "" ∧ change.action ≠ "" := by simpa [Event.valid] using valid
      exact .dataChanged (found _) (found _) given.1 (found _) (found _) given.2
  | heartbeat => exact .heartbeat (found _)

/-- A text in which an event could have been written is read as that event. -/
theorem parse_written {event : Event} {limit : Nat} {text : String} (same : text = event.render)
    (valid : event.valid = true) (plain : event.Plain) (fits : text.utf8ByteSize ≤ limit) :
    Event.parse limit text = .ok event :=
  parse_shaped fits (same ▸ written_spelled plain) (written_shapes valid)

/-- What is written is read back, if the limit leaves room for it. -/
theorem parse_render {event : Event} {limit : Nat} (valid : event.valid = true)
    (plain : event.Plain) (fits : event.render.utf8ByteSize ≤ limit) :
    Event.parse limit event.render = .ok event :=
  parse_shaped fits (written_spelled plain) (written_shapes valid)

/-- Arguments with nested values, the outermost integers, and characters that are escaped or that
take several octets. -/
def searching : Event :=
  toolStart "search" [("pages", .array [.null, .integer (-9223372036854775808), .object []]),
    ("query", .string "\"\\/\n\x01é😀"), ("size", .integer 18446744073709551615)]

theorem searching_parse_render :
    searching.valid = true ∧ searching.Plain ∧ searching.render.utf8ByteSize ≤ 200 ∧
      Event.parse 200 searching.render = .ok searching := by
  have valid : searching.valid = true := by decide
  have plain : searching.Plain := by
    refine ⟨by decide, ?_⟩
    simp [Json.Plain, Json.smallestInteger, Json.largestInteger, Json.Fields.Ascending]
  have fits : searching.render.utf8ByteSize ≤ 200 := by decide +kernel
  exact ⟨valid, plain, fits, parse_render valid plain fits⟩

end Event

end LiveChat.Stream
