import LiveChat.Proofs.Conversation.Bounds
import LiveChat.Proofs.Stream.Wire
import Mathlib.Data.List.Forall2

/-!
Records of the past are judged one by one. What a list of records gives is what its parts give,
up to the messages that are too old, and every message is told by a record of the list, within all
limits and in its place.
-/

set_option autoImplicit false

namespace LiveChat.Conversation

theorem newest_few {Item : Type} {items : List Item} (few : items.length ≤ maxMessages) :
    newest items = items := by
  rw [newest, Nat.sub_eq_zero_of_le few, List.drop_zero]

theorem newest_drop {Item : Type} {items : List Item} {count : Nat}
    (few : count ≤ items.length - maxMessages) : newest (items.drop count) = newest items := by
  have rest : count + (items.length - count - maxMessages) = items.length - maxMessages := by omega
  rw [newest, newest, List.length_drop, List.drop_drop, rest]

/-- Only the newest items count if there are enough of them. -/
theorem newest_append_enough {Item : Type} (earlier : List Item) {later : List Item}
    (enough : maxMessages ≤ later.length) : newest (earlier ++ later) = newest later := by
  have older : earlier.length + later.length - maxMessages =
      earlier.length + (later.length - maxMessages) := by omega
  rw [newest, newest, List.length_append, older, List.drop_length_add_append]

theorem newest_append {Item : Type} (earlier later : List Item) :
    newest (newest earlier ++ newest later) = newest (earlier ++ later) := by
  have front : newest (newest earlier ++ newest later) = newest (earlier ++ newest later) := by
    have few : earlier.length - maxMessages ≤ (earlier ++ newest later).length - maxMessages := by
      rw [List.length_append]
      omega
    rw [← newest_drop few, List.drop_append_of_le_length (Nat.sub_le _ _)]
    rfl
  rw [front]
  by_cases enough : maxMessages ≤ later.length
  · have full : maxMessages ≤ (newest later).length := by
      rw [newest, List.length_drop]
      omega
    rw [newest_append_enough earlier full, newest_append_enough earlier enough]
    exact newest_drop (Nat.le_refl _)
  · rw [newest_few (Nat.le_of_not_le enough)]

/-! The items that come of a list. -/

section Selection

variable {Source Item : Type} {tells : Item → Source → Prop}

theorem selection_of_filter {read : Source → Option Item}
    (told : ∀ source item, read source = some item → tells item source) (sources : List Source) :
    List.SublistForall₂ tells (sources.filterMap read) sources := by
  induction sources with
  | nil => exact .nil
  | cons source sources induction =>
      cases found : read source with
      | none =>
          rw [List.filterMap_cons_none found]
          exact .cons_right induction
      | some item =>
          rw [List.filterMap_cons_some found]
          exact .cons (told source item found) induction

theorem selection_of_sublist {items fewer : List Item} {sources : List Source}
    (kept : fewer.Sublist items) (selection : List.SublistForall₂ tells items sources) :
    List.SublistForall₂ tells fewer sources := by
  induction selection generalizing fewer with
  | nil =>
      rw [List.sublist_nil.mp kept]
      exact .nil
  | cons told _ induction =>
      cases kept with
      | cons _ later => exact .cons_right (induction later)
      | cons_cons _ later => exact .cons told (induction later)
  | cons_right _ induction => exact .cons_right (induction kept)

end Selection

/-! Labels. -/

theorem label_of_found {Item : Type} {label : Item → String} {items : List Item} {name : String}
    {item : Item} (found : items.find? (fun item => label item = name) = some item) :
    name = label item := by
  have passes := List.find?_some found
  exact (of_decide_eq_true passes).symm

theorem Role.parse_iff (label : String) (role : Role) :
    parse label = some role ↔ label = role.label := by
  constructor
  · exact label_of_found
  · intro same
    rw [same]
    exact parse_label role

theorem ToolStatus.parse_iff (label : String) (status : ToolStatus) :
    parse label = some status ↔ label = status.label := by
  constructor
  · exact label_of_found
  · intro same
    rw [same]
    exact parse_label status

theorem CardKind.parse_iff (label : String) (kind : CardKind) :
    parse label = some kind ↔ label = kind.label := by
  constructor
  · exact label_of_found
  · intro same
    rw [same]
    exact parse_label kind

theorem text_iff (value : Json) (text : String) :
    value.text? = some text ↔ value = .string text := by
  cases value <;> simp [Json.text?]

/-! What a call, a card and a message take from the fields of a record. -/

/-- No arguments if none are given. -/
def ToolCall.argsOf? : Option Json → Option Json
  | none => some (.object [])
  | some .null => some (.object [])
  | some (.object fields) => some (capToolArgs (.object fields))
  | some _ => none

/-- A call that does not say how it ended went well. -/
def ToolCall.statusOf? : Option Json → Option ToolStatus
  | none => some .success
  | some status => status.text?.bind ToolStatus.parse

theorem ToolCall.of_record_eq (record : Json) :
    ofRecord? record = (record.field? "tool").bind fun value => value.text?.bind fun tool =>
      if Stream.toolNameOk tool then
        (argsOf? (record.field? "args")).bind fun args =>
          (statusOf? (record.field? "status")).bind fun status => some { tool, args, status }
      else none := by
  simp only [ofRecord?, Option.bind_eq_bind, argsOf?, statusOf?]
  congr 1
  funext value
  congr 1
  funext tool
  cases ok : Stream.toolNameOk tool with
  | false => rfl
  | true =>
      simp only [Bool.not_true, Bool.false_eq_true, if_false, if_true]
      cases record.field? "args" with
      | none => cases record.field? "status" <;> rfl
      | some args => cases args <;> cases record.field? "status" <;> rfl

theorem ToolCall.of_record_iff (record : Json) (call : ToolCall) :
    ofRecord? record = some call ↔
      record.field? "tool" = some (.string call.tool) ∧ Stream.toolNameOk call.tool = true ∧
        argsOf? (record.field? "args") = some call.args ∧
        statusOf? (record.field? "status") = some call.status := by
  rw [of_record_eq]
  simp only [Option.bind_eq_some_iff, text_iff]
  constructor
  · rintro ⟨_, tagged, tool, rfl, made⟩
    split at made
    · next ok =>
      obtain ⟨args, given, made⟩ := Option.bind_eq_some_iff.mp made
      obtain ⟨status, ended, same⟩ := Option.bind_eq_some_iff.mp made
      cases same
      exact ⟨tagged, ok, given, ended⟩
    · cases made
  · rintro ⟨tagged, ok, given, ended⟩
    refine ⟨_, tagged, _, rfl, ?_⟩
    rw [if_pos ok, given, Option.bind_some, ended, Option.bind_some]

theorem Card.of_record_iff (record : Json) (card : Card) :
    ofRecord? record = some card ↔
      record.field? "type" = some (.string card.kind.label) ∧
        record.field? "data" = some card.data ∧ card.data.isObject = true ∧
        card.data.size ≤ maxCardData := by
  simp only [ofRecord?, Option.bind_eq_bind, Option.bind_eq_some_iff, text_iff, CardKind.parse_iff]
  constructor
  · rintro ⟨_, tagged, kind, ⟨_, rfl, rfl⟩, data, found, made⟩
    split at made
    · next small =>
      cases made
      rw [Bool.and_eq_true, decide_eq_true_eq] at small
      exact ⟨tagged, found, small⟩
    · cases made
  · rintro ⟨tagged, found, object, small⟩
    refine ⟨_, tagged, _, ⟨_, rfl, rfl⟩, _, found, ?_⟩
    rw [if_pos (by rw [object, Bool.true_and, decide_eq_true_eq]; exact small)]

theorem Message.of_record_iff (record : Json) (message : Message) :
    ofRecord? record = some message ↔
      (∃ value, record.field? "id" = some value ∧ idOfRecord? value = some message.id) ∧
      record.field? "role" = some (.string message.role.label) ∧
      (∃ whole, record.field? "content" = some (.string whole) ∧
        cutText maxContent whole = message.content) ∧
      (∃ value, record.field? "timestamp" = some value ∧
        timeOfRecord? value = some message.timestamp) ∧
      message.streaming = false ∧
      listOfRecord? ToolCall.ofRecord? maxTools (record.field? "tools") = some message.tools ∧
      listOfRecord? Card.ofRecord? maxCards (record.field? "cards") = some message.cards := by
  have slots : ∀ fields, record.fields? = some fields → ∀ key, fields.get? key = record.field? key := by
    intro fields made key
    rw [(Stream.fields_of_iff record fields).mp made]
    rfl
  simp only [ofRecord?, Option.bind_eq_bind, Option.bind_eq_some_iff, text_iff, Role.parse_iff,
    Option.some.injEq]
  constructor
  · rintro ⟨fields, made, value, given, id, named, _, tagged, _, ⟨_, rfl, rfl⟩, _, said, whole, rfl,
      time, stamped, timestamp, read, tools, calls, cards, attached, rfl⟩
    simp only [slots fields made] at given tagged said stamped calls attached
    exact ⟨⟨value, given, named⟩, tagged, ⟨whole, said, rfl⟩, ⟨time, stamped, read⟩, rfl, calls,
      attached⟩
  · rintro ⟨⟨value, given, named⟩, tagged, ⟨whole, said, cut⟩, ⟨time, stamped, read⟩, settled, calls,
      attached⟩
    cases record with
    | object fields =>
        refine ⟨fields, rfl, value, given, _, named, _, tagged, _, ⟨_, rfl, rfl⟩, _, said, whole, rfl,
          time, stamped, _, read, _, calls, _, attached, ?_⟩
        rw [cut, ← settled]
    | _ => cases given

/-! What a record tells. -/

/-- A list that may be missing or null. -/
def Listed (slot : Option Json) : Prop :=
  slot = none ∨ slot = some .null ∨ ∃ items, slot = some (.array items)

/-- Some items of a list in their order, no more than the cap, and what each of them tells. -/
structure Picks {Item : Type} (tells : Item → Json → Prop) (cap : Nat) (slot : Option Json)
    (items : List Item) : Prop where
  few : items.length ≤ cap
  order : List.SublistForall₂ tells items ((slot.bind Json.items?).getD [])

/-- The arguments that an item gives, and none if it does not say. -/
def ToolCall.given (item : Json) : Json :=
  match item.field? "args" with
  | some (.object fields) => .object fields
  | _ => .object []

/-- An item of a record tells of this call. -/
structure ToolCall.Told (call : ToolCall) (item : Json) : Prop where
  tool : item.field? "tool" = some (.string call.tool)
  filled : 1 ≤ call.tool.utf8ByteSize
  short : call.tool.utf8ByteSize ≤ Stream.maxToolName
  args : call.args = capToolArgs (given item)
  object : call.args.isObject = true
  /-- Sizes are counts of 64 bits, and so is the one that stands for arguments that are too large. -/
  small : (item.size : Int) ≤ Json.largestInteger → call.args.size ≤ maxToolArgs
  status : (item.field? "status").getD (.string ToolStatus.success.label) =
    .string call.status.label

/-- An item of a record tells of this card. -/
structure Card.Told (card : Card) (item : Json) : Prop where
  kind : item.field? "type" = some (.string card.kind.label)
  data : item.field? "data" = some card.data
  object : card.data.isObject = true
  small : card.data.size ≤ maxCardData

/-- A record tells of this message. -/
structure Message.Told (message : Message) (record : Json) : Prop where
  id : ∃ value, record.field? "id" = some value ∧ idOfRecord? value = some message.id
  valid : validId message.id = true
  role : record.field? "role" = some (.string message.role.label)
  content : ∃ whole, record.field? "content" = some (.string whole) ∧
    message.content.toList <+: whole.toList
  short : message.content.utf8ByteSize ≤ maxContent
  timestamp : ∃ value, record.field? "timestamp" = some value ∧
    timeOfRecord? value = some message.timestamp
  settled : message.streaming = false
  tools : Picks ToolCall.Told maxTools (record.field? "tools") message.tools
  cards : Picks Card.Told maxCards (record.field? "cards") message.cards

/-- A record that tells of a message, whatever the items of its lists are. -/
structure Tells (record : Json) : Prop where
  id : ∃ value id, record.field? "id" = some value ∧ Message.idOfRecord? value = some id
  role : ∃ role : Role, record.field? "role" = some (.string role.label)
  content : ∃ content, record.field? "content" = some (.string content)
  timestamp : ∃ value time, record.field? "timestamp" = some value ∧
    Message.timeOfRecord? value = some time
  tools : Listed (record.field? "tools")
  cards : Listed (record.field? "cards")

theorem list_of_record_iff {Item : Type} (read : Json → Option Item) (cap : Nat)
    (slot : Option Json) :
    (∃ items, Message.listOfRecord? read cap slot = some items) ↔ Listed slot := by
  cases slot with
  | none => simp [Message.listOfRecord?, Listed]
  | some value => cases value <;> simp [Message.listOfRecord?, Listed]

theorem list_of_record_picks {Item : Type} {read : Json → Option Item} {cap : Nat}
    {tells : Item → Json → Prop} {slot : Option Json} {items : List Item}
    (told : ∀ source item, read source = some item → tells item source)
    (made : Message.listOfRecord? read cap slot = some items) : Picks tells cap slot items := by
  unfold Message.listOfRecord? at made
  split at made
  · cases made
    exact ⟨Nat.zero_le cap, .nil⟩
  · cases made
    exact ⟨Nat.zero_le cap, .nil⟩
  · next sources =>
    cases made
    exact ⟨List.length_take_le _ _,
      selection_of_sublist (List.take_sublist _ _) (selection_of_filter told sources)⟩
  · cases made

theorem cap_tool_args_object (fields : Json.Fields) :
    (capToolArgs (.object fields)).isObject = true := by
  unfold capToolArgs
  split <;> rfl

theorem no_args_fit : capToolArgs (.object []) = .object [] := by
  have small : Json.size (.object []) ≤ maxToolArgs := by decide
  rw [capToolArgs, if_pos small]

theorem ToolCall.args_of_given {item args : Json}
    (chosen : argsOf? (item.field? "args") = some args) :
    args = capToolArgs (given item) ∧ args.isObject = true := by
  unfold given
  cases found : item.field? "args" with
  | none =>
      rw [found] at chosen
      cases chosen
      exact ⟨no_args_fit.symm, rfl⟩
  | some value =>
      rw [found] at chosen
      cases value with
      | null =>
          cases chosen
          exact ⟨no_args_fit.symm, rfl⟩
      | object fields =>
          cases chosen
          exact ⟨rfl, cap_tool_args_object fields⟩
      | _ => cases chosen

theorem ToolCall.of_record_told (item : Json) (call : ToolCall)
    (made : ofRecord? item = some call) : call.Told item := by
  have ⟨tool, named, chosen, ended⟩ := (of_record_iff item call).mp made
  have ⟨filled, short⟩ := (Stream.tool_name_iff call.tool).mp named
  have ⟨args, object⟩ := args_of_given chosen
  refine ⟨tool, filled, short, args, object, of_record_size made, ?_⟩
  cases found : item.field? "status" with
  | none =>
      rw [found] at ended
      rw [← Option.some.inj ended]
      rfl
  | some value =>
      rw [found] at ended
      obtain ⟨label, text, read⟩ := Option.bind_eq_some_iff.mp ended
      rw [Option.getD_some, (text_iff value label).mp text, (ToolStatus.parse_iff _ _).mp read]

theorem Card.of_record_told (item : Json) (card : Card) (made : ofRecord? item = some card) :
    card.Told item := by
  have ⟨kind, data, object, small⟩ := (of_record_iff item card).mp made
  exact ⟨kind, data, object, small⟩

theorem Message.id_of_record_valid {value : Json} {id : String}
    (made : idOfRecord? value = some id) : validId id = true := by
  cases value with
  | string text =>
      have ⟨valid, same⟩ := Option.ite_none_right_eq_some.mp made
      rw [← Option.some.inj same]
      exact valid
  | integer number =>
      have ⟨valid, same⟩ := Option.ite_none_right_eq_some.mp made
      rw [← Option.some.inj same]
      exact valid
  | _ => cases made

theorem cut_text_start (limit : Nat) (text : String) :
    (cutText limit text).toList <+: text.toList := by
  unfold cutText
  split
  · exact List.prefix_rfl
  · rw [String.toList_ofList]
    exact List.take_prefix _ _

theorem fitting_longest {room : Nat} {chars start : List Char} (starts : start <+: chars)
    (fits : Text.Utf8.size start ≤ room) : start <+: chars.take (fitting room 0 chars) := by
  induction chars generalizing room start with
  | nil => exact starts
  | cons char rest induction =>
      cases start with
      | nil => exact List.nil_prefix
      | cons first others =>
          obtain ⟨rfl, after⟩ := List.cons_prefix_cons.mp starts
          rw [Text.Utf8.size] at fits
          have others_fit : Text.Utf8.size others ≤ room - first.utf8Size := by omega
          have longer := induction after others_fit
          simp only [fitting]
          rw [if_pos (by omega), fitting_count, Nat.zero_add, Nat.add_comm 1, List.take_succ_cons]
          exact List.cons_prefix_cons.mpr ⟨rfl, longer⟩

/-- The longest start of a text in whole characters that takes up no more octets than allowed. -/
structure Cut (limit : Nat) (text part : String) : Prop where
  start : part.toList <+: text.toList
  within : part.utf8ByteSize ≤ limit
  longest : ∀ other : String, other.toList <+: text.toList → other.utf8ByteSize ≤ limit →
    other.toList <+: part.toList

theorem cut_text_cuts (limit : Nat) (text : String) : Cut limit text (cutText limit text) where
  start := cut_text_start limit text
  within := cut_text_size_le limit text
  longest := by
    intro other starts fits
    have counted : Text.Utf8.size other.toList ≤ limit := by
      rwa [← Text.Utf8.size_of_list, String.ofList_toList]
    unfold cutText
    split
    · exact starts
    · rw [String.toList_ofList]
      exact fitting_longest starts counted

theorem Message.of_record_told (record : Json) (message : Message)
    (made : ofRecord? record = some message) : message.Told record := by
  have ⟨id, role, content, timestamp, settled, tools, cards⟩ := (of_record_iff record message).mp made
  obtain ⟨value, given, named⟩ := id
  obtain ⟨whole, said, cut⟩ := content
  have start := cut_text_start maxContent whole
  have short := cut_text_size_le maxContent whole
  rw [cut] at start short
  exact ⟨⟨value, given, named⟩, id_of_record_valid named, role, ⟨whole, said, start⟩, short,
    timestamp, settled, list_of_record_picks ToolCall.of_record_told tools,
    list_of_record_picks Card.of_record_told cards⟩

theorem of_record_tells (record : Json) :
    (∃ message, Message.ofRecord? record = some message) ↔ Tells record := by
  constructor
  · rintro ⟨message, made⟩
    have ⟨id, role, content, timestamp, _, tools, cards⟩ :=
      (Message.of_record_iff record message).mp made
    obtain ⟨value, given, named⟩ := id
    obtain ⟨whole, said, _⟩ := content
    obtain ⟨time, stamped, read⟩ := timestamp
    exact ⟨⟨value, _, given, named⟩, ⟨_, role⟩, ⟨whole, said⟩, ⟨time, _, stamped, read⟩,
      (list_of_record_iff _ _ _).mp ⟨_, tools⟩, (list_of_record_iff _ _ _).mp ⟨_, cards⟩⟩
  · intro tells
    obtain ⟨value, id, given, named⟩ := tells.id
    obtain ⟨role, tagged⟩ := tells.role
    obtain ⟨whole, said⟩ := tells.content
    obtain ⟨time, timestamp, stamped, read⟩ := tells.timestamp
    obtain ⟨tools, calls⟩ := (list_of_record_iff ToolCall.ofRecord? maxTools _).mpr tells.tools
    obtain ⟨cards, attached⟩ := (list_of_record_iff Card.ofRecord? maxCards _).mpr tells.cards
    refine ⟨⟨id, role, cutText maxContent whole, timestamp, false, tools, cards⟩, ?_⟩
    exact (Message.of_record_iff record _).mpr ⟨⟨value, given, named⟩, tagged, ⟨whole, said, rfl⟩,
      ⟨time, stamped, read⟩, rfl, calls, attached⟩

/-- Records are judged alone and keep their order: a list of them gives the newest messages of what
its parts give, a single one gives a message exactly if its fields tell of one, and every message
that is given is told by a record in its place, within all limits. -/
theorem records_judged_alone (earlier later : List Json) :
    ofRecords (earlier ++ later) = newest (ofRecords earlier ++ ofRecords later) ∧
      List.SublistForall₂ Message.Told (ofRecords earlier) earlier ∧
      ∀ record, (∃ message, ofRecords [record] = [message]) ↔ Tells record := by
  have single : ∀ record, ofRecords [record] = (Message.ofRecord? record).toList := by
    intro record
    rw [ofRecords, List.filterMap_cons, List.filterMap_nil]
    cases Message.ofRecord? record with
    | none => exact newest_few (Nat.zero_le _)
    | some message => exact newest_few (show 1 ≤ maxMessages by decide)
  refine ⟨?_, ?_, ?_⟩
  · rw [ofRecords, ofRecords, ofRecords, newest_append, List.filterMap_append]
  · apply selection_of_sublist (List.drop_sublist _ _)
    exact selection_of_filter Message.of_record_told earlier
  · intro record
    rw [← of_record_tells, single]
    cases Message.ofRecord? record <;> simp

end LiveChat.Conversation
