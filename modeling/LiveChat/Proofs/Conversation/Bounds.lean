import LiveChat.Proofs.Conversation.OpenReply
import LiveChat.Proofs.Json.Size

/-!
What a message may hold. The limits are kept by every action and for every record of the past,
with one exception: the notice of a failed submission quotes the failure in full.
-/

set_option autoImplicit false

namespace LiveChat.Conversation

open Text.Utf8 (size size_of_list)

theorem fitting_count (room count : Nat) (chars : List Char) :
    fitting room count chars = count + fitting room 0 chars := by
  induction chars generalizing room count with
  | nil => rfl
  | cons char rest induction =>
      simp only [fitting]
      split
      · rw [induction _ (count + 1), induction _ (0 + 1)]
        omega
      · omega

theorem fitting_size_le (room : Nat) (chars : List Char) :
    size (chars.take (fitting room 0 chars)) ≤ room := by
  induction chars generalizing room with
  | nil => exact Nat.zero_le room
  | cons char rest induction =>
      simp only [fitting]
      split
      · next fits =>
        have shorter := induction (room - char.utf8Size)
        rw [fitting_count, Nat.zero_add, Nat.add_comm 1, List.take_succ_cons, size]
        omega
      · exact Nat.zero_le room

theorem cut_text_size_le (limit : Nat) (text : String) :
    (cutText limit text).utf8ByteSize ≤ limit := by
  unfold cutText
  split
  · next short => exact short
  · rw [size_of_list]
    exact fitting_size_le limit text.toList

/-- Arguments are small, or they give way to a note that is, as its only count is one of 64
bits. -/
theorem cap_tool_args_size_le {args : Json}
    (counted : (args.size : Int) ≤ Json.largestInteger) :
    (capToolArgs args).size ≤ maxToolArgs := by
  unfold capToolArgs
  split
  · next small => exact small
  · have sorted : Json.ofFields [("truncated", .bool true), ("original_size", .integer args.size)]
        = .object [("original_size", .integer args.size), ("truncated", .bool true)] := rfl
    have digits := Json.count_size_le counted
    have names : size (Json.stringChars "original_size") = 15 ∧
        size (Json.stringChars "truncated") = 11 := by decide
    have brackets : '\x7b'.utf8Size = 1 ∧ '\x7d'.utf8Size = 1 ∧ ':'.utf8Size = 1 ∧
        ','.utf8Size = 1 := by decide
    have truth : size ['t', 'r', 'u', 'e'] = 4 := by decide
    rw [sorted, Json.size_eq_chars]
    simp only [Json.chars, Json.fieldChars, Json.moreFieldChars, List.append_nil,
      Text.Utf8.size_append, size, brackets, names, maxToolArgs] at truth digits ⊢
    omega

/-- Within the limits, its content apart. -/
structure Message.Fits (message : Message) : Prop where
  id : message.id.utf8ByteSize ≤ maxId
  tools : message.tools.length ≤ maxTools
  args : ∀ call ∈ message.tools, call.args.size ≤ maxToolArgs
  cards : message.cards.length ≤ maxCards
  data : ∀ card ∈ message.cards, card.data.size ≤ maxCardData

/-- The sizes of its JSON values are counts of 64 bits. -/
def Action.Counted : Action → Prop
  | .toolStarted _ args => (args.size : Int) ≤ Json.largestInteger
  | .loadHistory records => ∀ record ∈ records, (record.size : Int) ≤ Json.largestInteger
  | _ => True

/-- The notice of a failure in the script. -/
def Message.Quotes (script : List (Message.Stamp × Action)) (message : Message) : Prop :=
  ∃ stamp error, (stamp, Action.sendFailed error) ∈ script ∧
    message = .plain stamp .system ("Failed to send message: " ++ error)

/-- Within the limits, unless it quotes a failure that is too long. -/
structure Message.Admissible (script : List (Message.Stamp × Action)) (message : Message) :
    Prop where
  fits : message.Fits
  content : message.content.utf8ByteSize ≤ maxContent ∨ message.Quotes script

/-! Records of the past. -/

theorem valid_id_size {id : String} (valid : validId id = true) : id.utf8ByteSize ≤ maxId := by
  simp only [validId, Bool.and_eq_true, decide_eq_true_eq] at valid
  exact valid.1.2

theorem Message.id_of_record_size {value : Json} {id : String}
    (made : idOfRecord? value = some id) : id.utf8ByteSize ≤ maxId := by
  unfold idOfRecord? at made
  split at made
  · split at made
    · next valid =>
      cases made
      exact valid_id_size valid
    · cases made
  · dsimp only at made
    split at made
    · next valid =>
      cases made
      exact valid_id_size valid
    · cases made
  · cases made

theorem Message.list_of_record_cases {Item : Type} {item : Json → Option Item} {cap : Nat}
    {slot : Option Json} {items : List Item} (made : listOfRecord? item cap slot = some items) :
    items.length ≤ cap ∧ ∀ made ∈ items, ∃ sources source, slot = some (.array sources) ∧
      source ∈ sources ∧ item source = some made := by
  unfold listOfRecord? at made
  split at made
  · cases made
    exact ⟨Nat.zero_le cap, nofun⟩
  · cases made
    exact ⟨Nat.zero_le cap, nofun⟩
  · next sources =>
    cases made
    refine ⟨List.length_take_le _ _, ?_⟩
    intro made member
    obtain ⟨source, inside, same⟩ := List.mem_filterMap.mp (List.mem_of_mem_take member)
    exact ⟨sources, source, rfl, inside, same⟩
  · cases made

theorem Card.of_record_size {record : Json} {card : Card}
    (made : Card.ofRecord? record = some card) : card.data.size ≤ maxCardData := by
  simp only [Card.ofRecord?, Option.bind_eq_bind, Option.bind_eq_some_iff] at made
  obtain ⟨_, _, _, _, data, _, made⟩ := made
  split at made
  · next small =>
    cases made
    simp only [Bool.and_eq_true, decide_eq_true_eq] at small
    exact small.2
  · cases made

/-- Whatever its state, a call has the arguments that were chosen for it. -/
theorem ToolCall.chosen_args {tool : String} {args : Json} {call : ToolCall}
    {state : Option ToolStatus}
    (made : (state.bind fun status => some { tool, args, status }) = some call) :
    call.args = args := by
  obtain ⟨_, _, same⟩ := Option.bind_eq_some_iff.mp made
  cases same
  rfl

theorem ToolCall.of_record_size {record : Json} {call : ToolCall}
    (made : ToolCall.ofRecord? record = some call)
    (counted : (record.size : Int) ≤ Json.largestInteger) : call.args.size ≤ maxToolArgs := by
  have bare : Json.size (.object []) ≤ maxToolArgs := by decide
  have small : ∃ args, args.size ≤ maxToolArgs ∧ call.args = args := by
    simp only [ToolCall.ofRecord?, Option.bind_eq_bind, Option.bind_eq_some_iff] at made
    obtain ⟨_, _, _, _, made⟩ := made
    split at made
    · cases made
    · split at made
      · refine ⟨_, bare, ?_⟩
        rw [Option.bind_some] at made
        split at made
        · exact chosen_args made
        · exact chosen_args made
      · refine ⟨_, bare, ?_⟩
        rw [Option.bind_some] at made
        split at made
        · exact chosen_args made
        · exact chosen_args made
      · next fields found =>
        have inside : Json.size (.object fields) ≤ record.size := by
          cases record with
          | object slots => exact Json.field_size_le found
          | _ => cases found
        have capped : (capToolArgs (.object fields)).size ≤ maxToolArgs :=
          cap_tool_args_size_le (by omega)
        refine ⟨_, capped, ?_⟩
        rw [Option.bind_some] at made
        split at made
        · exact chosen_args made
        · exact chosen_args made
      · cases made
  obtain ⟨args, bounded, same⟩ := small
  rw [same]
  exact bounded

/-- A record of the past becomes a message within all limits. -/
theorem Message.of_record_fits {record : Json} {message : Message}
    (made : Message.ofRecord? record = some message)
    (counted : (record.size : Int) ≤ Json.largestInteger) :
    message.Fits ∧ message.content.utf8ByteSize ≤ maxContent := by
  simp only [Message.ofRecord?, Option.bind_eq_bind, Option.bind_eq_some_iff,
    Option.some.injEq] at made
  obtain ⟨fields, record_fields, _, _, id, named, _, _, role, _, _, _, content, _, _, _, _, _,
    tools, calls, cards, attached, rfl⟩ := made
  have slots : record = .object fields := by
    cases record with
    | object slots =>
        cases record_fields
        rfl
    | _ => cases record_fields
  obtain ⟨few, each⟩ := list_of_record_cases calls
  obtain ⟨fewCards, eachCard⟩ := list_of_record_cases attached
  refine ⟨⟨id_of_record_size named, few, ?_, fewCards, ?_⟩, cut_text_size_le _ _⟩
  · intro call member
    obtain ⟨sources, source, slot, inside, same⟩ := each call member
    have part := Json.field_size_le slot
    have item := Json.item_size_le inside
    rw [slots] at counted
    exact ToolCall.of_record_size same (by omega)
  · intro card member
    obtain ⟨_, _, _, _, same⟩ := eachCard card member
    exact Card.of_record_size same

/-! What each action makes of the messages. -/

theorem Message.plain_fits {stamp : Stamp} (named : stamp.id.utf8ByteSize ≤ maxId) (role : Role)
    (content : String) : (plain stamp role content).Fits :=
  ⟨named, Nat.zero_le _, nofun, Nat.zero_le _, nofun⟩

/-- A notice is of the system and complete, so what is spoken or still arrives is within the
limits. -/
theorem Message.Admissible.spoken_content {script : List (Stamp × Action)} {message : Message}
    (admissible : message.Admissible script)
    (spoken : message.role ≠ .system ∨ message.streaming = true) :
    message.content.utf8ByteSize ≤ maxContent := by
  rcases admissible.content with short | ⟨stamp, error, _, rfl⟩
  · exact short
  · rcases spoken with other | streaming
    · exact absurd rfl other
    · cases streaming

namespace State

def Admissible (script : List (Message.Stamp × Action)) (state : State) : Prop :=
  ∀ message ∈ state.messages, message.Admissible script

variable {script : List (Message.Stamp × Action)} {state : State} {stamp : Message.Stamp}

theorem update_first_mem {Item : Type} {test : Item → Bool} {change : Item → Item}
    {items : List Item} {item : Item} (member : item ∈ updateFirst test change items) :
    item ∈ items ∨ ∃ old ∈ items, test old = true ∧ item = change old := by
  induction items with
  | nil => cases member
  | cons head rest induction =>
      unfold updateFirst at member
      split at member
      · next passes =>
        rcases List.mem_cons.mp member with rfl | later
        · exact .inr ⟨head, List.mem_cons_self, passes, rfl⟩
        · exact .inl (List.mem_cons_of_mem _ later)
      · rcases List.mem_cons.mp member with rfl | later
        · exact .inl List.mem_cons_self
        · rcases induction later with same | ⟨old, inside, passes, same⟩
          · exact .inl (List.mem_cons_of_mem _ same)
          · exact .inr ⟨old, List.mem_cons_of_mem _ inside, passes, same⟩

theorem update_last_mem {Item : Type} {test : Item → Bool} {change : Item → Item}
    {items : List Item} {item : Item} (member : item ∈ updateLast test change items) :
    item ∈ items ∨ ∃ old ∈ items, test old = true ∧ item = change old := by
  rcases update_first_mem (List.mem_reverse.mp member) with same | ⟨old, inside, changed⟩
  · exact .inl (List.mem_reverse.mp same)
  · exact .inr ⟨old, List.mem_reverse.mp inside, changed⟩

theorem update_last_length {Item : Type} (test : Item → Bool) (change : Item → Item)
    (items : List Item) : (updateLast test change items).length = items.length := by
  have same := congrArg List.length
    (update_last_map (fun _ => ()) test change (fun _ _ => rfl) items)
  rwa [List.length_map, List.length_map] at same

theorem append_admissible {earlier : List Message} {message : Message}
    (admissible : ∀ old ∈ earlier, old.Admissible script) (last : message.Admissible script) :
    ∀ other ∈ earlier ++ [message], other.Admissible script :=
  List.forall_mem_append.mpr ⟨admissible, List.forall_mem_singleton.mpr last⟩

theorem set_last_admissible {message : Message} (admissible : state.Admissible script)
    (last : message.Admissible script) : (state.setLast message).Admissible script :=
  append_admissible
    (fun other member => admissible other (List.dropLast_subset _ member)) last

theorem finalize_admissible {serverId : Option String}
    (named : ∀ id, serverId = some id → id.utf8ByteSize ≤ maxId)
    (admissible : state.Admissible script) : (state.finalize serverId).Admissible script := by
  intro message member
  obtain ⟨old, inside, same⟩ := List.mem_map.mp member
  have before := admissible old inside
  split at same
  · next streaming =>
    have short := before.spoken_content (.inr streaming)
    rw [← same]
    refine ⟨⟨?_, before.fits.tools, before.fits.args, before.fits.cards, before.fits.data⟩,
      .inl short⟩
    cases given : serverId with
    | none => exact before.fits.id
    | some id => exact named id given
  · rw [← same]
    exact before

theorem send_admissible (text : String) (named : stamp.id.utf8ByteSize ≤ maxId)
    (admissible : state.Admissible script) : (state.send stamp text).1.Admissible script := by
  simp only [send]
  split
  · exact admissible
  · next accepted =>
    refine append_admissible admissible ⟨Message.plain_fits named _ _, .inl ?_⟩
    simp only [not_or, Nat.not_lt] at accepted
    exact Nat.le_trans accepted.2.1 (by decide)

theorem accept_admissible (localId serverId : String) (admissible : state.Admissible script) :
    (state.accept localId serverId).Admissible script := by
  simp only [accept]
  split
  · next valid =>
    intro message member
    rcases update_last_mem member with same | ⟨old, inside, own, rfl⟩
    · exact admissible message same
    · have before := admissible old inside
      have spoken : old.role ≠ .system := by
        simp only [Bool.and_eq_true, decide_eq_true_eq] at own
        rw [own.1]
        rintro ⟨⟩
      have short := before.spoken_content (.inl spoken)
      exact ⟨⟨valid_id_size valid, before.fits.tools, before.fits.args, before.fits.cards,
        before.fits.data⟩, .inl short⟩
  · exact admissible

theorem fail_send_admissible {error : String} (named : stamp.id.utf8ByteSize ≤ maxId)
    (given : (stamp, Action.sendFailed error) ∈ script) (admissible : state.Admissible script) :
    (state.failSend stamp error).Admissible script := by
  have ended : (state.finalize none).Admissible script := finalize_admissible nofun admissible
  exact append_admissible ended
    ⟨Message.plain_fits named _ _, .inr ⟨stamp, error, given, rfl⟩⟩

theorem token_admissible (text : String) (named : stamp.id.utf8ByteSize ≤ maxId)
    (admissible : state.Admissible script) : (state.token stamp text).Admissible script := by
  unfold token
  split
  · next reply arriving =>
    split
    · exact admissible
    · next short =>
      have before := admissible reply (List.mem_of_getLast? (open_reply_last arriving).1)
      refine set_last_admissible admissible ⟨⟨before.fits.id, before.fits.tools,
        before.fits.args, before.fits.cards, before.fits.data⟩, .inl ?_⟩
      rw [String.utf8ByteSize_append]
      exact Nat.not_lt.mp short
  · split
    · exact admissible
    · next short =>
      have made := Message.plain_fits named .agent text
      exact append_admissible admissible ⟨⟨made.id, made.tools, made.args, made.cards,
        made.data⟩, .inl (Nat.not_lt.mp short)⟩

theorem tool_started_admissible (tool : String) {args : Json}
    (counted : (args.size : Int) ≤ Json.largestInteger) (admissible : state.Admissible script) :
    (state.toolStarted tool args).Admissible script := by
  unfold toolStarted
  split
  · next reply arriving =>
    split
    · next room =>
      obtain ⟨last, streaming, _⟩ := open_reply_last arriving
      have before := admissible reply (List.mem_of_getLast? last)
      have short := before.spoken_content (.inr streaming)
      refine set_last_admissible admissible ⟨⟨before.fits.id, ?_, ?_, before.fits.cards,
        before.fits.data⟩, .inl short⟩
      · rw [List.length_append]
        exact room
      · intro call member
        rcases List.mem_append.mp member with earlier | same
        · exact before.fits.args call earlier
        · rw [List.mem_singleton.mp same]
          exact cap_tool_args_size_le counted
    · exact admissible
  · exact admissible

/-- The end of a call changes nothing but its status. -/
theorem tool_finished_admissible (tool : String) (success : Bool)
    (admissible : state.Admissible script) :
    (state.toolFinished tool success).Admissible script := by
  simp only [toolFinished]
  split
  · next reply answered =>
    obtain ⟨last, agent⟩ := Option.filter_eq_some_iff.mp answered
    have before := admissible reply (List.mem_of_getLast? last)
    have spoken : reply.role ≠ .system := by
      rw [of_decide_eq_true agent]
      rintro ⟨⟩
    have short := before.spoken_content (.inl spoken)
    refine set_last_admissible admissible ⟨⟨before.fits.id, ?_, ?_, before.fits.cards,
      before.fits.data⟩, .inl short⟩
    · dsimp only
      rw [update_last_length]
      exact before.fits.tools
    · intro call member
      rcases update_last_mem member with same | ⟨old, inside, _, rfl⟩
      · exact before.fits.args call same
      · exact before.fits.args old inside
  · exact admissible

theorem perform_admissible {action : Action} (given : (stamp, action) ∈ script)
    (named : stamp.id.utf8ByteSize ≤ maxId) (counted : action.Counted)
    (admissible : state.Admissible script) :
    (state.perform stamp action).1.Admissible script := by
  cases action with
  | send text => exact send_admissible text named admissible
  | sendAccepted localId serverId => exact accept_admissible localId serverId admissible
  | sendFailed error => exact fail_send_admissible named given admissible
  | token text => exact token_admissible text named admissible
  | toolStarted tool args => exact tool_started_admissible tool counted admissible
  | toolFinished tool success => exact tool_finished_admissible tool success admissible
  | done messageId =>
      refine finalize_admissible ?_ admissible
      intro id given
      exact valid_id_size (Option.filter_eq_some_iff.mp given).2
  | loadHistory records =>
      intro message member
      simp only [perform, replace, ofRecords] at member
      obtain ⟨record, inside, made⟩ := List.mem_filterMap.mp (mem_of_mem_newest member)
      obtain ⟨fits, short⟩ := Message.of_record_fits made (counted record inside)
      exact ⟨fits, .inl short⟩
  | clear => exact nofun

theorem after_admissible {entry : Message.Stamp × Action} (given : entry ∈ script)
    (named : entry.1.id.utf8ByteSize ≤ maxId) (counted : entry.2.Counted)
    (admissible : state.Admissible script) : (state.after entry).Admissible script := by
  have performed := perform_admissible given named counted admissible
  intro message member
  rw [after, apply_fst] at member
  dsimp only at member
  exact performed message (mem_of_mem_newest member)

theorem script_admissible (named : ∀ entry ∈ script, entry.1.id.utf8ByteSize ≤ maxId)
    (counted : ∀ entry ∈ script, entry.2.Counted) :
    (script.foldl after empty).Admissible script :=
  List.foldlRecOn script after nofun fun _ admissible entry given =>
    after_admissible given (named entry given) (counted entry given) admissible

/-- Whatever is done to an empty conversation, with identifiers of its own that are short, every
message stays within the limits, except that the notice of a failed submission is as long as what
it quotes. So all content is bounded if the texts of failures are. -/
theorem script_messages_bounded (script : List (Message.Stamp × Action))
    (named : ∀ entry ∈ script, entry.1.id.utf8ByteSize ≤ maxId)
    (counted : ∀ entry ∈ script, entry.2.Counted) :
    (∀ message ∈ (script.foldl after empty).messages,
      message.Fits ∧
        (message.content.utf8ByteSize ≤ maxContent ∨ message.Quotes script)) ∧
    ((∀ stamp error, (stamp, Action.sendFailed error) ∈ script →
        ("Failed to send message: " ++ error).utf8ByteSize ≤ maxContent) →
      ∀ message ∈ (script.foldl after empty).messages,
        message.content.utf8ByteSize ≤ maxContent) := by
  have admissible := script_admissible named counted
  refine ⟨fun message member => ?_, fun short message member => ?_⟩
  · exact ⟨(admissible message member).fits, (admissible message member).content⟩
  · rcases (admissible message member).content with fits | ⟨stamp, error, given, rfl⟩
    · exact fits
    · exact short stamp error given

/-- A reply with a call, and a submission that fails. -/
def interrupted : List (Message.Stamp × Action) :=
  [({ id := "local-1", time := default }, .token "Searching"),
    ({ id := "local-2", time := default }, .toolStarted "search" (.object [])),
    ({ id := "local-3", time := default }, .sendFailed "server answered 500: down")]

theorem interrupted_messages :
    (interrupted.foldl after empty).messages =
      [{ Message.plain { id := "local-1", time := default } .agent "Searching" with
          tools := [⟨"search", .object [], .running⟩] },
        .plain { id := "local-3", time := default } .system
          "Failed to send message: server answered 500: down"] := by
  rfl

theorem interrupted_bounded :
    (∀ entry ∈ interrupted, entry.1.id.utf8ByteSize ≤ maxId) ∧
      (∀ entry ∈ interrupted, entry.2.Counted) ∧
      ∃ message ∈ (interrupted.foldl after empty).messages,
        message.tools = [⟨"search", .object [], .running⟩] ∧ message.Fits := by
  have named : ∀ entry ∈ interrupted, entry.1.id.utf8ByteSize ≤ maxId := by decide
  have small : (Json.size (.object []) : Int) ≤ Json.largestInteger := by decide
  have counted : ∀ entry ∈ interrupted, entry.2.Counted := by
    simp [interrupted, Action.Counted, small]
  have bounded := (script_messages_bounded interrupted named counted).1
  rw [interrupted_messages] at bounded ⊢
  exact ⟨named, counted, _, List.mem_cons_self, rfl, (bounded _ List.mem_cons_self).1⟩

theorem replicate_size (count : Nat) : size (List.replicate count 'x') = count := by
  induction count with
  | zero => rfl
  | succ count induction =>
      have one : 'x'.utf8Size = 1 := by decide
      rw [List.replicate_succ, size, induction, one, Nat.add_comm]

/-- A failure as long as a message may be. -/
def longFailure : String := String.ofList (List.replicate maxContent 'x')

/-- Its notice is longer than that. -/
theorem long_failure_unbounded :
    ∃ message ∈ ([(({ id := "local-1", time := default } : Message.Stamp),
        Action.sendFailed longFailure)].foldl after empty).messages,
      message.role = .system ∧ message.content.utf8ByteSize = maxContent + 24 ∧
        ¬message.content.utf8ByteSize ≤ maxContent := by
  have long : longFailure.utf8ByteSize = maxContent := by
    rw [longFailure, size_of_list, replicate_size]
  have quoted : ("Failed to send message: ").utf8ByteSize = 24 := by decide
  refine ⟨.plain { id := "local-1", time := default } .system
    ("Failed to send message: " ++ longFailure), List.mem_cons_self, rfl, ?_⟩
  rw [Message.plain, String.utf8ByteSize_append, long, quoted, Nat.add_comm]
  exact ⟨rfl, by omega⟩

end State

end LiveChat.Conversation
