import LiveChat.Proofs.Conversation.OpenReply

/-!
The stamps of new messages decide nothing. Conversations that hear the same events under different
stamps differ only in the identifiers and the times that the stamps gave.
-/

set_option autoImplicit false

namespace LiveChat.Conversation

/-- Two messages that are alike except for what two stamps, given at the same point, gave them. -/
structure Message.Twin (stamps : List (Stamp × Stamp)) (pair : Message × Message) : Prop where
  same : pair.2 = { pair.1 with id := pair.2.id, timestamp := pair.2.timestamp }
  id : pair.1.id = pair.2.id ∨ ∃ given ∈ stamps, pair.1.id = given.1.id ∧ pair.2.id = given.2.id
  timestamp : pair.1.timestamp = pair.2.timestamp ∨
    ∃ given ∈ stamps, pair.1.timestamp = given.1.time ∧ pair.2.timestamp = given.2.time

/-- Two conversations of which each message of one is a twin of that of the other. -/
structure State.Twins (stamps : List (Message.Stamp × Message.Stamp)) (first second : State) :
    Prop where
  messages : ∃ pairs : List (Message × Message), first.messages = pairs.map (·.1) ∧
    second.messages = pairs.map (·.2) ∧ ∀ pair ∈ pairs, Message.Twin stamps pair
  streaming : first.streaming = second.streaming
  epoch : first.epoch = second.epoch
  appended : first.appended = second.appended

variable {stamps : List (Message.Stamp × Message.Stamp)}

theorem Message.twin_self (stamps : List (Stamp × Stamp)) (message : Message) :
    Twin stamps (message, message) := ⟨rfl, .inl rfl, .inl rfl⟩

theorem Message.twin_more {pair : Message × Message} (more : List (Stamp × Stamp))
    (twin : Twin stamps pair) : Twin (stamps ++ more) pair := by
  refine ⟨twin.same, ?_, ?_⟩
  · rcases twin.id with same | ⟨given, member, both⟩
    · exact .inl same
    · exact .inr ⟨given, List.mem_append_left more member, both⟩
  · rcases twin.timestamp with same | ⟨given, member, both⟩
    · exact .inl same
    · exact .inr ⟨given, List.mem_append_left more member, both⟩

theorem Message.twin_reply {given : Stamp × Stamp} (member : given ∈ stamps) (text : String) :
    Twin stamps (reply given.1 text, reply given.2 text) :=
  ⟨rfl, .inr ⟨given, member, rfl, rfl⟩, .inr ⟨given, member, rfl, rfl⟩⟩

/-- What twins say apart from their stamps is the same. -/
theorem Message.twin_alike {pair : Message × Message} (twin : Twin stamps pair) :
    pair.1.streaming = pair.2.streaming ∧ pair.1.role = pair.2.role ∧
      pair.1.content = pair.2.content ∧ pair.1.tools = pair.2.tools := by
  have same := twin.same
  generalize pair.2 = second at same
  rw [same]
  exact ⟨rfl, rfl, rfl, rfl⟩

/-- A change that looks at no stamp and keeps those that are there makes twins of twins. -/
theorem Message.twin_changed {pair : Message × Message} (change : Message → Message)
    (kept : ∀ message id timestamp,
      change { message with id, timestamp } = { change message with id, timestamp })
    (twin : Twin stamps pair) : Twin stamps (change pair.1, change pair.2) := by
  have own : ∀ message, (change message).id = message.id ∧
      (change message).timestamp = message.timestamp := by
    intro message
    have same := kept message message.id message.timestamp
    exact ⟨Eq.trans (congrArg Message.id same) rfl, Eq.trans (congrArg timestamp same) rfl⟩
  refine ⟨?_, ?_, ?_⟩
  · simp only [(own pair.2).1, (own pair.2).2, ← kept, ← twin.same]
  · simpa only [(own pair.1).1, (own pair.2).1] using twin.id
  · simpa only [(own pair.1).2, (own pair.2).2] using twin.timestamp

namespace State

variable {first second : State}

theorem twins_self (stamps : List (Message.Stamp × Message.Stamp)) (state : State) :
    Twins stamps state state := by
  refine ⟨⟨state.messages.map fun message => (message, message), ?_, ?_, ?_⟩, rfl, rfl, rfl⟩
  · simp [Function.comp_def]
  · simp [Function.comp_def]
  · intro pair member
    obtain ⟨message, _, rfl⟩ := List.mem_map.mp member
    exact Message.twin_self stamps message

theorem twins_more (more : List (Message.Stamp × Message.Stamp))
    (twins : Twins stamps first second) : Twins (stamps ++ more) first second := by
  obtain ⟨⟨pairs, left, right, each⟩, streaming, epoch, appended⟩ := twins
  exact ⟨⟨pairs, left, right, fun pair member => Message.twin_more more (each pair member)⟩,
    streaming, epoch, appended⟩

/-- The last messages are twins, so a test that twins share passes on both or on neither. -/
theorem twins_last {test : Message → Bool} (twins : Twins stamps first second)
    (shared : ∀ pair, Message.Twin stamps pair → test pair.1 = test pair.2) :
    (first.last?.filter test = none ∧ second.last?.filter test = none) ∨
      ∃ earlier pair, first.messages = (earlier ++ [pair]).map (·.1) ∧
        second.messages = (earlier ++ [pair]).map (·.2) ∧
        (∀ other ∈ earlier, Message.Twin stamps other) ∧ Message.Twin stamps pair ∧
        first.last?.filter test = some pair.1 ∧ second.last?.filter test = some pair.2 := by
  obtain ⟨⟨pairs, left, right, each⟩, _, _, _⟩ := twins
  rcases List.eq_nil_or_concat pairs with rfl | ⟨earlier, pair, rfl⟩
  · exact .inl ⟨by simp [last?, left], by simp [last?, right]⟩
  · rw [List.concat_eq_append] at left right each
    have twin := each pair (by simp)
    have passes := shared pair twin
    have lastLeft : first.last? = some pair.1 := by simp [last?, left]
    have lastRight : second.last? = some pair.2 := by simp [last?, right]
    cases passed : test pair.1 with
    | false =>
        rw [passed] at passes
        exact .inl ⟨by simp [lastLeft, passed], by simp [lastRight, ← passes]⟩
    | true =>
        rw [passed] at passes
        exact .inr ⟨earlier, pair, left, right, fun other member => each other (by simp [member]),
          twin, by simp [lastLeft, passed], by simp [lastRight, ← passes]⟩

theorem twins_set_last {earlier : List (Message × Message)} {pair other : Message × Message}
    (twins : Twins stamps first second) (left : first.messages = (earlier ++ [pair]).map (·.1))
    (right : second.messages = (earlier ++ [pair]).map (·.2))
    (each : ∀ before ∈ earlier, Message.Twin stamps before) (twin : Message.Twin stamps other) :
    Twins stamps (first.setLast other.1) (second.setLast other.2) := by
  refine ⟨⟨earlier ++ [other], ?_, ?_, ?_⟩, twins.streaming, twins.epoch, twins.appended⟩
  · simp [setLast, left]
  · simp [setLast, right]
  · intro entry member
    rcases List.mem_append.mp member with before | last
    · exact each entry before
    · rw [List.mem_singleton.mp last]
      exact twin

theorem twins_push {pair : Message × Message} (twins : Twins stamps first second)
    (twin : Message.Twin stamps pair) : Twins stamps (first.push pair.1) (second.push pair.2) := by
  obtain ⟨⟨pairs, left, right, each⟩, streaming, epoch, appended⟩ := twins
  refine ⟨⟨pairs ++ [pair], ?_, ?_, ?_⟩, streaming, epoch, by simp [push, appended]⟩
  · simp [push, left]
  · simp [push, right]
  · intro entry member
    rcases List.mem_append.mp member with before | last
    · exact each entry before
    · rw [List.mem_singleton.mp last]
      exact twin

theorem twins_streaming (flag : Bool) (twins : Twins stamps first second) :
    Twins stamps { first with streaming := flag } { second with streaming := flag } :=
  ⟨twins.messages, rfl, twins.epoch, twins.appended⟩

theorem open_shared : ∀ pair : Message × Message, Message.Twin stamps pair →
    pair.1.isOpenReply = pair.2.isOpenReply := by
  intro pair twin
  obtain ⟨streaming, role, _, _⟩ := Message.twin_alike twin
  simp only [Message.isOpenReply, streaming, role]

theorem token_twins {given : Message.Stamp × Message.Stamp} (member : given ∈ stamps)
    (text : String) (twins : Twins stamps first second) :
    Twins stamps (first.token given.1 text) (second.token given.2 text) := by
  unfold token openReply?
  rcases twins_last twins open_shared with
    ⟨missing, missingToo⟩ | ⟨earlier, pair, left, right, each, twin, found, foundToo⟩
  · rw [missing, missingToo]
    simp only
    split
    · exact twins
    · exact twins_streaming true (twins_push twins (Message.twin_reply member text))
  · obtain ⟨_, _, content, _⟩ := Message.twin_alike twin
    rw [found, foundToo]
    by_cases long : maxContent < pair.1.content.utf8ByteSize + text.utf8ByteSize
    · have longToo : maxContent < pair.2.content.utf8ByteSize + text.utf8ByteSize := by
        rwa [← content]
      simpa only [if_pos long, if_pos longToo] using twins
    · have fits : ¬maxContent < pair.2.content.utf8ByteSize + text.utf8ByteSize := by
        rwa [← content]
      simp only [if_neg long, if_neg fits]
      have grown := Message.twin_changed
        (fun message => { message with content := message.content ++ text }) (fun _ _ _ => rfl) twin
      exact twins_streaming true (twins_set_last twins left right each grown)

theorem tool_started_twins (tool : String) (args : Json) (twins : Twins stamps first second) :
    Twins stamps (first.toolStarted tool args) (second.toolStarted tool args) := by
  unfold toolStarted openReply?
  rcases twins_last twins open_shared with
    ⟨missing, missingToo⟩ | ⟨earlier, pair, left, right, each, twin, found, foundToo⟩
  · rw [missing, missingToo]
    exact twins
  · obtain ⟨_, _, _, tools⟩ := Message.twin_alike twin
    rw [found, foundToo]
    by_cases room : pair.1.tools.length < maxTools
    · have roomToo : pair.2.tools.length < maxTools := by rwa [← tools]
      simp only [if_pos room, if_pos roomToo]
      have grown := Message.twin_changed
        (fun message => { message with
          tools := message.tools ++ [{ tool, args := capToolArgs args, status := .running }] })
        (fun _ _ _ => rfl) twin
      exact twins_set_last twins left right each grown
    · have full : ¬pair.2.tools.length < maxTools := by rwa [← tools]
      simpa only [if_neg room, if_neg full] using twins

theorem tool_finished_twins (tool : String) (success : Bool)
    (twins : Twins stamps first second) :
    Twins stamps (first.toolFinished tool success) (second.toolFinished tool success) := by
  have shared : ∀ pair : Message × Message, Message.Twin stamps pair →
      decide (pair.1.role = .agent) = decide (pair.2.role = .agent) := by
    intro pair twin
    rw [(Message.twin_alike twin).2.1]
  simp only [toolFinished]
  rcases @twins_last _ _ _ (fun message => message.role = .agent) twins shared with
    ⟨missing, missingToo⟩ | ⟨earlier, pair, left, right, each, twin, found, foundToo⟩
  · rw [missing, missingToo]
    exact twins
  · rw [found, foundToo]
    have ended := Message.twin_changed
      (fun message => { message with
        tools := updateLast (fun call => call.tool = tool && call.status = .running)
          (fun call => { call with
            status := if success then ToolStatus.success else ToolStatus.error }) message.tools })
      (fun _ _ _ => rfl) twin
    exact twins_set_last twins left right each ended

/-- The identifier that a reply takes from the server is the same on both. -/
theorem done_twins (messageId : Option String) (twins : Twins stamps first second) :
    Twins stamps (first.done messageId) (second.done messageId) := by
  obtain ⟨⟨pairs, left, right, each⟩, _, epoch, appended⟩ := twins
  let ended (message : Message) : Message :=
    if message.streaming then
      { message with streaming := false, id := (messageId.filter validId).getD message.id }
    else message
  refine ⟨⟨pairs.map fun pair => (ended pair.1, ended pair.2), ?_, ?_, ?_⟩, rfl, epoch, appended⟩
  · simp [done, finalize, left, ended, Function.comp_def]
  · simp [done, finalize, right, ended, Function.comp_def]
  · intro entry member
    obtain ⟨pair, former, rfl⟩ := List.mem_map.mp member
    have twin := each pair former
    have streaming := (Message.twin_alike twin).1
    cases arriving : pair.1.streaming with
    | false =>
        rw [arriving] at streaming
        simpa [ended, arriving, ← streaming] using twin
    | true =>
        rw [arriving] at streaming
        have both : (ended pair.1, ended pair.2) =
            ({ pair.1 with streaming := false, id := (messageId.filter validId).getD pair.1.id },
              { pair.2 with
                streaming := false, id := (messageId.filter validId).getD pair.2.id }) := by
          simp [ended, arriving, ← streaming]
        rw [both]
        refine ⟨?_, ?_, twin.timestamp⟩
        · exact congrArg (fun message : Message => { message with
            streaming := false, id := (messageId.filter validId).getD pair.2.id }) twin.same
        · cases messageId.filter validId with
          | none => exact twin.id
          | some serverId => exact .inl rfl

theorem perform_twins {given : Message.Stamp × Message.Stamp} (member : given ∈ stamps)
    (event : Stream.ChatEvent) (twins : Twins stamps first second) :
    Twins stamps (first.perform given.1 (.ofChat event)).1
      (second.perform given.2 (.ofChat event)).1 := by
  cases event with
  | token text => exact token_twins member text twins
  | done messageId => exact done_twins messageId twins
  | toolStart tool args => exact tool_started_twins tool args twins
  | toolResult tool success => exact tool_finished_twins tool success twins

theorem after_twins {given : Message.Stamp × Message.Stamp} (member : given ∈ stamps)
    (event : Stream.ChatEvent) (twins : Twins stamps first second) :
    Twins stamps (first.after (given.1, .ofChat event))
      (second.after (given.2, .ofChat event)) := by
  obtain ⟨⟨pairs, left, right, each⟩, streaming, epoch, appended⟩ :=
    perform_twins member event twins
  simp only [after, apply_fst]
  refine ⟨⟨newest pairs, ?_, ?_, ?_⟩, streaming, epoch, appended⟩
  · rw [left, newest, newest, List.map_drop, List.length_map]
  · rw [right, newest, newest, List.map_drop, List.length_map]
  · exact fun pair member => each pair (mem_of_mem_newest member)

theorem fold_twins_from (events : List Stream.ChatEvent) {first second : State}
    {given others : List Message.Stamp} (enough : given.length = events.length)
    (enoughToo : others.length = events.length) (twins : Twins stamps first second) :
    Twins (stamps ++ given.zip others) ((given.zip (events.map .ofChat)).foldl after first)
      ((others.zip (events.map .ofChat)).foldl after second) := by
  induction events generalizing stamps first second given others with
  | nil =>
      rw [List.length_nil, List.length_eq_zero_iff] at enough enoughToo
      subst enough enoughToo
      simpa using twins
  | cons event rest induction =>
      obtain ⟨stamp, given, rfl⟩ := List.exists_cons_of_length_eq_add_one enough
      obtain ⟨other, others, rfl⟩ := List.exists_cons_of_length_eq_add_one enoughToo
      -- The pair of stamps of this event joins those of the events before it.
      have grown := @after_twins (stamps ++ [(stamp, other)]) first second (stamp, other) (by simp)
        event (twins_more _ twins)
      have later := induction (Nat.succ.inj enough) (Nat.succ.inj enoughToo) grown
      rw [List.append_assoc, List.singleton_append] at later
      simpa only [List.zip_cons_cons, List.map_cons, List.foldl_cons] using later

/-- The same events under other stamps lead to a twin of the conversation. -/
theorem fold_twins (events : List Stream.ChatEvent) (state : State)
    {given others : List Message.Stamp} (enough : given.length = events.length)
    (enoughToo : others.length = events.length) :
    Twins (given.zip others) ((given.zip (events.map .ofChat)).foldl after state)
      ((others.zip (events.map .ofChat)).foldl after state) :=
  @fold_twins_from [] events state state given others enough enoughToo (twins_self [] state)

end State

end LiveChat.Conversation
