import LiveChat.Conversation.Basic
import Mathlib.Data.List.Basic
import Mathlib.Data.List.Forall2
import Mathlib.Data.List.TakeDrop

/-!
Only the last message of a conversation can be a reply that is still arriving. The flag of the
conversation guards sends, a failure ends the reply before its notice is added, and no record of
the past is open. Together these keep it so under every sequence of actions.
-/

set_option autoImplicit false

namespace LiveChat.Conversation

/-- No message is still arriving. -/
def Quiet (messages : List Message) : Prop := ∀ message ∈ messages, message.streaming = false

/-- What the order of a conversation depends on. -/
def Message.shape (message : Message) : Role × Bool := (message.role, message.streaming)

theorem Message.open_reply_iff (message : Message) :
    message.isOpenReply = true ↔ message.streaming = true ∧ message.role = .agent := by
  simp [isOpenReply]

/-- A record of the past is never open. -/
theorem Message.of_record_settled {record : Json} {message : Message}
    (made : Message.ofRecord? record = some message) : message.streaming = false := by
  simp only [Message.ofRecord?, Option.bind_eq_bind, Option.bind_eq_some_iff,
    Option.some.injEq] at made
  obtain ⟨_, _, _, _, _, _, _, _, _, _, _, _, _, _, _, _, _, _, _, _, _, _, rfl⟩ := made
  rfl

theorem mem_of_mem_newest {Item : Type} {items : List Item} {item : Item}
    (member : item ∈ newest items) : item ∈ items :=
  List.mem_of_mem_drop member

/-- The newest message is never dropped. -/
theorem newest_last {Item : Type} (items : List Item) :
    (newest items).getLast? = items.getLast? := by
  simp only [newest, List.getLast?_drop]
  split
  · next all =>
    have empty : items = [] := by
      apply List.length_eq_zero_iff.mp
      simp only [maxMessages] at all
      omega
    rw [empty]
    rfl
  · rfl

theorem of_records_quiet (records : List Json) : Quiet (ofRecords records) := by
  intro message member
  obtain ⟨record, _, made⟩ := List.mem_filterMap.mp (mem_of_mem_newest member)
  exact Message.of_record_settled made

namespace State

theorem update_first_map {Item Image : Type} (view : Item → Image) (test : Item → Bool)
    (change : Item → Item) (kept : ∀ item, test item = true → view (change item) = view item)
    (items : List Item) : (updateFirst test change items).map view = items.map view := by
  induction items with
  | nil => rfl
  | cons item rest induction =>
      unfold updateFirst
      split
      · next passes => rw [List.map_cons, List.map_cons, kept item passes]
      · rw [List.map_cons, List.map_cons, induction]

/-- Changing an item shows only where the change does. -/
theorem update_last_map {Item Image : Type} (view : Item → Image) (test : Item → Bool)
    (change : Item → Item) (kept : ∀ item, test item = true → view (change item) = view item)
    (items : List Item) : (updateLast test change items).map view = items.map view := by
  rw [updateLast, List.map_reverse, update_first_map view test change kept, List.map_reverse,
    List.reverse_reverse]

/-- What is still arriving is the last message, a reply, and the flag says so. -/
structure Orderly (state : State) : Prop where
  earlier : Quiet state.messages.dropLast
  last : ∀ message, state.last? = some message → message.streaming = true →
    message.role = .agent ∧ state.streaming = true

def Bounded (state : State) : Prop := state.messages.length ≤ maxMessages

variable {state : State}

theorem orderly_of_quiet (quiet : Quiet state.messages) : state.Orderly := by
  constructor
  · intro message member
    exact quiet message (List.dropLast_subset _ member)
  · intro message last streaming
    rw [quiet message (List.mem_of_getLast? last)] at streaming
    cases streaming

theorem empty_orderly : empty.Orderly := orderly_of_quiet nofun

theorem messages_split {reply : Message} (last : state.last? = some reply) :
    state.messages.dropLast ++ [reply] = state.messages :=
  List.dropLast_append_getLast? reply last

/-- A message is the last one or one of those before it. -/
theorem mem_messages {message : Message} (member : message ∈ state.messages) :
    message ∈ state.messages.dropLast ∨ state.last? = some message := by
  cases last : state.last? with
  | none =>
      rw [List.getLast?_eq_none_iff.mp last] at member
      cases member
  | some final =>
      rw [← messages_split last] at member
      rcases by simpa using member with before | rfl
      · exact .inl before
      · exact .inr rfl

/-- Without an open reply at its end, an orderly conversation is quiet. -/
theorem quiet_of_settled (orderly : state.Orderly) (settled : state.openReply? = none) :
    Quiet state.messages := by
  intro message member
  rcases mem_messages member with before | last
  · exact orderly.earlier message before
  · cases streaming : message.streaming with
    | false => rfl
    | true =>
        have role := (orderly.last message last streaming).1
        simp [openReply?, last, Message.isOpenReply, streaming, role] at settled

theorem open_reply_last {reply : Message} (arriving : state.openReply? = some reply) :
    state.last? = some reply ∧ reply.streaming = true ∧ reply.role = .agent := by
  obtain ⟨last, opened⟩ := Option.filter_eq_some_iff.mp arriving
  exact ⟨last, reply.open_reply_iff.mp opened⟩

/-- While the flag is down nothing is arriving. -/
theorem settled_of_idle (orderly : state.Orderly) (idle : state.streaming = false) :
    state.openReply? = none := by
  cases arriving : state.openReply? with
  | none => rfl
  | some reply =>
      obtain ⟨last, streaming, _⟩ := open_reply_last arriving
      rw [(orderly.last reply last streaming).2] at idle
      cases idle

/-- What is still arriving is at the end. -/
theorem streaming_last (orderly : state.Orderly) {index : Nat} {message : Message}
    (found : state.messages[index]? = some message) (streaming : message.streaming = true) :
    index + 1 = state.messages.length := by
  obtain ⟨inside, _⟩ := List.getElem?_eq_some_iff.mp found
  by_contra inner
  have before : state.messages.dropLast[index]? = some message := by
    rw [List.getElem?_dropLast, if_pos (by omega)]
    exact found
  rw [orderly.earlier message (List.mem_of_getElem? before)] at streaming
  cases streaming

theorem orderly_of_shapes {other : State} (orderly : state.Orderly)
    (shapes : other.messages.map Message.shape = state.messages.map Message.shape)
    (flag : other.streaming = state.streaming) : other.Orderly := by
  constructor
  · intro message member
    have seen : message.shape ∈ (other.messages.map Message.shape).dropLast := by
      rw [← List.map_dropLast]
      exact List.mem_map_of_mem member
    rw [shapes, ← List.map_dropLast] at seen
    obtain ⟨same, before, agree⟩ := List.mem_map.mp seen
    exact (congrArg Prod.snd agree).symm.trans (orderly.earlier same before)
  · intro message last streaming
    have seen : (other.messages.map Message.shape).getLast? = some message.shape := by
      rw [List.getLast?_map, show other.messages.getLast? = _ from last]
      rfl
    rw [shapes, List.getLast?_map] at seen
    obtain ⟨same, sameLast, agree⟩ := Option.map_eq_some_iff.mp seen
    obtain ⟨role, up⟩ := orderly.last same sameLast ((congrArg Prod.snd agree).trans streaming)
    exact ⟨(congrArg Prod.fst agree).symm.trans role, flag.trans up⟩

/-- A message at the end of quiet ones is in order if it is complete, or a reply that the flag
announces. -/
theorem orderly_of_append {earlier : List Message} {message : Message} (quiet : Quiet earlier)
    (messages : state.messages = earlier ++ [message])
    (announced : message.streaming = true → message.role = .agent ∧ state.streaming = true) :
    state.Orderly := by
  constructor
  · rw [messages, List.dropLast_concat]
    exact quiet
  · intro other last
    rw [last?, messages, List.getLast?_concat] at last
    cases last
    exact announced

theorem newest_orderly (orderly : state.Orderly) :
    { state with messages := newest state.messages }.Orderly := by
  constructor
  · intro message member
    simp only [newest, List.dropLast_drop_eq_drop_dropLast] at member
    exact orderly.earlier message (List.mem_of_mem_drop member)
  · intro message last
    simp only [last?, newest_last] at last
    exact orderly.last message last

/-! Each action keeps the order. -/

theorem finalize_quiet (state : State) (serverId : Option String) :
    Quiet (state.finalize serverId).messages := by
  intro message member
  obtain ⟨before, _, made⟩ := List.mem_map.mp member
  split at made
  · rw [← made]
  · next settled =>
    rw [← made]
    simpa using settled

theorem send_orderly (stamp : Message.Stamp) (text : String) (orderly : state.Orderly) :
    (state.send stamp text).1.Orderly := by
  simp only [send]
  split
  · exact orderly
  · next admitted =>
    have idle : state.streaming = false := by simp_all
    have quiet := quiet_of_settled orderly (settled_of_idle orderly idle)
    exact orderly_of_append quiet rfl nofun

theorem accept_shapes (localId serverId : String) (state : State) :
    (state.accept localId serverId).messages.map Message.shape =
        state.messages.map Message.shape ∧
      (state.accept localId serverId).streaming = state.streaming := by
  simp only [accept]
  split
  · refine ⟨update_last_map Message.shape _ _ ?_ state.messages, rfl⟩
    intro message _
    rfl
  · exact ⟨rfl, rfl⟩

theorem fail_send_orderly (stamp : Message.Stamp) (error : String) (state : State) :
    (state.failSend stamp error).Orderly :=
  orderly_of_append (finalize_quiet state none) rfl nofun

theorem token_orderly (stamp : Message.Stamp) (text : String) (orderly : state.Orderly) :
    (state.token stamp text).Orderly := by
  unfold token
  split
  · next reply arriving =>
    split
    · exact orderly
    · have role := (open_reply_last arriving).2.2
      exact orderly_of_append orderly.earlier rfl fun _ => ⟨role, rfl⟩
  · next settled =>
    split
    · exact orderly
    · exact orderly_of_append (quiet_of_settled orderly settled) rfl fun _ => ⟨rfl, rfl⟩

theorem set_last_related {related : Message → Message → Prop} {reply next : Message}
    (same : ∀ message, related message message) (last : state.last? = some reply)
    (changed : related reply next) :
    List.Forall₂ related state.messages (state.setLast next).messages := by
  have before : List.Forall₂ related state.messages.dropLast state.messages.dropLast :=
    List.forall₂_same.mpr fun message _ => same message
  rw [setLast]
  nth_rewrite 1 [← messages_split last]
  exact List.rel_append before (.cons changed .nil)

/-- What is the same of the last message and the one in its place is the same of all. -/
theorem set_last_map {Kind : Type} {view : Message → Kind} {reply next : Message}
    (last : state.last? = some reply) (same : view next = view reply) :
    (state.setLast next).messages.map view = state.messages.map view := by
  rw [setLast, List.map_append, ← messages_split last, List.dropLast_concat, List.map_append,
    List.map_singleton, List.map_singleton, same]

/-- The tools of the last message make no difference to its shape. -/
theorem set_tools_shapes {reply : Message} (tools : List ToolCall)
    (last : state.last? = some reply) :
    (state.setLast { reply with tools }).messages.map Message.shape =
      state.messages.map Message.shape :=
  set_last_map last rfl

theorem tool_started_shapes (tool : String) (args : Json) (state : State) :
    (state.toolStarted tool args).messages.map Message.shape =
        state.messages.map Message.shape ∧
      (state.toolStarted tool args).streaming = state.streaming := by
  unfold toolStarted
  split
  · next arriving =>
    split
    · exact ⟨set_tools_shapes _ (open_reply_last arriving).1, rfl⟩
    · exact ⟨rfl, rfl⟩
  · exact ⟨rfl, rfl⟩

theorem tool_finished_shapes (tool : String) (success : Bool) (state : State) :
    (state.toolFinished tool success).messages.map Message.shape =
        state.messages.map Message.shape ∧
      (state.toolFinished tool success).streaming = state.streaming := by
  simp only [toolFinished]
  split
  · next answered => exact ⟨set_tools_shapes _ (Option.filter_eq_some_iff.mp answered).1, rfl⟩
  · exact ⟨rfl, rfl⟩

theorem replace_orderly {messages : List Message} (quiet : Quiet messages) :
    (state.replace messages).Orderly :=
  orderly_of_quiet quiet

theorem perform_orderly (stamp : Message.Stamp) (action : Action) (orderly : state.Orderly) :
    (state.perform stamp action).1.Orderly := by
  cases action with
  | send text => exact send_orderly stamp text orderly
  | sendAccepted localId serverId =>
      obtain ⟨shapes, flag⟩ := accept_shapes localId serverId state
      exact orderly_of_shapes orderly shapes flag
  | sendFailed error => exact fail_send_orderly stamp error state
  | token text => exact token_orderly stamp text orderly
  | toolStarted tool args =>
      obtain ⟨shapes, flag⟩ := tool_started_shapes tool args state
      exact orderly_of_shapes orderly shapes flag
  | toolFinished tool success =>
      obtain ⟨shapes, flag⟩ := tool_finished_shapes tool success state
      exact orderly_of_shapes orderly shapes flag
  | done messageId => exact orderly_of_quiet (finalize_quiet state _)
  | loadHistory records => exact replace_orderly (of_records_quiet records)
  | clear => exact replace_orderly nofun

theorem apply_fst (stamp : Message.Stamp) (action : Action) (state : State) :
    (state.apply stamp action).1 =
      { (state.perform stamp action).1 with
        messages := newest (state.perform stamp action).1.messages } := by
  simp only [apply]

theorem apply_orderly (stamp : Message.Stamp) (action : Action) (orderly : state.Orderly) :
    (state.apply stamp action).1.Orderly := by
  rw [apply_fst]
  exact newest_orderly (perform_orderly stamp action orderly)

theorem apply_bounded (stamp : Message.Stamp) (action : Action) (state : State) :
    (state.apply stamp action).1.Bounded := by
  simp only [Bounded, apply_fst]
  exact newest_length (state.perform stamp action).1.messages

/-- The conversation after one action, with the stamp of what it makes. -/
def after (state : State) (entry : Message.Stamp × Action) : State :=
  (state.apply entry.1 entry.2).1

/-- What every action keeps, every script keeps. -/
theorem script_keeps {holds : State → Prop} (script : List (Message.Stamp × Action))
    (each : ∀ before entry, holds before → holds (before.after entry)) (start : holds state) :
    holds (script.foldl after state) := by
  induction script generalizing state with
  | nil => exact start
  | cons entry rest induction =>
      rw [List.foldl_cons]
      exact induction (each state entry start)

theorem count_streaming_le {messages : List Message} (quiet : Quiet messages.dropLast) :
    messages.countP (·.streaming) ≤ 1 := by
  cases last : messages.getLast? with
  | none => simp [List.getLast?_eq_none_iff.mp last]
  | some final =>
      have noneBefore : messages.dropLast.countP (·.streaming) = 0 :=
        List.countP_eq_zero.mpr fun message member => by simp [quiet message member]
      rw [← List.dropLast_append_getLast? final last, List.countP_append, noneBefore,
        Nat.zero_add]
      exact List.countP_le_length

/-- Whatever is done to an empty conversation, it stays within its limit, and one message at most
is still arriving: a reply, the last message, announced by the flag. -/
theorem script_open_reply_last (script : List (Message.Stamp × Action)) :
    (script.foldl after empty).messages.length ≤ maxMessages ∧
      (script.foldl after empty).messages.countP (·.streaming) ≤ 1 ∧
      ∀ index message, (script.foldl after empty).messages[index]? = some message →
        message.streaming = true →
          index + 1 = (script.foldl after empty).messages.length ∧ message.role = .agent ∧
            (script.foldl after empty).streaming = true := by
  have bounded : (script.foldl after empty).Bounded :=
    script_keeps script (fun before entry _ => apply_bounded entry.1 entry.2 before)
      (Nat.zero_le _)
  have orderly : (script.foldl after empty).Orderly :=
    script_keeps script (fun _ entry => apply_orderly entry.1 entry.2) empty_orderly
  refine ⟨bounded, count_streaming_le orderly.earlier, ?_⟩
  intro index message found streaming
  have final := streaming_last orderly found streaming
  refine ⟨final, orderly.last message ?_ streaming⟩
  rw [last?, List.getLast?_eq_getElem?, ← final]
  exact found

end State

end LiveChat.Conversation
