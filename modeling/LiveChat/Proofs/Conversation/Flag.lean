import LiveChat.Proofs.Conversation.OpenReply

/-!
The flag of a conversation, action by action. A send that is accepted and a token that joins a
reply raise it. The end of a reply, a failed submission and a list that is replaced as a whole
lower it, and leave no reply open. Nothing else touches it.
-/

set_option autoImplicit false

namespace LiveChat.Conversation

/-- What ends a reply and lowers the flag, whatever it was raised for. -/
def Action.Settles : Action → Prop
  | .done _ => True
  | .clear => True
  | .loadHistory _ => True
  | .sendFailed _ => True
  | _ => False

namespace State

/-- The last message is a reply to which more may be added. -/
def Arriving (state : State) : Prop :=
  ∃ reply, state.last? = some reply ∧ reply.streaming = true ∧ reply.role = .agent

/-- What an action makes of the flag and of the reply that arrives. -/
inductive Effect (action : Action) (before after : State) : Option Submission → Prop where
  | sent (submission : Submission) (asked : ∃ text, action = .send text)
      (raised : after.streaming = true) : Effect action before after (some submission)
  | settled (settles : action.Settles) (lowered : after.streaming = false)
      (quiet : Quiet after.messages) : Effect action before after none
  | joined (lasting : ¬action.Settles) (raised : after.streaming = true)
      (arriving : after.Arriving) : Effect action before after none
  | kept (lasting : ¬action.Settles) (flag : after.streaming = before.streaming)
      (reply : after.Arriving ↔ before.Arriving) : Effect action before after none

variable {state : State}

theorem quiet_not_arriving (quiet : Quiet state.messages) : ¬state.Arriving := by
  rintro ⟨reply, last, streaming, _⟩
  rw [quiet reply (List.mem_of_getLast? last)] at streaming
  cases streaming

theorem arriving_iff_shape :
    state.Arriving ↔ (state.messages.map Message.shape).getLast? = some (.agent, true) := by
  rw [List.getLast?_map, Option.map_eq_some_iff]
  constructor
  · rintro ⟨reply, last, streaming, role⟩
    exact ⟨reply, last, by rw [Message.shape, role, streaming]⟩
  · rintro ⟨reply, last, shape⟩
    exact ⟨reply, last, congrArg Prod.snd shape, congrArg Prod.fst shape⟩

theorem arriving_of_shapes {other : State}
    (shapes : other.messages.map Message.shape = state.messages.map Message.shape) :
    other.Arriving ↔ state.Arriving := by
  rw [arriving_iff_shape, arriving_iff_shape, shapes]

/-- What keeps the shapes of the messages and the flag, keeps all. -/
theorem kept_of_shapes {action : Action} {other : State} (lasting : ¬action.Settles)
    (same : other.messages.map Message.shape = state.messages.map Message.shape ∧
      other.streaming = state.streaming) : Effect action state other none :=
  .kept lasting same.2 (arriving_of_shapes same.1)

theorem send_effect (stamp : Message.Stamp) (text : String) (state : State) :
    Effect (.send text) state (state.send stamp text).1 (state.send stamp text).2 := by
  simp only [send]
  split
  · exact kept_of_shapes id ⟨rfl, rfl⟩
  · exact .sent _ ⟨text, rfl⟩ rfl

/-- A send is accepted while the flag is down, if something within the limit is left of it. -/
theorem send_accepted {text content : String} (stamp : Message.Stamp) (state : State)
    (idle : state.streaming = false) (trimmed : Text.trim text = content) (given : content ≠ "")
    (short : content.utf8ByteSize ≤ maxInput) :
    state.send stamp text =
      ({ state.push (.plain stamp .user content) with streaming := true },
        some { localId := stamp.id, content }) := by
  have admitted :
      ¬(content = "" ∨ maxInput < content.utf8ByteSize ∨ state.streaming = true) := by
    simp [given, short, idle]
  simp only [send, trimmed, if_neg admitted]

theorem fail_send_effect (stamp : Message.Stamp) (error : String) (state : State) :
    Effect (.sendFailed error) state (state.failSend stamp error) none := by
  refine .settled trivial rfl ?_
  intro message member
  rcases List.mem_append.mp member with before | notice
  · exact finalize_quiet state none message before
  · rw [List.mem_singleton.mp notice]
    rfl

theorem token_effect (stamp : Message.Stamp) (text : String) (state : State) :
    Effect (.token text) state (state.token stamp text) none := by
  unfold token
  split
  · next reply arriving =>
    obtain ⟨_, streaming, role⟩ := open_reply_last arriving
    split
    · exact kept_of_shapes id ⟨rfl, rfl⟩
    · exact .joined id rfl ⟨_, List.getLast?_concat, streaming, role⟩
  · split
    · exact kept_of_shapes id ⟨rfl, rfl⟩
    · exact .joined id rfl ⟨_, List.getLast?_concat, rfl, rfl⟩

theorem replace_effect {action : Action} {messages : List Message} (settles : action.Settles)
    (quiet : Quiet messages) : Effect action state (state.replace messages) none :=
  .settled settles rfl quiet

theorem perform_effect (stamp : Message.Stamp) (action : Action) (state : State) :
    Effect action state (state.perform stamp action).1 (state.perform stamp action).2 := by
  cases action with
  | send text => exact send_effect stamp text state
  | sendAccepted localId serverId =>
      exact kept_of_shapes id (accept_shapes localId serverId state)
  | sendFailed error => exact fail_send_effect stamp error state
  | token text => exact token_effect stamp text state
  | toolStarted tool args => exact kept_of_shapes id (tool_started_shapes tool args state)
  | toolFinished tool success =>
      exact kept_of_shapes id (tool_finished_shapes tool success state)
  | done messageId => exact .settled trivial rfl (finalize_quiet state _)
  | loadHistory records => exact replace_effect trivial (of_records_quiet records)
  | clear => exact replace_effect trivial nofun

/-- Dropping the oldest messages matters neither to the flag nor to the reply that arrives. -/
theorem newest_effect {action : Action} {after : State} {submission : Option Submission}
    (effect : Effect action state after submission) :
    Effect action state { after with messages := newest after.messages } submission := by
  have same : { after with messages := newest after.messages }.Arriving ↔ after.Arriving := by
    simp only [Arriving, last?, newest_last]
  cases effect with
  | sent submission asked raised => exact .sent submission asked raised
  | settled settles lowered quiet =>
      refine .settled settles lowered ?_
      intro message member
      dsimp only at member
      exact quiet message (mem_of_mem_newest member)
  | joined lasting raised arriving => exact .joined lasting raised (same.mpr arriving)
  | kept lasting flag reply => exact .kept lasting flag (same.trans reply)

theorem apply_effect (stamp : Message.Stamp) (action : Action) (state : State) :
    Effect action state (state.apply stamp action).1 (state.apply stamp action).2 := by
  simp only [apply]
  exact newest_effect (perform_effect stamp action state)

end State

end LiveChat.Conversation
