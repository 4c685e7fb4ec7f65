import LiveChat.Proofs.Conversation.Places

/-!
What a conversation does not take. A refused action leaves everything as it is and submits
nothing. Of all others a send alone is submitted, as the message of the user that it has added.
-/

set_option autoImplicit false

namespace LiveChat.Conversation

namespace State

/-- A conversation does not take an action, for one of these reasons. -/
inductive Refuses (state : State) : Action → Prop where
  | blank {text : String} (blank : Text.trim text = "") : Refuses state (.send text)
  | lengthy {text : String} (long : maxInput < (Text.trim text).utf8ByteSize) :
      Refuses state (.send text)
  | busy {text : String} (busy : state.streaming = true) : Refuses state (.send text)
  | full {reply : Message} {text : String} (arriving : state.openReply? = some reply)
      (long : maxContent < reply.content.utf8ByteSize + text.utf8ByteSize) :
      Refuses state (.token text)
  | huge {text : String} (settled : state.openReply? = none)
      (long : maxContent < text.utf8ByteSize) : Refuses state (.token text)
  | detached {tool : String} {args : Json} (settled : state.openReply? = none) :
      Refuses state (.toolStarted tool args)
  | crowded {reply : Message} {tool : String} {args : Json}
      (arriving : state.openReply? = some reply) (many : maxTools ≤ reply.tools.length) :
      Refuses state (.toolStarted tool args)
  | unmatched {tool : String} {success : Bool}
      (ended : ∀ reply, state.last? = some reply → reply.role = .agent →
        ∀ call ∈ reply.tools, call.tool = tool → call.status ≠ .running) :
      Refuses state (.toolFinished tool success)
  | unusable {localId serverId : String} (invalid : validId serverId = false) :
      Refuses state (.sendAccepted localId serverId)
  | unknown {localId serverId : String} (lacks : Lacks state.messages localId) :
      Refuses state (.sendAccepted localId serverId)

variable {state : State} {action : Action}

theorem refuses_send_iff (state : State) (text : String) :
    state.Refuses (.send text) ↔ ¬state.Admits text := by
  rw [← refuses_iff]
  constructor
  · intro refused
    cases refused with
    | blank blank => exact .inl blank
    | lengthy long => exact .inr (.inl long)
    | busy busy => exact .inr (.inr busy)
  · rintro (blank | long | busy)
    · exact .blank blank
    · exact .lengthy long
    · exact .busy busy

/-! Refused actions. -/

theorem set_last_self {reply : Message} (last : state.last? = some reply) :
    state.setLast reply = state := by
  rw [setLast, messages_split last]

theorem update_last_unchanged {Item : Type} {test : Item → Bool} (change : Item → Item)
    {items : List Item} (fails : ∀ item ∈ items, test item = false) :
    updateLast test change items = items := by
  rw [updateLast, update_first_unchanged, List.reverse_reverse]
  intro item member
  exact fails item (List.mem_reverse.mp member)

/-- A call that is not running cannot end, so the reply is put back as it was. -/
theorem tool_finished_unmatched {tool : String} (success : Bool)
    (ended : ∀ reply, state.last? = some reply → reply.role = .agent →
      ∀ call ∈ reply.tools, call.tool = tool → call.status ≠ .running) :
    state.toolFinished tool success = state := by
  simp only [toolFinished]
  split
  · next reply answered =>
    obtain ⟨last, agent⟩ := Option.filter_eq_some_iff.mp answered
    have fails : ∀ call ∈ reply.tools,
        (decide (call.tool = tool) && decide (call.status = .running)) = false := by
      intro call member
      simpa using ended reply last (of_decide_eq_true agent) call member
    rw [update_last_unchanged _ fails]
    exact set_last_self last
  · rfl

theorem perform_refused (stamp : Message.Stamp) (refused : state.Refuses action) :
    state.perform stamp action = (state, none) := by
  cases refused with
  | blank blank => simp only [perform, send, blank, true_or, if_true]
  | lengthy long => simp only [perform, send, long, true_or, or_true, if_true]
  | busy busy => simp only [perform, send, busy, or_true, if_true]
  | full arriving long => simp only [perform, token, arriving, if_pos long]
  | huge settled long => simp only [perform, token, settled, if_pos long]
  | detached settled => simp only [perform, toolStarted, settled]
  | crowded arriving many =>
      simp only [perform, toolStarted, arriving, if_neg (Nat.not_lt.mpr many)]
  | unmatched ended => rw [perform, tool_finished_unmatched _ ended]
  | unusable invalid => simp only [perform, accept, invalid, Bool.false_eq_true, if_false]
  | unknown lacks => rw [perform, accept_lacking _ lacks]

/-- Nothing is dropped either, as the conversation was within its limit. -/
theorem apply_refused (bounded : state.Bounded) (stamp : Message.Stamp)
    (refused : state.Refuses action) : state.apply stamp action = (state, none) := by
  simp only [apply, perform_refused stamp refused, newest_of_bounded bounded]

/-! Submissions. -/

/-- A send was taken. Its text, without the blanks around it, is the last message and the user's,
and it is submitted under the identifier of that message. -/
structure Sent (state : State) (text : String) (after : State) (submission : Submission) :
    Prop where
  added : ∃ message : Message, message.role = .user ∧ message.content = Text.trim text ∧
    message.id = submission.localId ∧ after.last? = some message ∧
    after.messages = newest (state.messages ++ [message])
  appended : after.appended = state.appended + 1
  content : submission.content = Text.trim text

theorem apply_admitted {text : String} (stamp : Message.Stamp) (admitted : state.Admits text) :
    (state.apply stamp (.send text)).1.messages =
        newest (state.messages ++ [.plain stamp .user (Text.trim text)]) ∧
      (state.apply stamp (.send text)).1.appended = state.appended + 1 := by
  have accepted := mt (refuses_iff state text).mp (not_not.mpr admitted)
  simp only [apply, perform, send, if_neg accepted, push, and_self]

/-- Every send that is not refused is taken. -/
theorem apply_taken {text : String} (stamp : Message.Stamp)
    (taken : ¬state.Refuses (.send text)) :
    ∃ submission, (state.apply stamp (.send text)).2 = some submission ∧
      state.Sent text (state.apply stamp (.send text)).1 submission := by
  have admitted := not_not.mp (mt (refuses_send_iff state text).mpr taken)
  obtain ⟨messages, appended⟩ := apply_admitted stamp admitted
  have last : (state.apply stamp (.send text)).1.last? =
      some (.plain stamp .user (Text.trim text)) := by
    rw [last?, messages, newest_last, List.getLast?_concat]
  refine ⟨⟨stamp.id, Text.trim text⟩, ?_, ?_⟩
  · rw [apply_send, if_pos admitted]
  · exact {
      added := ⟨_, rfl, rfl, rfl, last, messages⟩
      appended := appended
      content := rfl }

/-- Nothing else is submitted. -/
theorem submitted_taken {stamp : Message.Stamp} {submission : Submission}
    (submitted : (state.apply stamp action).2 = some submission) :
    ∃ text, action = .send text ∧ ¬state.Refuses action ∧
      state.Sent text (state.apply stamp action).1 submission := by
  cases action with
  | send text =>
      by_cases admitted : state.Admits text
      · have taken := mt (refuses_send_iff state text).mp (not_not.mpr admitted)
        obtain ⟨other, made, sent⟩ := apply_taken stamp taken
        have same : other = submission := Option.some.inj (made.symm.trans submitted)
        exact ⟨text, rfl, taken, same ▸ sent⟩
      · rw [apply_send, if_neg admitted] at submitted
        cases submitted
  | _ =>
      rw [apply_unsent stamp state (by rintro _ ⟨⟩)] at submitted
      cases submitted

theorem script_bounded (script : List (Message.Stamp × Action)) :
    (script.foldl after empty).Bounded :=
  script_keeps script (fun before entry _ => apply_bounded entry.1 entry.2 before) (Nat.zero_le _)

/-- Whatever was done to an empty conversation, an action that it refuses leaves it exactly as it
is and submits nothing. Every send that it does not refuse is taken, and nothing else is
submitted. -/
theorem script_refusals_unchanged (script : List (Message.Stamp × Action))
    (stamp : Message.Stamp) (action : Action) :
    let state := script.foldl after empty
    (state.Refuses action → state.apply stamp action = (state, none)) ∧
    (∀ text, action = .send text → ¬state.Refuses action →
      ∃ submission, (state.apply stamp action).2 = some submission ∧
        state.Sent text (state.apply stamp action).1 submission) ∧
    ∀ submission, (state.apply stamp action).2 = some submission →
      ∃ text, action = .send text ∧ ¬state.Refuses action ∧
        state.Sent text (state.apply stamp action).1 submission := by
  intro state
  refine ⟨apply_refused (script_bounded script) stamp, ?_, fun submission => submitted_taken⟩
  rintro text rfl taken
  exact apply_taken stamp taken

/-- A reply with a call that has ended. -/
def searched : List (Message.Stamp × Action) :=
  [({ id := "local-1", time := default }, .token "Searching"),
    ({ id := "local-2", time := default }, .toolStarted "search" (.object [])),
    ({ id := "local-3", time := default }, .toolFinished "search" true)]

theorem searched_messages :
    (searched.foldl after empty).messages =
      [{ Message.reply { id := "local-1", time := default } "Searching" with
          tools := [⟨"search", .object [], .success⟩] }] := by
  rfl

def answered : List (Message.Stamp × Action) :=
  searched ++ [({ id := "local-4", time := default }, .done none)]

def asking : Message.Stamp := { id := "local-5", time := default }

/-- The call cannot end again, and once the reply has ended a send is taken. -/
theorem searched_unchanged :
    ((searched.foldl after empty).Refuses (.toolFinished "search" false) ∧
      (searched.foldl after empty).apply asking (.toolFinished "search" false) =
        (searched.foldl after empty, none)) ∧
    ¬(answered.foldl after empty).Refuses (.send " and jobs ") ∧
      ((answered.foldl after empty).apply asking (.send " and jobs ")).2 =
        some ⟨"local-5", "and jobs"⟩ ∧
      (answered.foldl after empty).Sent " and jobs "
        ((answered.foldl after empty).apply asking (.send " and jobs ")).1
        ⟨"local-5", "and jobs"⟩ := by
  have refused : (searched.foldl after empty).Refuses (.toolFinished "search" false) := by
    refine .unmatched ?_
    intro reply last _ call member _
    rw [last?, searched_messages, List.getLast?_singleton] at last
    cases last
    rw [List.mem_singleton.mp member]
    rintro ⟨⟩
  have unchanged := (script_refusals_unchanged searched asking _).1 refused
  have admitted : (answered.foldl after empty).Admits " and jobs " := by decide
  have taken := mt (refuses_send_iff _ _).mp (not_not.mpr admitted)
  obtain ⟨submission, submitted, sent⟩ :=
    (script_refusals_unchanged answered asking _).2.1 _ rfl taken
  have given : ((answered.foldl after empty).apply asking (.send " and jobs ")).2 =
      some ⟨"local-5", "and jobs"⟩ := rfl
  obtain rfl : submission = ⟨"local-5", "and jobs"⟩ :=
    Option.some.inj (submitted.symm.trans given)
  exact ⟨⟨refused, unchanged⟩, taken, given, sent⟩

end State

end LiveChat.Conversation
