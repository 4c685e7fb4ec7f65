import LiveChat.Proofs.Conversation.Records
import LiveChat.Proofs.Conversation.Refusals

/-!
The tokens of a turn. They are gathered in one reply at the end of the conversation, each as a whole
or, if there is no room left for it, not at all. What else happens while a reply arrives touches only
its calls and the identifiers of what the user said.
-/

set_option autoImplicit false

namespace LiveChat.Conversation

/-- What does not end a reply that is arriving. -/
def Action.Sustains : Action → Prop
  | .token _ => True
  | .toolStarted _ _ => True
  | .toolFinished _ _ => True
  | .sendAccepted _ _ => True
  | _ => False

def Action.token? : Action → Option String
  | .token text => some text
  | _ => none

/-- The tokens of a turn with the stamps they came with. -/
def tokens (turn : List (Message.Stamp × Action)) : List (Message.Stamp × String) :=
  turn.filterMap fun entry => entry.2.token?.map (entry.1, ·)

/-- The tokens for which there is room after so many octets and those that were kept before. -/
def kept (used : Nat) : List (Message.Stamp × String) → List (Message.Stamp × String)
  | [] => []
  | token :: rest =>
      if used + token.2.utf8ByteSize ≤ maxContent then
        token :: kept (used + token.2.utf8ByteSize) rest
      else kept used rest

def saidBy (tokens : List (Message.Stamp × String)) : String := String.join (tokens.map (·.2))

/-- A message apart from its calls, and apart from its identifier if it is of the user. -/
def Message.voice (message : Message) : Message :=
  { message with id := if message.role = .user then "" else message.id, tools := [] }

def Message.longer (message : Message) (text : String) : Message :=
  { message with content := message.content ++ text }

theorem said_by_single (stamp : Message.Stamp) (text : String) : saidBy [(stamp, text)] = text := by
  simp [saidBy]

theorem Message.voice_voice : Message.voice ∘ Message.voice = Message.voice := by
  funext message
  by_cases user : message.role = .user <;> simp [voice, user]

theorem Message.voice_longer (message : Message) (text : String) :
    (message.voice.longer text).voice = (message.longer text).voice := by
  by_cases user : message.role = .user <;> simp [voice, longer, user]

theorem Message.longer_longer (message : Message) (first second : String) :
    (message.longer first).longer second = message.longer (first ++ second) := by
  simp only [longer, String.append_assoc]

theorem Message.longer_reply (stamp : Stamp) (text : String) :
    (reply stamp "").longer text = reply stamp text := by
  simp only [longer, reply, plain, String.empty_append]

namespace State

def voiced (state : State) : State := { state with messages := state.messages.map Message.voice }

/-- How much of the reply that is arriving there is. -/
def openSize (state : State) : Nat := (state.openReply?.map (·.content.utf8ByteSize)).getD 0

/-- The conversation with these tokens at the end of the reply that is arriving. If there is none,
the first of them brings one. -/
def joined (state : State) : List (Message.Stamp × String) → State
  | [] => state
  | first :: rest =>
      match state.openReply? with
      | some reply =>
          { state with
            messages := state.messages.dropLast ++ [reply.longer (saidBy (first :: rest))] }
      | none =>
          { state with
            messages := newest (state.messages ++ [.reply first.1 (saidBy (first :: rest))])
            streaming := true
            appended := state.appended + 1 }

variable {state : State} {action : Action}

/-! What tokens leave aside. -/

theorem voiced_open (state : State) :
    state.voiced.openReply? = state.openReply?.map Message.voice := by
  simp only [openReply?, last?, voiced, List.getLast?_map, Option.filter_map]
  rfl

theorem voiced_size (state : State) : state.voiced.openSize = state.openSize := by
  rw [openSize, openSize, voiced_open, Option.map_map]
  rfl

theorem voiced_newest (messages : List Message) :
    newest (messages.map Message.voice) = (newest messages).map Message.voice := by
  rw [newest, newest, List.length_map, List.map_drop]

theorem joined_arriving {reply : Message} (arriving : state.openReply? = some reply)
    (first : Message.Stamp × String) (rest : List (Message.Stamp × String)) :
    state.joined (first :: rest) =
      { state with
        messages := state.messages.dropLast ++ [reply.longer (saidBy (first :: rest))] } := by
  rw [joined, arriving]

theorem joined_settled (settled : state.openReply? = none) (first : Message.Stamp × String)
    (rest : List (Message.Stamp × String)) :
    state.joined (first :: rest) =
      { state with
        messages := newest (state.messages ++ [.reply first.1 (saidBy (first :: rest))])
        streaming := true
        appended := state.appended + 1 } := by
  rw [joined, settled]

/-- Tokens say the same to conversations that differ only in what is left aside. -/
theorem joined_voiced (state : State) (tokens : List (Message.Stamp × String)) :
    (state.voiced.joined tokens).voiced = (state.joined tokens).voiced := by
  have twice : state.voiced.voiced = state.voiced := by
    simp only [voiced, List.map_map, Message.voice_voice]
  cases tokens with
  | nil => exact twice
  | cons first rest =>
      have messages := congrArg State.messages twice
      dsimp only [voiced] at messages
      cases arriving : state.openReply? with
      | none =>
          have settled : state.voiced.openReply? = none := by rw [voiced_open, arriving]; rfl
          rw [joined_settled settled, joined_settled arriving, voiced, voiced]
          dsimp only [voiced]
          rw [← voiced_newest, ← voiced_newest, List.map_append, List.map_append, messages]
      | some reply =>
          have still : state.voiced.openReply? = some reply.voice := by
            rw [voiced_open, arriving]; rfl
          rw [joined_arriving still, joined_arriving arriving, voiced, voiced]
          dsimp only [voiced]
          rw [List.map_append, List.map_append, List.map_dropLast, List.map_dropLast, messages,
            List.map_singleton, List.map_singleton, Message.voice_longer]

theorem voice_set_tools {reply : Message} (tools : List ToolCall)
    (last : state.last? = some reply) :
    (state.setLast { reply with tools }).voiced = state.voiced := by
  have same : (state.setLast { reply with tools }).messages.map Message.voice =
      state.messages.map Message.voice := set_last_map last rfl
  rw [voiced, same]
  rfl

theorem voice_tool_started (tool : String) (args : Json) (state : State) :
    (state.toolStarted tool args).voiced = state.voiced := by
  unfold toolStarted
  split
  · next arriving =>
    split
    · exact voice_set_tools _ (open_reply_last arriving).1
    · rfl
  · rfl

theorem voice_tool_finished (tool : String) (success : Bool) (state : State) :
    (state.toolFinished tool success).voiced = state.voiced := by
  simp only [toolFinished]
  split
  · next answered => exact voice_set_tools _ (Option.filter_eq_some_iff.mp answered).1
  · rfl

theorem voice_accept (localId serverId : String) (state : State) :
    (state.accept localId serverId).voiced = state.voiced := by
  simp only [accept]
  split
  · have same := update_last_map Message.voice
      (fun message => message.role = .user && message.id = localId)
      (fun message => { message with id := serverId }) (by
        intro message own
        simp only [Bool.and_eq_true, decide_eq_true_eq] at own
        simp [Message.voice, own.1]) state.messages
    rw [voiced, same]
    rfl
  · rfl

theorem apply_voiced (bounded : state.Bounded) (stamp : Message.Stamp)
    (same : (state.perform stamp action).1.voiced = state.voiced) :
    (state.after (stamp, action)).voiced = state.voiced := by
  have messages := congrArg State.messages same
  dsimp only [voiced] at messages
  have kept : (newest (state.perform stamp action).1.messages).map Message.voice =
      state.messages.map Message.voice := by
    rw [← voiced_newest, messages, voiced_newest, newest_of_bounded bounded]
  rw [after, apply_fst, voiced, kept, ← messages]
  exact same

theorem after_unheard (bounded : state.Bounded) (stamp : Message.Stamp) (lasting : action.Sustains)
    (unheard : action.token? = none) : (state.after (stamp, action)).voiced = state.voiced := by
  apply apply_voiced bounded stamp
  cases action with
  | token text => cases unheard
  | toolStarted tool args => exact voice_tool_started tool args state
  | toolFinished tool success => exact voice_tool_finished tool success state
  | sendAccepted localId serverId => exact voice_accept localId serverId state
  | _ => exact lasting.elim

/-! One token. -/

theorem token_some {text : String} (heard : action.token? = some text) : action = .token text := by
  cases action with
  | token other =>
      cases heard
      rfl
  | _ => cases heard

theorem after_token_settled (bounded : state.Bounded) (stamp : Message.Stamp) (text : String)
    (settled : state.openReply? = none) :
    state.after (stamp, .token text) =
      if text.utf8ByteSize ≤ maxContent then state.joined [(stamp, text)] else state := by
  split
  · next short =>
    rw [after, apply_fst, joined_settled settled, said_by_single]
    simp only [perform, token, settled, if_neg (Nat.not_lt.mpr short), push]
  · next long =>
    rw [after, apply_refused bounded stamp (.huge settled (Nat.not_le.mp long))]

theorem after_token_arriving {reply : Message} (orderly : state.Orderly) (bounded : state.Bounded)
    (stamp : Message.Stamp) (text : String) (arriving : state.openReply? = some reply) :
    state.after (stamp, .token text) =
      if reply.content.utf8ByteSize + text.utf8ByteSize ≤ maxContent
      then state.joined [(stamp, text)] else state := by
  obtain ⟨last, streaming, _⟩ := open_reply_last arriving
  have raised := (orderly.last reply last streaming).2
  have few : (state.messages.dropLast ++ [reply.longer text]).length ≤ maxMessages := by
    have same := congrArg List.length (messages_split last)
    rw [List.length_append] at same ⊢
    exact same ▸ bounded
  split
  · next short =>
    have grown : state.token stamp text =
        { state with messages := state.messages.dropLast ++ [reply.longer text] } := by
      simp only [token, arriving, if_neg (Nat.not_lt.mpr short), setLast, raised, Message.longer]
    rw [after, apply_fst, joined_arriving arriving, said_by_single, perform, grown]
    dsimp only
    rw [newest_few few]
  · next long =>
    rw [after, apply_refused bounded stamp (.full arriving (Nat.not_le.mp long))]

theorem after_token (orderly : state.Orderly) (bounded : state.Bounded) (stamp : Message.Stamp)
    (text : String) :
    state.after (stamp, .token text) =
      if state.openSize + text.utf8ByteSize ≤ maxContent then state.joined [(stamp, text)]
      else state := by
  cases arriving : state.openReply? with
  | none =>
      have size : state.openSize = 0 := by simp [openSize, arriving]
      rw [after_token_settled bounded stamp text arriving, size, Nat.zero_add]
  | some reply =>
      have size : state.openSize = reply.content.utf8ByteSize := by simp [openSize, arriving]
      rw [after_token_arriving orderly bounded stamp text arriving, size]

/-! The tokens of a turn. -/

theorem open_of_last {reply : Message} (last : state.messages.getLast? = some reply)
    (opened : reply.isOpenReply = true) : state.openReply? = some reply := by
  rw [openReply?, last?, last, Option.filter_some, if_pos opened]

theorem joined_open (state : State) (first : Message.Stamp × String)
    (rest : List (Message.Stamp × String)) :
    (state.joined (first :: rest)).openReply? =
      some ((state.openReply?.getD (.reply first.1 "")).longer (saidBy (first :: rest))) := by
  cases arriving : state.openReply? with
  | none =>
      rw [joined_settled arriving, Option.getD_none, Message.longer_reply]
      apply open_of_last
      · rw [newest_last, List.getLast?_concat]
      · rfl
  | some reply =>
      rw [joined_arriving arriving]
      apply open_of_last List.getLast?_concat
      exact reply.open_reply_iff.mpr (open_reply_last arriving).2

theorem joined_size (state : State) (tokens : List (Message.Stamp × String)) :
    (state.joined tokens).openSize = state.openSize + (saidBy tokens).utf8ByteSize := by
  cases tokens with
  | nil => rfl
  | cons first rest =>
      rw [openSize, joined_open, Option.map_some, Option.getD_some, Message.longer,
        String.utf8ByteSize_append, openSize]
      cases state.openReply? <;> rfl

theorem newest_replace_last {Item : Type} (earlier : List Item) (old new : Item) :
    (newest (earlier ++ [old])).dropLast ++ [new] = newest (earlier ++ [new]) := by
  have fits : (earlier ++ [old]).length - maxMessages ≤ earlier.length := by
    simp only [List.length_append, List.length_singleton, maxMessages]
    omega
  have same : (earlier ++ [new]).length = (earlier ++ [old]).length := by simp
  rw [newest, newest, same, List.drop_append_of_le_length fits, List.dropLast_concat,
    List.drop_append_of_le_length fits]

/-- To join one token and then the others is to join all of them. -/
theorem joined_joined (state : State) (first : Message.Stamp × String)
    (rest : List (Message.Stamp × String)) :
    (state.joined [first]).joined rest = state.joined (first :: rest) := by
  cases rest with
  | nil => rfl
  | cons second rest =>
      have opened := joined_open state first []
      have whole : saidBy [first] ++ saidBy (second :: rest) = saidBy (first :: second :: rest) := by
        simp [saidBy]
      rw [joined_arriving opened, Message.longer_longer, whole]
      cases arriving : state.openReply? with
      | none =>
          rw [joined_settled arriving, joined_settled arriving]
          dsimp only
          rw [newest_replace_last, Option.getD_none, Message.longer_reply]
      | some reply =>
          rw [joined_arriving arriving, joined_arriving arriving]
          dsimp only
          rw [List.dropLast_concat, Option.getD_some]

/-- What a turn says is what its tokens say for which there is room. -/
theorem turn_voiced {turn : List (Message.Stamp × Action)} (orderly : state.Orderly)
    (bounded : state.Bounded) (sustained : ∀ entry ∈ turn, entry.2.Sustains) :
    (turn.foldl after state).voiced = (state.joined (kept state.openSize (tokens turn))).voiced := by
  induction turn generalizing state with
  | nil => rfl
  | cons entry rest induction =>
      obtain ⟨stamp, action⟩ := entry
      obtain ⟨lasting, others⟩ := List.forall_mem_cons.mp sustained
      have further : (rest.foldl after (state.after (stamp, action))).voiced = _ :=
        induction (apply_orderly stamp action orderly) (apply_bounded stamp action state) others
      rw [List.foldl_cons, further]
      cases heard : action.token? with
      | none =>
          have unheard := after_unheard bounded stamp lasting heard
          rw [← joined_voiced, ← voiced_size, unheard, voiced_size, joined_voiced]
          simp [tokens, heard]
      | some text =>
          obtain rfl := token_some heard
          have listed : tokens ((stamp, .token text) :: rest) = (stamp, text) :: tokens rest := rfl
          rw [listed, kept, after_token orderly bounded]
          split
          · rw [joined_size, said_by_single, joined_joined]
          · rfl

theorem turn_size {turn : List (Message.Stamp × Action)} (orderly : state.Orderly)
    (bounded : state.Bounded) (sustained : ∀ entry ∈ turn, entry.2.Sustains) :
    (turn.foldl after state).openSize =
      state.openSize + (saidBy (kept state.openSize (tokens turn))).utf8ByteSize := by
  rw [← voiced_size, turn_voiced orderly bounded sustained, voiced_size, joined_size]

theorem turn_content {turn : List (Message.Stamp × Action)} {reply : Message}
    (orderly : state.Orderly) (bounded : state.Bounded)
    (sustained : ∀ entry ∈ turn, entry.2.Sustains)
    (arriving : (turn.foldl after state).openReply? = some reply) :
    reply.content = (state.openReply?.map (·.content)).getD "" ++
      saidBy (kept state.openSize (tokens turn)) := by
  have same := congrArg openReply? (turn_voiced orderly bounded sustained)
  rw [voiced_open, voiced_open, arriving, Option.map_some] at same
  generalize kept state.openSize (tokens turn) = texts at same ⊢
  cases texts with
  | nil =>
      obtain ⟨old, known, voice⟩ := Option.map_eq_some_iff.mp same.symm
      have content : old.content = reply.content :=
        (congrArg Message.content voice : old.voice.content = reply.voice.content)
      rw [joined] at known
      simp [known, saidBy, content]
  | cons first rest =>
      rw [joined_open, Option.map_some] at same
      have content : reply.voice.content = _ := congrArg Message.content (Option.some.inj same)
      change reply.content = _ at content
      rw [content]
      cases state.openReply? <;> rfl

theorem script_orderly (script : List (Message.Stamp × Action)) :
    (script.foldl after empty).Orderly :=
  script_keeps script (fun _ entry => apply_orderly entry.1 entry.2) empty_orderly

/-- Whatever was done to an empty conversation, the tokens of a turn for which there is room are
gathered in order in one reply at its end: the one that is arriving or, if there is none, a new one
that the first of them brings. The others leave everything as it is. -/
theorem script_tokens_gathered (script turn : List (Message.Stamp × Action))
    (sustained : ∀ entry ∈ turn, entry.2.Sustains) :
    (turn.foldl after (script.foldl after empty)).voiced =
        ((script.foldl after empty).joined
          (kept (script.foldl after empty).openSize (tokens turn))).voiced ∧
      (∀ reply, (turn.foldl after (script.foldl after empty)).openReply? = some reply →
        reply.content = ((script.foldl after empty).openReply?.map (·.content)).getD "" ++
          saidBy (kept (script.foldl after empty).openSize (tokens turn))) ∧
      ∀ earlier stamp text later, turn = earlier ++ (stamp, .token text) :: later →
        (earlier.foldl after (script.foldl after empty)).openSize =
            (script.foldl after empty).openSize +
              (saidBy (kept (script.foldl after empty).openSize (tokens earlier))).utf8ByteSize ∧
          (maxContent < (earlier.foldl after (script.foldl after empty)).openSize +
              text.utf8ByteSize →
            (earlier.foldl after (script.foldl after empty)).after (stamp, .token text) =
              earlier.foldl after (script.foldl after empty)) := by
  have orderly := script_orderly script
  have bounded := script_bounded script
  refine ⟨turn_voiced orderly bounded sustained,
    fun _ => turn_content orderly bounded sustained, ?_⟩
  rintro earlier stamp text later rfl
  have before := (List.forall_mem_append.mp sustained).1
  refine ⟨turn_size orderly bounded before, fun long => ?_⟩
  rw [← List.foldl_append] at long ⊢
  rw [after_token (script_orderly _) (script_bounded _), if_neg (Nat.not_le.mpr long)]

def asked : List (Message.Stamp × Action) :=
  [({ id := "local-1", time := default }, .send "hello")]

/-- A reply in three pieces. -/
def pieces (middle : String) : List (Message.Stamp × Action) :=
  [({ id := "local-2", time := default }, .token "Hi"),
    ({ id := "local-3", time := default }, .sendAccepted "local-1" "42"),
    ({ id := "local-4", time := default }, .token middle),
    ({ id := "local-5", time := default }, .token "!")]

theorem pieces_kept {middle : String} (long : middle.utf8ByteSize = maxContent) :
    kept 0 (tokens (pieces middle)) =
      [({ id := "local-2", time := default }, "Hi"), ({ id := "local-5", time := default }, "!")] := by
  have filled : 0 < "Hi".utf8ByteSize := by decide
  have first : 0 + "Hi".utf8ByteSize ≤ maxContent := by decide
  have second : ¬0 + "Hi".utf8ByteSize + middle.utf8ByteSize ≤ maxContent := by omega
  have third : 0 + "Hi".utf8ByteSize + "!".utf8ByteSize ≤ maxContent := by decide
  have listed : tokens (pieces middle) =
      [({ id := "local-2", time := default }, "Hi"),
        ({ id := "local-4", time := default }, middle),
        ({ id := "local-5", time := default }, "!")] := rfl
  rw [listed, kept, if_pos first, kept, if_neg second, kept, if_pos third, kept]

/-- The piece in the middle is as long as a message may be, so it does not come after another. -/
theorem long_piece_left_out :
    (∀ entry ∈ pieces (.ofList (List.replicate maxContent 'x')), entry.2.Sustains) ∧
      ∃ reply, ((pieces (.ofList (List.replicate maxContent 'x'))).foldl after
          (asked.foldl after empty)).openReply? = some reply ∧ reply.content = "Hi!" := by
  have long : (String.ofList (List.replicate maxContent 'x')).utf8ByteSize = maxContent := by
    rw [Text.Utf8.size_of_list, replicate_size]
  generalize String.ofList (List.replicate maxContent 'x') = middle at long ⊢
  have sustained : ∀ entry ∈ pieces middle, entry.2.Sustains := by
    simp [pieces, Action.Sustains]
  have settled : (asked.foldl after empty).openReply? = none := rfl
  have start : (asked.foldl after empty).openSize = 0 := by rw [openSize, settled]; rfl
  obtain ⟨said, content, _⟩ := script_tokens_gathered asked (pieces middle) sustained
  rw [start, pieces_kept long] at said content
  have opened := congrArg openReply? said
  rw [voiced_open, voiced_open, joined_open, Option.map_some] at opened
  obtain ⟨reply, arriving, _⟩ := Option.map_eq_some_iff.mp opened
  refine ⟨sustained, reply, arriving, ?_⟩
  rw [content reply arriving, settled]
  rfl

end State

end LiveChat.Conversation
