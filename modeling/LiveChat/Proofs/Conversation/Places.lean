import LiveChat.Proofs.Conversation.Flag
import Mathlib.Data.List.Forall2

/-!
Where the messages of a conversation were put. A place counts from the last time the list was
replaced, so it stays the same while older messages are dropped. Only the acceptance of a send
changes a message of the user, and it changes one at most.
-/

set_option autoImplicit false

namespace LiveChat.Conversation

/-- A place in the list that was begun by this epoch. Messages that were dropped count as well. -/
structure Place where
  epoch : Nat
  index : Nat
  deriving DecidableEq

/-- A message of the user stays what it is, and no other becomes one. -/
def Message.Keeps (old new : Message) : Prop :=
  new = old ∨ (old.role ≠ .user ∧ new.role ≠ .user)

theorem Message.keeps_self (message : Message) : message.Keeps message := .inl rfl

namespace State

/-- The place of the message that is added next. -/
def nextPlace (state : State) : Place := ⟨state.epoch, state.appended⟩

/-- What was put at the place is still there, and this is what has become of it. -/
def Holds (state : State) (place : Place) (message : Message) : Prop :=
  place.epoch = state.epoch ∧ ∃ earlier later, state.messages = earlier ++ message :: later ∧
    place.index + later.length + 1 = state.appended

/-- Something was put at the place already. -/
def Given (state : State) (place : Place) : Prop :=
  place.epoch < state.epoch ∨ (place.epoch = state.epoch ∧ place.index < state.appended)

/-- No more messages are held than were added. -/
def Counted (state : State) : Prop := state.messages.length ≤ state.appended

/-- There is something to send, it is within the limit, and nothing is under way. -/
def Admits (state : State) (text : String) : Prop :=
  Text.trim text ≠ "" ∧ (Text.trim text).utf8ByteSize ≤ maxInput ∧ state.streaming = false

instance (state : State) (text : String) : Decidable (state.Admits text) :=
  inferInstanceAs (Decidable (_ ∧ _ ∧ _))

variable {state before after : State} {place : Place} {message : Message}

theorem holds_messages (held : state.Holds place message) : message ∈ state.messages := by
  obtain ⟨_, earlier, later, split, _⟩ := held
  simp [split]

theorem holds_given (held : state.Holds place message) : state.Given place := by
  obtain ⟨epoch, _, _, _, index⟩ := held
  exact .inr ⟨epoch, by omega⟩

/-- Every message that is held was put somewhere. -/
theorem holds_of_split {earlier later : List Message} (counted : state.Counted)
    (split : state.messages = earlier ++ message :: later) :
    state.Holds ⟨state.epoch, state.appended - later.length - 1⟩ message := by
  have room : later.length + 1 ≤ state.appended := by
    rw [Counted, split, List.length_append, List.length_cons] at counted
    omega
  exact ⟨rfl, earlier, later, split, by simp only; omega⟩

theorem next_place_free (state : State) : ¬state.Given state.nextPlace := by
  simp [Given, nextPlace]

/-- What is held is something that was held at the same place before. -/
theorem holds_related {related : Message → Message → Prop} {messages : List Message}
    (each : List.Forall₂ related state.messages messages)
    (held : { state with messages }.Holds place message) :
    ∃ old, state.Holds place old ∧ related old message := by
  obtain ⟨epoch, earlier, later, split, index⟩ := held
  dsimp only at split
  rw [split] at each
  have back := List.forall₂_drop_append _ _ _ each
  obtain ⟨old, rest, like, others, found⟩ := List.forall₂_cons_right_iff.mp back
  refine ⟨old, ⟨epoch, state.messages.take earlier.length, rest, ?_, ?_⟩, like⟩
  · rw [← found]
    exact (List.take_append_drop earlier.length state.messages).symm
  · rw [others.length_eq]
    exact index

theorem holds_push {new : Message} (held : (state.push new).Holds place message) :
    (place = state.nextPlace ∧ message = new) ∨ state.Holds place message := by
  obtain ⟨epoch, earlier, later, split, index⟩ := held
  rcases List.eq_nil_or_concat later with rfl | ⟨rest, last, rfl⟩
  · obtain ⟨_, same⟩ := List.append_inj' split rfl
    refine .inl ⟨?_, (List.singleton_inj.mp same).symm⟩
    obtain ⟨_, _⟩ := place
    simp only [push, List.length_nil] at epoch index
    simp only [nextPlace, Place.mk.injEq]
    exact ⟨epoch, by omega⟩
  · rw [List.concat_eq_append, ← List.cons_append, ← List.append_assoc] at split
    obtain ⟨same, _⟩ := List.append_inj' split rfl
    refine .inr ⟨epoch, earlier, rest, same, ?_⟩
    simp only [push, List.concat_eq_append, List.length_append, List.length_singleton] at index
    omega

/-- What is left when the oldest messages are dropped keeps its place. -/
theorem holds_newest
    (held : { state with messages := newest state.messages }.Holds place message) :
    state.Holds place message := by
  obtain ⟨epoch, earlier, later, split, index⟩ := held
  have whole := List.take_append_drop (state.messages.length - maxMessages) state.messages
  simp only [newest] at split
  rw [split, ← List.append_assoc] at whole
  exact ⟨epoch, _, later, whole.symm, index⟩

theorem newest_of_bounded (bounded : state.Bounded) : newest state.messages = state.messages := by
  rw [newest, Nat.sub_eq_zero_of_le bounded, List.drop_zero]

/-- The message that was added last is never dropped. -/
theorem holds_newest_push (state : State) (new : Message) :
    { state.push new with messages := newest (state.push new).messages }.Holds state.nextPlace
      new := by
  have fits : (state.messages ++ [new]).length - maxMessages ≤ state.messages.length := by
    simp only [List.length_append, List.length_singleton, maxMessages]
    omega
  refine ⟨rfl, state.messages.drop ((state.messages ++ [new]).length - maxMessages), [], ?_, rfl⟩
  simp only [push, newest]
  rw [List.drop_append_of_le_length fits]

/-! An action adds a message at most, accepts a send, or replaces the list. -/

/-- Everything of the user is as before, and this is added. -/
structure Grows (added : Option Message) (before after : State) : Prop where
  epoch : after.epoch = before.epoch
  appended : after.appended = before.appended + added.toList.length
  messages : ∃ kept, List.Forall₂ Message.Keeps before.messages kept ∧
    after.messages = kept ++ added.toList

theorem keeps_same (messages : List Message) : List.Forall₂ Message.Keeps messages messages :=
  List.forall₂_same.mpr fun message _ => message.keeps_self

theorem grows_self (state : State) : Grows none state state :=
  ⟨rfl, rfl, state.messages, keeps_same _, by simp⟩

theorem holds_grows {added : Option Message} (grows : Grows added before after)
    (held : after.Holds place message) :
    (added = some message ∧ place = before.nextPlace) ∨
      ∃ old, before.Holds place old ∧ old.Keeps message := by
  obtain ⟨epoch, appended, kept, each, split⟩ := grows
  obtain ⟨messages, streaming, _, _⟩ := after
  dsimp only at epoch appended split
  subst epoch appended split
  cases added with
  | none =>
      have held : { before with messages := kept }.Holds place message := by
        simpa [Holds] using held
      exact .inr (holds_related each held)
  | some new =>
      have held : ({ before with messages := kept }.push new).Holds place message := held
      rcases holds_push held with ⟨rfl, rfl⟩ | earlier
      · exact .inl ⟨rfl, rfl⟩
      · exact .inr (holds_related each earlier)

/-- What was put somewhere before is still what it was, up to what is not the user's. -/
theorem holds_grows_given {added : Option Message} (grows : Grows added before after)
    (given : before.Given place) (held : after.Holds place message) :
    ∃ old, before.Holds place old ∧ old.Keeps message := by
  rcases holds_grows grows held with ⟨_, rfl⟩ | earlier
  · exact absurd given before.next_place_free
  · exact earlier

/-- Nothing but what is added is held at the next place. -/
theorem holds_grows_next {added : Option Message} (grows : Grows added before after)
    (held : after.Holds before.nextPlace message) : added = some message := by
  rcases holds_grows grows held with ⟨same, _⟩ | ⟨old, earlier, _⟩
  · exact same
  · exact absurd (holds_given earlier) before.next_place_free

/-- What an action makes of the messages of the user. -/
inductive Change (stamp : Message.Stamp) (action : Action) (before after : State) :
    Option Submission → Prop where
  | sent (text : String) (asked : action = .send text) (admitted : before.Admits text)
      (grows : Grows (some (.plain stamp .user (Text.trim text))) before after) :
      Change stamp action before after (some ⟨stamp.id, Text.trim text⟩)
  | accepted (localId serverId : String) (asked : action = .sendAccepted localId serverId)
      (same : after = before.accept localId serverId) : Change stamp action before after none
  | replaced (messages : List Message) (same : after = before.replace messages)
      (loaded : ∀ message ∈ messages,
        ∃ records, action = .loadHistory records ∧ message ∈ ofRecords records) :
      Change stamp action before after none
  | kept (added : Option Message) (others : ∀ message ∈ added, message.role ≠ .user)
      (refused : ∀ text, action = .send text → ¬before.Admits text)
      (elsewhere : ∀ localId serverId, action ≠ .sendAccepted localId serverId)
      (grows : Grows added before after) : Change stamp action before after none

theorem refuses_iff (state : State) (text : String) :
    (Text.trim text = "" ∨ maxInput < (Text.trim text).utf8ByteSize ∨ state.streaming = true) ↔
      ¬state.Admits text := by
  simp only [Admits, not_and_or, not_not, Nat.not_le, Bool.not_eq_false]

theorem send_change (stamp : Message.Stamp) (text : String) (state : State) :
    Change stamp (.send text) state (state.send stamp text).1 (state.send stamp text).2 := by
  simp only [send]
  split
  · next refused =>
    refine .kept none (by rintro _ ⟨⟩) ?_ (by rintro _ _ ⟨⟩) (grows_self state)
    rintro _ ⟨⟩
    exact (refuses_iff state text).mp refused
  · next admitted =>
    have admits : state.Admits text := not_not.mp (mt (refuses_iff state text).mpr admitted)
    exact .sent text rfl admits ⟨rfl, rfl, state.messages, keeps_same _, rfl⟩

/-- Messages of the user never arrive bit by bit. -/
theorem user_settled (orderly : state.Orderly) {message : Message}
    (member : message ∈ state.messages) (user : message.role = .user) :
    message.streaming = false := by
  rcases mem_messages member with before | last
  · exact orderly.earlier message before
  · cases streaming : message.streaming with
    | false => rfl
    | true =>
        have role := (orderly.last message last streaming).1
        rw [user] at role
        cases role

theorem finalize_keeps (serverId : Option String) (orderly : state.Orderly) :
    List.Forall₂ Message.Keeps state.messages (state.finalize serverId).messages := by
  rw [finalize, List.forall₂_map_right_iff, List.forall₂_same]
  intro message member
  by_cases user : message.role = .user
  · left
    rw [user_settled orderly member user]
    rfl
  · split
    · exact .inr ⟨user, user⟩
    · exact message.keeps_self

theorem set_last_keeps {reply next : Message} (last : state.last? = some reply)
    (role : reply.role = .agent) (same : next.role = reply.role) :
    List.Forall₂ Message.Keeps state.messages (state.setLast next).messages := by
  have changed : Message.Keeps reply next := .inr ⟨by simp [role], by simp [same, role]⟩
  exact set_last_related Message.keeps_self last changed

theorem fail_send_grows (stamp : Message.Stamp) (error : String) (orderly : state.Orderly) :
    Grows (some (.plain stamp .system ("Failed to send message: " ++ error))) state
      (state.failSend stamp error) :=
  ⟨rfl, rfl, _, finalize_keeps none orderly, rfl⟩

theorem set_last_grows {reply next : Message} (last : state.last? = some reply)
    (role : reply.role = .agent) (same : next.role = reply.role) :
    Grows none state (state.setLast next) :=
  ⟨rfl, rfl, _, set_last_keeps last role same, by simp⟩

theorem token_grows (stamp : Message.Stamp) (text : String) (state : State) :
    ∃ added, (∀ message ∈ added, message.role ≠ .user) ∧
      Grows added state (state.token stamp text) := by
  unfold token
  split
  · next reply arriving =>
    obtain ⟨last, _, role⟩ := open_reply_last arriving
    split
    · exact ⟨none, nofun, grows_self state⟩
    · have grown : Grows none state
          (state.setLast { reply with content := reply.content ++ text }) :=
        set_last_grows last role rfl
      exact ⟨none, nofun, grown.epoch, grown.appended, grown.messages⟩
  · split
    · exact ⟨none, nofun, grows_self state⟩
    · refine ⟨some (.reply stamp text), ?_, rfl, rfl, state.messages, keeps_same _, rfl⟩
      rintro _ ⟨⟩
      exact nofun

theorem tool_started_grows (tool : String) (args : Json) (state : State) :
    Grows none state (state.toolStarted tool args) := by
  unfold toolStarted
  split
  · next arriving =>
    obtain ⟨last, _, role⟩ := open_reply_last arriving
    split
    · exact set_last_grows last role rfl
    · exact grows_self state
  · exact grows_self state

theorem tool_finished_grows (tool : String) (success : Bool) (state : State) :
    Grows none state (state.toolFinished tool success) := by
  simp only [toolFinished]
  split
  · next answered =>
    obtain ⟨last, role⟩ := Option.filter_eq_some_iff.mp answered
    exact set_last_grows last (by simpa using role) rfl
  · exact grows_self state

theorem done_grows (messageId : Option String) (orderly : state.Orderly) :
    Grows none state (state.done messageId) :=
  ⟨rfl, rfl, _, finalize_keeps (messageId.filter validId) orderly, by simp [done]⟩

theorem perform_change (stamp : Message.Stamp) (action : Action) (orderly : state.Orderly) :
    Change stamp action state (state.perform stamp action).1 (state.perform stamp action).2 := by
  cases action with
  | send text => exact send_change stamp text state
  | sendAccepted localId serverId => exact .accepted localId serverId rfl rfl
  | sendFailed error =>
      refine .kept _ ?_ nofun nofun (fail_send_grows stamp error orderly)
      rintro _ ⟨⟩
      exact nofun
  | token text =>
      obtain ⟨added, others, grows⟩ := token_grows stamp text state
      exact .kept added others nofun nofun grows
  | toolStarted tool args =>
      exact .kept none nofun nofun nofun (tool_started_grows tool args state)
  | toolFinished tool success =>
      exact .kept none nofun nofun nofun (tool_finished_grows tool success state)
  | done messageId => exact .kept none nofun nofun nofun (done_grows messageId orderly)
  | loadHistory records =>
      exact .replaced (ofRecords records) rfl fun _ member => ⟨records, rfl, member⟩
  | clear => exact .replaced [] rfl nofun

theorem apply_change (stamp : Message.Stamp) (action : Action) (orderly : state.Orderly) :
    ∃ middle, Change stamp action state middle (state.apply stamp action).2 ∧
      (state.apply stamp action).1 = { middle with messages := newest middle.messages } := by
  refine ⟨(state.perform stamp action).1, ?_, apply_fst stamp action state⟩
  simp only [apply]
  exact perform_change stamp action orderly

/-- A send is submitted as soon as it is admitted. -/
theorem apply_send (stamp : Message.Stamp) (text : String) (state : State) :
    (state.apply stamp (.send text)).2 =
      if state.Admits text then some ⟨stamp.id, Text.trim text⟩ else none := by
  simp only [apply, perform, send]
  by_cases admitted : state.Admits text
  · rw [if_neg (mt (refuses_iff state text).mp (not_not.mpr admitted)), if_pos admitted]
  · rw [if_pos ((refuses_iff state text).mpr admitted), if_neg admitted]

/-- What was sent is held. -/
theorem apply_send_holds {text : String} (stamp : Message.Stamp) (admitted : state.Admits text) :
    (state.apply stamp (.send text)).1.Holds state.nextPlace
      (.plain stamp .user (Text.trim text)) := by
  simp only [apply, perform, send]
  rw [if_neg (mt (refuses_iff state text).mp (not_not.mpr admitted))]
  exact holds_newest_push state (.plain stamp .user (Text.trim text))

theorem apply_accept (stamp : Message.Stamp) (localId serverId : String) (state : State) :
    (state.apply stamp (.sendAccepted localId serverId)).1 =
      { state.accept localId serverId with
        messages := newest (state.accept localId serverId).messages } :=
  apply_fst stamp (.sendAccepted localId serverId) state

/-- Nothing else is submitted. -/
theorem apply_unsent {action : Action} (stamp : Message.Stamp) (state : State)
    (other : ∀ text, action ≠ .send text) : (state.apply stamp action).2 = none := by
  cases action with
  | send text => exact absurd rfl (other text)
  | _ => simp only [apply, perform]

/-! What was put somewhere stays so. -/

theorem accept_frame (localId serverId : String) (state : State) :
    (state.accept localId serverId).epoch = state.epoch ∧
      (state.accept localId serverId).appended = state.appended ∧
      (state.accept localId serverId).messages.length = state.messages.length := by
  have length := congrArg List.length (accept_shapes localId serverId state).1
  rw [List.length_map, List.length_map] at length
  refine ⟨?_, ?_, length⟩ <;> simp only [accept] <;> split <;> rfl

theorem given_of_grows {added : Option Message} (grows : Grows added before after)
    (given : before.Given place) : after.Given place := by
  obtain ⟨epoch, appended, _⟩ := grows
  rcases given with older | ⟨same, index⟩
  · exact .inl (by omega)
  · exact .inr ⟨by omega, by omega⟩

/-- The messages themselves do not matter. -/
theorem given_messages (messages : List Message) (given : state.Given place) :
    { state with messages }.Given place := given

theorem change_given {stamp : Message.Stamp} {action : Action} {submission : Option Submission}
    (change : Change stamp action before after submission) (given : before.Given place) :
    after.Given place := by
  cases change with
  | sent text asked admitted grows => exact given_of_grows grows given
  | accepted localId serverId asked same =>
      obtain ⟨epoch, appended, _⟩ := accept_frame localId serverId before
      rw [same, Given, epoch, appended]
      exact given
  | replaced messages same loaded =>
      rw [same]
      exact .inl (by rcases given with older | ⟨same, _⟩ <;> simp only [replace] <;> omega)
  | kept added others refused elsewhere grows => exact given_of_grows grows given

theorem counted_of_grows {added : Option Message} (grows : Grows added before after)
    (counted : before.Counted) : after.Counted := by
  obtain ⟨_, appended, kept, each, split⟩ := grows
  have length := each.length_eq
  simp only [Counted, split, appended, List.length_append] at counted ⊢
  omega

/-- The place of what is added is taken. -/
theorem given_next {new : Message} (grows : Grows (some new) before after) :
    after.Given before.nextPlace := by
  obtain ⟨epoch, appended, _⟩ := grows
  exact .inr ⟨epoch.symm, by simp [nextPlace, appended]⟩

theorem newest_counted (counted : state.Counted) :
    { state with messages := newest state.messages }.Counted := by
  simp only [Counted, newest, List.length_drop] at counted ⊢
  omega

theorem change_counted {stamp : Message.Stamp} {action : Action} {submission : Option Submission}
    (change : Change stamp action before after submission) (counted : before.Counted) :
    after.Counted := by
  cases change with
  | sent text asked admitted grows => exact counted_of_grows grows counted
  | accepted localId serverId asked same =>
      obtain ⟨_, appended, length⟩ := accept_frame localId serverId before
      rw [same, Counted, appended, length]
      exact counted
  | replaced messages same loaded =>
      rw [same]
      exact Nat.le_refl _
  | kept added others refused elsewhere grows => exact counted_of_grows grows counted

theorem apply_counted (stamp : Message.Stamp) (action : Action) (orderly : state.Orderly)
    (counted : state.Counted) : (state.apply stamp action).1.Counted := by
  obtain ⟨middle, change, same⟩ := apply_change stamp action orderly
  rw [same]
  exact newest_counted (change_counted change counted)

/-! Acceptance. -/

/-- No message of the user has this identifier. -/
def Lacks (messages : List Message) (id : String) : Prop :=
  ∀ message ∈ messages, ¬(message.role = .user ∧ message.id = id)

theorem update_first_unchanged {Item : Type} {test : Item → Bool} (change : Item → Item)
    {items : List Item} (fails : ∀ item ∈ items, test item = false) :
    updateFirst test change items = items := by
  induction items with
  | nil => rfl
  | cons item rest induction =>
      obtain ⟨here, others⟩ := List.forall_mem_cons.mp fails
      simp [updateFirst, here, induction others]

theorem update_first_split {Item : Type} {test : Item → Bool} (change : Item → Item) {item : Item}
    {earlier : List Item} (later : List Item) (fails : ∀ other ∈ earlier, test other = false)
    (passes : test item = true) :
    updateFirst test change (earlier ++ item :: later) = earlier ++ change item :: later := by
  induction earlier with
  | nil => simp [updateFirst, passes]
  | cons other rest induction =>
      obtain ⟨here, others⟩ := List.forall_mem_cons.mp fails
      simp [updateFirst, here, induction others]

/-- The identifier that the message of a send has once it is accepted. -/
def adopted (localId serverId : String) : String := if validId serverId then serverId else localId

theorem accept_lacking {localId : String} (serverId : String)
    (lacks : Lacks state.messages localId) : state.accept localId serverId = state := by
  have unchanged : ∀ change : Message → Message,
      updateLast (fun message => message.role = .user && message.id = localId) change
        state.messages = state.messages := by
    intro change
    rw [updateLast, update_first_unchanged, List.reverse_reverse]
    intro message member
    simpa using lacks message (List.mem_reverse.mp member)
  simp only [accept, unchanged, ite_self]

/-- What the acceptance makes of a message if it is the only one of its identifier. -/
def adopt (localId serverId : String) (message : Message) : Message :=
  if message.role = .user ∧ message.id = localId then
    { message with id := adopted localId serverId }
  else message

theorem adopt_lacking {messages : List Message} {localId : String} (serverId : String)
    (lacks : Lacks messages localId) : messages.map (adopt localId serverId) = messages := by
  conv_rhs => rw [← List.map_id messages]
  exact List.map_congr_left fun message member => if_neg (lacks message member)

theorem holds_adopt {localId serverId : String}
    (held : { state with messages := state.messages.map (adopt localId serverId) }.Holds place
      message) :
    ∃ old, state.Holds place old ∧ message = adopt localId serverId old := by
  apply holds_related _ held
  rw [List.forall₂_map_right_iff, List.forall₂_same]
  exact fun _ _ => rfl

theorem accept_single {localId : String} (serverId : String) {earlier later : List Message}
    (split : state.messages = earlier ++ message :: later) (user : message.role = .user)
    (named : message.id = localId) (single : Lacks later localId) :
    state.accept localId serverId =
      { state with
        messages := earlier ++ { message with id := adopted localId serverId } :: later } := by
  have renamed : updateLast (fun message => message.role = .user && message.id = localId)
      (fun message => { message with id := serverId }) state.messages =
        earlier ++ { message with id := serverId } :: later := by
    rw [updateLast, split, List.reverse_append, List.reverse_cons, List.append_assoc,
      List.singleton_append, update_first_split]
    · simp
    · intro other member
      simpa using single other (List.mem_reverse.mp member)
    · simp [user, named]
  simp only [accept, renamed, adopted]
  split
  · rfl
  · rw [← named, ← split]

end State

end LiveChat.Conversation
