import LiveChat.Proofs.Conversation.Bounds
import Mathlib.Data.List.Forall2

/-!
A conversation together with the messages it has dropped since its list was last replaced. In this
order every message keeps its index for as long as the list is not replaced, and whatever is held
under an index has only grown.
-/

set_option autoImplicit false

namespace LiveChat.Conversation

/-- What a call is about, whatever has come of it. -/
def ToolCall.subject (call : ToolCall) : String × Json := (call.tool, call.args)

/-- The list of messages gives way to another one. -/
def Action.replaces : Action → Bool
  | .loadHistory _ => true
  | .clear => true
  | _ => false

/-- What a message can become. -/
structure Message.Grows (old new : Message) : Prop where
  role : new.role = old.role
  timestamp : new.timestamp = old.timestamp
  cards : new.cards = old.cards
  content : old.content.toList <+: new.content.toList
  tools : old.tools.map ToolCall.subject <+: new.tools.map ToolCall.subject
  streaming : new.streaming = true → old.streaming = true
  settled : old.streaming = false → new.content = old.content

theorem Message.grows_self (message : Message) : message.Grows message :=
  ⟨rfl, rfl, rfl, List.prefix_rfl, List.prefix_rfl, fun same => same, fun _ => rfl⟩

theorem Message.grows_trans {old middle new : Message} (first : old.Grows middle)
    (second : middle.Grows new) : old.Grows new := by
  refine ⟨second.role.trans first.role, second.timestamp.trans first.timestamp,
    second.cards.trans first.cards, first.content.trans second.content,
    first.tools.trans second.tools, fun streaming => first.streaming (second.streaming streaming),
    fun settled => ?_⟩
  have still : middle.streaming = false := by
    cases streaming : middle.streaming with
    | false => rfl
    | true =>
        rw [first.streaming streaming] at settled
        cases settled
  exact (second.settled still).trans (first.settled settled)

theorem Message.grows_named (id : String) (message : Message) :
    message.Grows { message with id } :=
  ⟨rfl, rfl, rfl, List.prefix_rfl, List.prefix_rfl, fun same => same, fun _ => rfl⟩

theorem Message.grows_ended (id : String) (message : Message) :
    message.Grows { message with streaming := false, id } :=
  ⟨rfl, rfl, rfl, List.prefix_rfl, List.prefix_rfl, nofun, fun _ => rfl⟩

/-- Only what is still arriving gets more content. -/
theorem Message.grows_text {message : Message} (text : String)
    (streaming : message.streaming = true) :
    message.Grows { message with content := message.content ++ text } := by
  refine ⟨rfl, rfl, rfl, ?_, List.prefix_rfl, fun same => same, fun settled => ?_⟩
  · rw [String.toList_append]
    exact List.prefix_append _ _
  · rw [streaming] at settled
    cases settled

theorem Message.grows_tools {message : Message} {tools : List ToolCall}
    (longer : message.tools.map ToolCall.subject <+: tools.map ToolCall.subject) :
    message.Grows { message with tools } :=
  ⟨rfl, rfl, rfl, List.prefix_rfl, longer, fun same => same, fun _ => rfl⟩

theorem grown_self (messages : List Message) : List.Forall₂ Message.Grows messages messages :=
  List.forall₂_same.mpr fun message _ => message.grows_self

namespace State

variable {state before after : State} {added : Option Message}

/-- Every message is there and has only grown, and this is added. -/
structure Extends (added : Option Message) (before after : State) : Prop where
  epoch : after.epoch = before.epoch
  appended : after.appended = before.appended + added.toList.length
  messages : ∃ kept, List.Forall₂ Message.Grows before.messages kept ∧
    after.messages = kept ++ added.toList

theorem extends_self (state : State) : Extends none state state :=
  ⟨rfl, rfl, state.messages, grown_self _, (List.append_nil _).symm⟩

theorem update_first_related {Item : Type} {related : Item → Item → Prop} (test : Item → Bool)
    {change : Item → Item} (same : ∀ item, related item item)
    (changed : ∀ item, related item (change item)) (items : List Item) :
    List.Forall₂ related items (updateFirst test change items) := by
  induction items with
  | nil => exact .nil
  | cons item rest induction =>
      unfold updateFirst
      split
      · exact .cons (changed item) (List.forall₂_same.mpr fun other _ => same other)
      · exact .cons (same item) induction

theorem update_last_related {Item : Type} {related : Item → Item → Prop} (test : Item → Bool)
    {change : Item → Item} (same : ∀ item, related item item)
    (changed : ∀ item, related item (change item)) (items : List Item) :
    List.Forall₂ related items (updateLast test change items) := by
  have reversed := update_first_related test same changed items.reverse
  rw [updateLast]
  simpa using List.rel_reverse reversed

theorem set_last_extends {reply next : Message} (last : state.last? = some reply)
    (grows : reply.Grows next) : Extends none state (state.setLast next) :=
  ⟨rfl, rfl, _, set_last_related Message.grows_self last grows, (List.append_nil _).symm⟩

theorem finalize_grown (serverId : Option String) (state : State) :
    List.Forall₂ Message.Grows state.messages (state.finalize serverId).messages := by
  rw [finalize, List.forall₂_map_right_iff, List.forall₂_same]
  intro message _
  split
  · exact message.grows_ended _
  · exact message.grows_self

theorem send_extends (stamp : Message.Stamp) (text : String) (state : State) :
    ∃ added, Extends added state (state.send stamp text).1 := by
  simp only [send]
  split
  · exact ⟨none, extends_self state⟩
  · exact ⟨some (.plain stamp .user (Text.trim text)), rfl, rfl, state.messages, grown_self _, rfl⟩

theorem accept_extends (localId serverId : String) (state : State) :
    Extends none state (state.accept localId serverId) := by
  simp only [accept]
  split
  · refine ⟨rfl, rfl, _, ?_, (List.append_nil _).symm⟩
    exact update_last_related _ Message.grows_self (Message.grows_named serverId) state.messages
  · exact extends_self state

theorem fail_send_extends (stamp : Message.Stamp) (error : String) (state : State) :
    Extends (some (.plain stamp .system ("Failed to send message: " ++ error))) state
      (state.failSend stamp error) :=
  ⟨rfl, rfl, _, finalize_grown none state, rfl⟩

theorem token_extends (stamp : Message.Stamp) (text : String) (state : State) :
    ∃ added, Extends added state (state.token stamp text) := by
  unfold token
  split
  · next reply arriving =>
    obtain ⟨last, streaming, _⟩ := open_reply_last arriving
    split
    · exact ⟨none, extends_self state⟩
    · have grown := set_last_extends last (Message.grows_text text streaming)
      exact ⟨none, grown.epoch, grown.appended, grown.messages⟩
  · split
    · exact ⟨none, extends_self state⟩
    · exact ⟨some (.reply stamp text), rfl, rfl, state.messages, grown_self _, rfl⟩

theorem tool_started_extends (tool : String) (args : Json) (state : State) :
    Extends none state (state.toolStarted tool args) := by
  unfold toolStarted
  split
  · next reply arriving =>
    obtain ⟨last, _, _⟩ := open_reply_last arriving
    split
    · apply set_last_extends last
      apply Message.grows_tools
      rw [List.map_append]
      exact List.prefix_append _ _
    · exact extends_self state
  · exact extends_self state

/-- The end of a call changes nothing but what has come of it. -/
theorem tool_finished_extends (tool : String) (success : Bool) (state : State) :
    Extends none state (state.toolFinished tool success) := by
  simp only [toolFinished]
  split
  · next reply answered =>
    apply set_last_extends (Option.filter_eq_some_iff.mp answered).1
    apply Message.grows_tools
    have same := update_last_map ToolCall.subject
      (fun call => call.tool = tool && call.status = .running)
      (fun call => { call with status := if success then ToolStatus.success else ToolStatus.error })
      (fun _ _ => rfl) reply.tools
    exact same ▸ List.prefix_rfl
  · exact extends_self state

theorem done_extends (messageId : Option String) (state : State) :
    Extends none state (state.done messageId) :=
  ⟨rfl, rfl, _, finalize_grown (messageId.filter validId) state, (List.append_nil _).symm⟩

theorem perform_extends {action : Action} (stamp : Message.Stamp) (state : State)
    (keeps : action.replaces = false) :
    ∃ added, Extends added state (state.perform stamp action).1 := by
  cases action with
  | send text => exact send_extends stamp text state
  | sendAccepted localId serverId => exact ⟨none, accept_extends localId serverId state⟩
  | sendFailed error => exact ⟨_, fail_send_extends stamp error state⟩
  | token text => exact token_extends stamp text state
  | toolStarted tool args => exact ⟨none, tool_started_extends tool args state⟩
  | toolFinished tool success => exact ⟨none, tool_finished_extends tool success state⟩
  | done messageId => exact ⟨none, done_extends messageId state⟩
  | loadHistory records => cases keeps
  | clear => cases keeps

theorem perform_replaces {action : Action} (stamp : Message.Stamp) (state : State)
    (replaces : action.replaces = true) :
    ∃ messages, messages.length ≤ maxMessages ∧
      (state.perform stamp action).1 = state.replace messages := by
  cases action with
  | loadHistory records => exact ⟨ofRecords records, newest_length _, rfl⟩
  | clear => exact ⟨[], Nat.zero_le _, rfl⟩
  | _ => cases replaces

/-- The number of messages added before the first that is still held. -/
def base (state : State) : Nat := state.appended - state.messages.length

/-- What is held of the messages added since the list was last replaced, by their order. -/
def held? (state : State) (index : Nat) : Option Message :=
  if state.base ≤ index then state.messages[index - state.base]? else none

theorem base_add_length (counted : state.messages.length ≤ state.appended) :
    state.base + state.messages.length = state.appended :=
  Nat.sub_add_cancel counted

theorem held_place {index : Nat} {message : Message} (held : state.held? index = some message) :
    state.base ≤ index ∧ state.messages[index - state.base]? = some message := by
  unfold held? at held
  split at held
  · next inside => exact ⟨inside, held⟩
  · cases held

/-- What an action drops comes after what was dropped before, unless it replaces the list. -/
def dropped (gone : List Message) (state : State) (entry : Message.Stamp × Action) :
    List Message :=
  let performed := (state.perform entry.1 entry.2).1.messages
  (if entry.2.replaces then [] else gone) ++ performed.take (performed.length - maxMessages)

theorem dropped_counted {gone : List Message}
    (counted : state.appended = gone.length + state.messages.length)
    (entry : Message.Stamp × Action) :
    (state.after entry).appended =
      (dropped gone state entry).length + (state.after entry).messages.length := by
  have whole : (state.perform entry.1 entry.2).1.appended =
      (if entry.2.replaces then [] else gone).length +
        (state.perform entry.1 entry.2).1.messages.length := by
    cases replaces : entry.2.replaces with
    | true =>
        obtain ⟨messages, _, same⟩ := perform_replaces entry.1 state replaces
        rw [same]
        exact (Nat.zero_add _).symm
    | false =>
        obtain ⟨added, grown⟩ := perform_extends entry.1 state replaces
        obtain ⟨kept, each, messages⟩ := grown.messages
        rw [grown.appended, messages, List.length_append, ← each.length_eq, counted,
          Nat.add_assoc]
        rfl
  simp only [after, apply_fst, dropped, newest, whole, List.length_append, List.length_take,
    List.length_drop]
  omega

end State

/-- A conversation with the messages it has dropped since its list was last replaced. -/
structure Chronicle where
  gone : List Message
  state : State
  counted : state.appended = gone.length + state.messages.length
  orderly : state.Orderly

namespace Chronicle

def start : Chronicle where
  gone := []
  state := .empty
  counted := rfl
  orderly := State.empty_orderly

def after (chronicle : Chronicle) (entry : Message.Stamp × Action) : Chronicle where
  gone := State.dropped chronicle.gone chronicle.state entry
  state := chronicle.state.after entry
  counted := State.dropped_counted chronicle.counted entry
  orderly := State.apply_orderly entry.1 entry.2 chronicle.orderly

def ofScript (script : List (Message.Stamp × Action)) : Chronicle := script.foldl after start

/-- Every message added since the list was last replaced, as it is or was when it was dropped. -/
def all (chronicle : Chronicle) : List Message := chronicle.gone ++ chronicle.state.messages

/-- The later conversation is the earlier one gone on: its list was not replaced, what was dropped
is as it was, and every message has only grown. -/
structure Continues (earlier later : Chronicle) : Prop where
  epoch : later.state.epoch = earlier.state.epoch
  gone : earlier.gone <+: later.gone
  all : ∀ (index : Nat) (old : Message), earlier.all[index]? = some old →
    ∃ new, later.all[index]? = some new ∧ old.Grows new

/-- What one action makes of a conversation. Its list is replaced, or a message at most is added
and whatever is held at an index that was given before has grown from what was held there. -/
inductive Becomes (action : Action) (before after : Chronicle) : Prop where
  | replaced (replaces : action.replaces = true)
      (epoch : after.state.epoch = before.state.epoch + 1)
      (appended : after.state.appended = after.state.messages.length)
  | kept (keeps : action.replaces = false) (added : Option Message)
      (epoch : after.state.epoch = before.state.epoch)
      (appended : after.state.appended = before.state.appended + added.toList.length)
      (all : ∃ kept, List.Forall₂ Message.Grows before.all kept ∧
        after.all = kept ++ added.toList)
      (held : ∀ index new, after.state.held? index = some new → index < before.state.appended →
        ∃ old, before.state.held? index = some old ∧ old.Grows new)

variable {earlier middle later chronicle : Chronicle} {entry : Message.Stamp × Action}

theorem script_state (script : List (Message.Stamp × Action)) :
    (ofScript script).state = script.foldl State.after State.empty :=
  (List.foldl_hom Chronicle.state fun _ _ => rfl).symm

/-! Indices. -/

theorem base_gone (chronicle : Chronicle) : chronicle.state.base = chronicle.gone.length := by
  rw [State.base, chronicle.counted, Nat.add_sub_cancel]

theorem all_length (chronicle : Chronicle) : chronicle.all.length = chronicle.state.appended := by
  rw [all, List.length_append, chronicle.counted]

theorem messages_le_appended (chronicle : Chronicle) :
    chronicle.state.messages.length ≤ chronicle.state.appended := by
  rw [chronicle.counted]
  exact Nat.le_add_left _ _

/-- What is held is what was added, from the first that was not dropped. -/
theorem held_iff (chronicle : Chronicle) (index : Nat) (message : Message) :
    chronicle.state.held? index = some message ↔
      chronicle.gone.length ≤ index ∧ chronicle.all[index]? = some message := by
  rw [State.held?, base_gone]
  split
  · next inside =>
    rw [all, List.getElem?_append_right inside]
    exact (and_iff_right inside).symm
  · next outside => exact ⟨nofun, fun both => absurd both.1 outside⟩

theorem held_given {index : Nat} {message : Message}
    (held : chronicle.state.held? index = some message) : index < chronicle.state.appended := by
  obtain ⟨_, found⟩ := (held_iff chronicle index message).mp held
  obtain ⟨inside, _⟩ := List.getElem?_eq_some_iff.mp found
  exact chronicle.all_length ▸ inside

/-- The last message is held at the last index that was given. -/
theorem last_held (chronicle : Chronicle) :
    chronicle.state.last? = chronicle.state.held? (chronicle.state.appended - 1) := by
  have ends : (chronicle.state.appended - 1) - chronicle.gone.length =
      chronicle.state.messages.length - 1 := by
    rw [chronicle.counted]
    omega
  rw [State.held?, base_gone, State.last?, List.getLast?_eq_getElem?, ends]
  split
  · rfl
  · next outside =>
    rw [List.getElem?_eq_none]
    rw [chronicle.counted] at outside
    omega

/-- What is still arriving is held at the last index that was given. -/
theorem streaming_held {index : Nat} {message : Message}
    (held : chronicle.state.held? index = some message) (streaming : message.streaming = true) :
    index + 1 = chronicle.state.appended := by
  obtain ⟨inside, place⟩ := State.held_place held
  have final := State.streaming_last chronicle.orderly place streaming
  have base := State.base_add_length chronicle.messages_le_appended
  omega

/-! One action. -/

theorem after_all (chronicle : Chronicle) (entry : Message.Stamp × Action) :
    (chronicle.after entry).all = (if entry.2.replaces then [] else chronicle.gone) ++
      (chronicle.state.perform entry.1 entry.2).1.messages := by
  simp only [all, after, State.dropped, State.after, State.apply_fst, newest, List.append_assoc,
    List.take_append_drop]

theorem after_replaced (chronicle : Chronicle) (replaces : entry.2.replaces = true) :
    (chronicle.after entry).state.epoch = chronicle.state.epoch + 1 ∧
      (chronicle.after entry).state.appended =
        (chronicle.after entry).state.messages.length := by
  obtain ⟨messages, few, same⟩ := State.perform_replaces entry.1 chronicle.state replaces
  have whole : messages.length - maxMessages = 0 := Nat.sub_eq_zero_of_le few
  simp only [after, State.after, State.apply_fst, same, State.replace, newest, whole,
    List.drop_zero, and_self]

theorem after_kept (chronicle : Chronicle) (keeps : entry.2.replaces = false) :
    (chronicle.after entry).state.epoch = chronicle.state.epoch ∧
      chronicle.gone <+: (chronicle.after entry).gone ∧
      ∃ (kept : List Message) (added : Option Message),
        List.Forall₂ Message.Grows chronicle.all kept ∧
          (chronicle.after entry).all = kept ++ added.toList ∧
          (chronicle.after entry).state.appended =
            chronicle.state.appended + added.toList.length := by
  obtain ⟨added, grown⟩ := State.perform_extends entry.1 chronicle.state keeps
  obtain ⟨kept, each, messages⟩ := grown.messages
  have same : (chronicle.after entry).state =
      { (chronicle.state.perform entry.1 entry.2).1 with
        messages := newest (chronicle.state.perform entry.1 entry.2).1.messages } :=
    State.apply_fst entry.1 entry.2 chronicle.state
  refine ⟨?_, ?_, chronicle.gone ++ kept, added, ?_, ?_, ?_⟩
  · rw [same]
    exact grown.epoch
  · simp only [after, State.dropped, keeps, Bool.false_eq_true, if_false]
    exact List.prefix_append _ _
  · exact List.rel_append (grown_self _) each
  · rw [after_all, keeps, messages, ← List.append_assoc]
    rfl
  · rw [same]
    exact grown.appended

theorem after_continues (chronicle : Chronicle) (keeps : entry.2.replaces = false) :
    Continues chronicle (chronicle.after entry) := by
  obtain ⟨epoch, gone, kept, added, each, all, _⟩ := after_kept chronicle keeps
  refine ⟨epoch, gone, ?_⟩
  intro index old found
  obtain ⟨inside, rfl⟩ := List.getElem?_eq_some_iff.mp found
  have reached : index < kept.length := each.length_eq ▸ inside
  refine ⟨kept[index], ?_, List.Forall₂.get each inside reached⟩
  rw [all, List.getElem?_append_left reached]
  exact List.getElem?_eq_getElem reached

/-- What is held under an index that was given before was held there before, and has grown. -/
theorem continues_held (continues : Continues earlier later) {index : Nat} {new : Message}
    (held : later.state.held? index = some new) (given : index < earlier.state.appended) :
    ∃ old, earlier.state.held? index = some old ∧ old.Grows new := by
  obtain ⟨inside, found⟩ := (held_iff later index new).mp held
  rw [← all_length] at given
  have old := List.getElem?_eq_getElem given
  obtain ⟨grown, same, grows⟩ := continues.all index _ old
  rw [found] at same
  cases same
  exact ⟨_, (held_iff earlier index _).mpr ⟨continues.gone.length_le.trans inside, old⟩, grows⟩

theorem after_becomes (chronicle : Chronicle) (entry : Message.Stamp × Action) :
    Becomes entry.2 chronicle (chronicle.after entry) := by
  cases replaces : entry.2.replaces with
  | true =>
      obtain ⟨epoch, appended⟩ := after_replaced chronicle replaces
      exact .replaced replaces epoch appended
  | false =>
      obtain ⟨epoch, _, kept, added, each, all, appended⟩ := after_kept chronicle replaces
      refine .kept replaces added epoch appended ⟨kept, each, all⟩ ?_
      intro index new
      exact continues_held (after_continues chronicle replaces)

/-- Whatever is done to an empty conversation, no fewer messages were added than are held, and the
difference is how many were dropped since the list was last replaced. Every further action replaces
the list or leaves all indices to the messages that have them. -/
theorem append_indices_stable (script : List (Message.Stamp × Action))
    (entry : Message.Stamp × Action) :
    (ofScript script).state = script.foldl State.after State.empty ∧
      (ofScript script).state.messages.length ≤ (ofScript script).state.appended ∧
      (ofScript script).state.appended - (ofScript script).state.messages.length =
        (ofScript script).gone.length ∧
      Becomes entry.2 (ofScript script) ((ofScript script).after entry) :=
  ⟨script_state script, messages_le_appended _, base_gone _, after_becomes _ entry⟩

/-! A run of actions. -/

theorem continues_self (chronicle : Chronicle) : Continues chronicle chronicle :=
  ⟨rfl, List.prefix_rfl, fun _ old found => ⟨old, found, old.grows_self⟩⟩

theorem continues_trans (first : Continues earlier middle) (second : Continues middle later) :
    Continues earlier later := by
  refine ⟨second.epoch.trans first.epoch, first.gone.trans second.gone, ?_⟩
  intro index old found
  obtain ⟨between, inside, grown⟩ := first.all index old found
  obtain ⟨new, last, further⟩ := second.all index between inside
  exact ⟨new, last, Message.grows_trans grown further⟩

/-- What was held is still held under its index, grown, unless it was dropped. -/
theorem continues_holds (continues : Continues earlier later) {index : Nat} {old : Message}
    (held : earlier.state.held? index = some old) (inside : later.state.base ≤ index) :
    ∃ new, later.state.held? index = some new ∧ old.Grows new := by
  obtain ⟨_, placed⟩ := (held_iff earlier index old).mp held
  obtain ⟨new, found, grows⟩ := continues.all index old placed
  rw [base_gone] at inside
  exact ⟨new, (held_iff later index new).mpr ⟨inside, found⟩, grows⟩

theorem continues_appended (continues : Continues earlier later) :
    earlier.state.appended ≤ later.state.appended := by
  rw [← all_length, ← all_length]
  by_contra fewer
  have found := List.getElem?_eq_getElem (Nat.not_le.mp fewer)
  obtain ⟨_, inside, _⟩ := continues.all _ _ found
  exact absurd (List.getElem?_eq_some_iff.mp inside).1 (Nat.lt_irrefl _)

theorem epoch_le_after (chronicle : Chronicle) (entry : Message.Stamp × Action) :
    chronicle.state.epoch ≤ (chronicle.after entry).state.epoch := by
  cases replaces : entry.2.replaces with
  | true =>
      rw [(after_replaced chronicle replaces).1]
      exact Nat.le_succ _
  | false => exact (after_continues chronicle replaces).epoch.ge

theorem epoch_le_run (chronicle : Chronicle) (rest : List (Message.Stamp × Action)) :
    chronicle.state.epoch ≤ (rest.foldl after chronicle).state.epoch := by
  induction rest generalizing chronicle with
  | nil => exact Nat.le_refl _
  | cons entry rest induction =>
      exact (epoch_le_after chronicle entry).trans (induction (chronicle.after entry))

/-- As long as the epoch is the same, a conversation goes on. -/
theorem run_continues (rest : List (Message.Stamp × Action))
    (same : (rest.foldl after chronicle).state.epoch = chronicle.state.epoch) :
    Continues chronicle (rest.foldl after chronicle) := by
  induction rest generalizing chronicle with
  | nil => exact continues_self chronicle
  | cons entry rest induction =>
      rw [List.foldl_cons] at same ⊢
      have further := epoch_le_run (chronicle.after entry) rest
      cases replaces : entry.2.replaces with
      | true =>
          have raised := (after_replaced chronicle replaces).1
          omega
      | false =>
          have step := after_continues chronicle replaces
          exact continues_trans step (induction (same.trans step.epoch.symm))

/-! What was dropped. -/

/-- What was dropped is complete, and nothing is dropped unless as much is held as may be. -/
structure Sheds (chronicle : Chronicle) : Prop where
  quiet : Quiet chronicle.gone
  full : chronicle.gone ≠ [] → chronicle.state.messages.length = maxMessages

theorem after_quiet (entry : Message.Stamp × Action) (quiet : Quiet chronicle.gone) :
    Quiet (chronicle.after entry).gone := by
  have earlier := (State.perform_orderly entry.1 entry.2 chronicle.orderly).earlier
  intro message member
  simp only [after, State.dropped] at member
  rcases List.mem_append.mp member with before | added
  · split at before
    · cases before
    · exact quiet message before
  · -- The last message is never among those that are dropped.
    have longer := List.length_pos_of_mem (List.mem_of_mem_take added)
    have inner : (chronicle.state.perform entry.1 entry.2).1.messages.length - maxMessages ≤
        (chronicle.state.perform entry.1 entry.2).1.messages.length - 1 := by
      simp only [maxMessages]
      omega
    rw [List.dropLast_eq_take] at earlier
    exact earlier message ((List.take_prefix_take_left inner).subset added)

theorem after_full (entry : Message.Stamp × Action)
    (full : chronicle.gone ≠ [] → chronicle.state.messages.length = maxMessages)
    (sheds : (chronicle.after entry).gone ≠ []) :
    (chronicle.after entry).state.messages.length = maxMessages := by
  have held : (chronicle.after entry).state.messages.length =
      (chronicle.state.perform entry.1 entry.2).1.messages.length -
        ((chronicle.state.perform entry.1 entry.2).1.messages.length - maxMessages) := by
    simp only [after, State.after, State.apply_fst, newest, List.length_drop]
  suffices enough : maxMessages ≤ (chronicle.state.perform entry.1 entry.2).1.messages.length by
    omega
  by_contra few
  have dropped : (chronicle.state.perform entry.1 entry.2).1.messages.length - maxMessages = 0 := by
    omega
  simp only [after, State.dropped, dropped, List.take_zero, List.append_nil] at sheds
  split at sheds
  · exact sheds rfl
  · next keeps =>
    obtain ⟨_, _, kept, added, each, all, _⟩ := after_kept chronicle (eq_false_of_ne_true keeps)
    have reached := full sheds
    have longer := congrArg List.length all
    rw [after_all, if_neg keeps, List.length_append, List.length_append, ← each.length_eq,
      all_length, chronicle.counted] at longer
    omega

theorem start_sheds : start.Sheds := ⟨nofun, fun sheds => absurd rfl sheds⟩

theorem script_sheds (script : List (Message.Stamp × Action)) : (ofScript script).Sheds :=
  List.foldlRecOn script after start_sheds fun _ before entry _ =>
    ⟨after_quiet entry before.quiet, after_full entry before.full⟩

end Chronicle

end LiveChat.Conversation
