import LiveChat.Proofs.Stream.Delivery
import Mathlib.Data.List.Infix

/-!
A connection that its owner took down. Until it is told to connect, it asks for no link, has no
alarm and nothing to tell, and nothing is read for it. What its readers still get was in their
queues already, except for the one event that was parked. A destroyed connection has not even that.
-/

set_option autoImplicit false

namespace LiveChat.Stream

namespace Connection

/-- Nothing is under way, and nothing but an order to connect brings a link back. -/
structure Dormant (connection : Connection) : Prop where
  status : connection.status = .disconnected
  link : connection.link = none
  reconnect : connection.reconnectAt = none
  inactivity : connection.inactivityAt = none
  unmarked : connection.closedByInactivity = false

variable {connection : Connection}

theorem dormant_counters (dormant : connection.Dormant) (counters : Counters) :
    { connection with counters }.Dormant :=
  ⟨dormant.status, dormant.link, dormant.reconnect, dormant.inactivity, dormant.unmarked⟩

theorem disconnect_dormant (connection : Connection) : connection.disconnect.Dormant := by
  obtain ⟨changes, same⟩ := disconnect_frame connection
  rw [same]
  exact ⟨rfl, rfl, rfl, rfl, rfl⟩

theorem destroy_dormant (alive : connection.destroyed = false) : connection.destroy.Dormant := by
  have dormant := disconnect_dormant connection
  unfold destroy
  rw [alive]
  exact ⟨dormant.status, dormant.link, dormant.reconnect, dormant.inactivity, dormant.unmarked⟩

theorem set_hidden_dormant (settings : Settings) (now : Nat) (dormant : connection.Dormant) :
    (connection.setVisibility settings now .hidden).1.Dormant := by
  rw [set_hidden_frame]
  refine ⟨dormant.status, dormant.link, dormant.reconnect, ?_, dormant.unmarked⟩
  simp [dormant.status, dormant.inactivity]

theorem set_visible_dormant (settings : Settings) (now : Nat) (alive : connection.destroyed = false)
    (dormant : connection.Dormant) :
    (connection.setVisibility settings now .visible).1.Dormant ∧
      (connection.setVisibility settings now .visible).2 = [] := by
  constructor
  · rw [set_visible_frame settings now connection alive, dormant.unmarked]
    exact ⟨dormant.status, dormant.link, dormant.reconnect, rfl, rfl⟩
  · simp [setVisibility, dormant.unmarked]

end Connection

/-! What a reader can still get. -/

/-- What waits in a queue, and what is parked behind it as long as somebody reads. -/
def Channel.coming {Item : Type} (parked : List Item) : Option (Channel Item) → List Item
  | none => parked
  | some channel => if channel.receiving then channel.items ++ parked else channel.items

namespace Channel

variable {Item : Type} {channel : Channel Item}

theorem coming_nil (queue : Option (Channel Item)) :
    coming [] queue = (queue.map (·.items)).getD [] := by
  cases queue with
  | none => rfl
  | some channel => simp [coming]

/-- What is parked may never arrive. -/
theorem coming_nil_prefix (parked : List Item) (queue : Option (Channel Item)) :
    coming [] queue <+: coming parked queue := by
  cases queue with
  | none => exact List.nil_prefix
  | some channel =>
      simp only [coming]
      split
      · rw [List.append_nil]
        exact List.prefix_append _ _
      · exact List.prefix_rfl

theorem coming_prefix (parked : List Item) (queue : Option (Channel Item)) :
    coming parked queue <+: (queue.map (·.items)).getD [] ++ parked := by
  cases queue with
  | none => exact List.prefix_rfl
  | some channel =>
      simp only [coming, Option.map_some, Option.getD_some]
      split
      · exact List.prefix_rfl
      · exact List.prefix_append _ _

theorem coming_sent {next : Channel Item} {item : Item} (sent : channel.offer item = .sent next) :
    coming [] (some next) = coming [item] (some channel) := by
  have read : channel.receiving = true := by
    cases receiving : channel.receiving with
    | true => rfl
    | false => simp [offer, receiving] at sent
  rw [coming_nil, coming, if_pos read, Option.map_some, Option.getD_some, offer_sent_items sent]

theorem coming_taken {rest : Channel Item} {item : Item} (parked : List Item)
    (taken : channel.take? = some (item, rest)) :
    item :: coming parked (some rest) = coming parked (some channel) := by
  simp only [coming, take_receiving taken, take_items taken]
  split
  · rfl
  · rfl

theorem coming_dropped (parked : List Item) : coming parked (some channel.drop) = [] := rfl

end Channel

namespace Dispatcher

/-- What a move asks of the surroundings. -/
def asks (now : Nat) (draw : Float) (dispatcher : Dispatcher) : Move → List Connection.Output
  | .signal signal => (dispatcher.signal now draw signal).2
  | _ => []

def chatsComing (queue : Nat) (dispatcher : Dispatcher) : List ChatEvent :=
  Channel.coming (dispatcher.chatsParked queue) (dispatcher.chat? queue)

def changesComing (dispatcher : Dispatcher) : List Change :=
  Channel.coming dispatcher.changesParked dispatcher.changes

variable {now : Nat} {draw : Float} {start before after final dispatcher : Dispatcher}
  {move : Move} {history : List Happening} {queue : Nat}

/-- Nothing but an order can come to a dormant connection, and one other than to connect leaves it
so. -/
theorem signal_dormant {signal : Connection.Signal} (dormant : dispatcher.connection.Dormant)
    (alive : dispatcher.connection.destroyed = false) (admitted : dispatcher.Admits now signal)
    (other : signal ≠ .connect) :
    (dispatcher.connection.step dispatcher.settings now draw signal).1.Dormant ∧
      (dispatcher.connection.step dispatcher.settings now draw signal).2 = [] := by
  cases signal with
  | connect => exact absurd rfl other
  | disconnect => exact ⟨Connection.disconnect_dormant _, rfl⟩
  | destroy => exact ⟨Connection.destroy_dormant alive, rfl⟩
  | setVisibility visibility =>
      cases visibility with
      | hidden => exact ⟨Connection.set_hidden_dormant _ _ dormant, rfl⟩
      | visible => exact Connection.set_visible_dormant dispatcher.settings now alive dormant
  | opened =>
      have opening : dispatcher.connection.link = some .opening := admitted
      rw [dormant.link] at opening
      cases opening
  | failed error => exact absurd dormant.link admitted.1
  | reconnectDue =>
      obtain ⟨due, _, armed⟩ := admitted
      rw [dormant.reconnect] at armed
      cases armed
  | inactivityDue =>
      obtain ⟨due, _, armed⟩ := admitted
      rw [dormant.inactivity] at armed
      cases armed

/-- A move that is not an order to connect leaves a connection dormant, and asks for nothing. -/
theorem step_dormant (step : Step now draw before move after) (dormant : before.connection.Dormant)
    (other : move ≠ .signal .connect) :
    after.connection.Dormant ∧ before.asks now draw move = [] ∧ move.payload? = none := by
  have unread : move.payload? = none := by
    cases step with
    | payload text alive live =>
        rw [dormant.link] at live
        cases live
    | _ => rfl
  rcases step_cases step with ⟨signal, rfl, alive, admitted, rfl⟩ | ⟨still, counters, same⟩
  · have different : signal ≠ .connect := by
      rintro rfl
      exact other rfl
    obtain ⟨dormantAfter, quiet⟩ :=
      @signal_dormant now draw before signal dormant alive admitted different
    obtain ⟨counters, same⟩ := after_signal_connection now draw signal before
    rw [same]
    exact ⟨Connection.dormant_counters dormantAfter counters, quiet, unread⟩
  · have quiet : before.asks now draw move = [] := by
      cases move with
      | signal signal => exact absurd rfl (still signal)
      | _ => rfl
    rw [same]
    exact ⟨Connection.dormant_counters dormant counters, quiet, unread⟩

/-! What is parked may still go to its queue; nothing else does. -/

/-- A signal leaves what is parked in place, or ends everything. -/
theorem after_signal_parked (now : Nat) (draw : Float) (signal : Connection.Signal)
    (dispatcher : Dispatcher) :
    ∃ notices connection parked, (parked = none ∨ parked = dispatcher.parked) ∧
      dispatcher.afterSignal now draw signal =
        { dispatcher with notices, connection, parked } := by
  obtain ⟨notices, lost, same⟩ := signal_frame now draw signal dispatcher
  simp only [afterSignal, same]
  split
  · exact ⟨notices, _, none, .inl rfl, rfl⟩
  · exact ⟨notices, _, dispatcher.parked, .inr rfl, rfl⟩

theorem deliver_chat_coming (place : Nat) (event : ChatEvent)
    (free : dispatcher.parked = none) :
    (dispatcher.deliverChat place event).chatsComing queue <+:
        Channel.coming (Parked.chat? queue (.chat place event)).toList (dispatcher.chat? queue) ∧
      (dispatcher.deliverChat place event).changesComing = dispatcher.changesComing := by
  have unparked : dispatcher.chatsComing queue <+:
      Channel.coming (Parked.chat? queue (.chat place event)).toList (dispatcher.chat? queue) := by
    rw [chatsComing, chatsParked, free]
    exact Channel.coming_nil_prefix _ _
  unfold deliverChat
  split
  · exact ⟨unparked, rfl⟩
  · next channel found =>
    split
    · next next sent =>
      refine ⟨?_, rfl⟩
      rw [chatsComing, chatsParked, set_chat_parked, free]
      by_cases same : place = queue
      · subst same
        rw [set_chat_self next found, found, Parked.chat?, if_pos rfl]
        exact (Channel.coming_sent sent).symm ▸ List.prefix_rfl
      · rw [set_chat_other same next, Parked.chat?, if_neg same]
        exact List.prefix_rfl
    · refine ⟨List.prefix_rfl, ?_⟩
      rw [changesComing, changesComing, changesParked, changesParked, free]
      rfl
    · exact ⟨unparked, rfl⟩

theorem deliver_change_coming (change : Change) (free : dispatcher.parked = none) :
    (dispatcher.deliverChange change).chatsComing queue = dispatcher.chatsComing queue ∧
      (dispatcher.deliverChange change).changesComing <+:
        Channel.coming [change] dispatcher.changes := by
  have unparked : dispatcher.changesComing <+: Channel.coming [change] dispatcher.changes := by
    rw [changesComing, changesParked, free]
    exact Channel.coming_nil_prefix _ _
  unfold deliverChange
  split
  · exact ⟨rfl, unparked⟩
  · next channel found =>
    split
    · next next sent =>
      refine ⟨rfl, ?_⟩
      rw [changesComing, changesParked, free, found]
      exact (Channel.coming_sent sent).symm ▸ List.prefix_rfl
    · refine ⟨?_, List.prefix_rfl⟩
      rw [chatsComing, chatsComing, chatsParked, chatsParked, free]
      rfl
    · exact ⟨rfl, unparked⟩

theorem unpark_coming (dispatcher : Dispatcher) :
    dispatcher.unpark.chatsComing queue <+: dispatcher.chatsComing queue ∧
      dispatcher.unpark.changesComing <+: dispatcher.changesComing := by
  unfold unpark
  split
  · split
    · next none =>
      rw [chatsComing, chatsComing, chatsParked, chatsParked, changesComing, changesComing,
        changesParked, changesParked, none]
      exact ⟨List.prefix_rfl, List.prefix_rfl⟩
    · next place event parked =>
      obtain ⟨chats, changes⟩ :=
        @deliver_chat_coming { dispatcher with parked := none } queue place event rfl
      refine ⟨chats.trans ?_, changes ▸ ?_⟩
      · rw [chatsComing, chatsParked, parked]
        exact List.prefix_rfl
      · rw [changesComing, changesComing, changesParked, changesParked, parked]
        exact List.prefix_rfl
    · next change parked =>
      obtain ⟨chats, changes⟩ :=
        @deliver_change_coming { dispatcher with parked := none } queue change rfl
      refine ⟨chats ▸ ?_, changes.trans ?_⟩
      · rw [chatsComing, chatsComing, chatsParked, chatsParked, parked]
        exact List.prefix_rfl
      · rw [changesComing, changesParked, parked]
        exact List.prefix_rfl
  · exact ⟨List.prefix_rfl, List.prefix_rfl⟩

/-- Where nothing is read, what a reader takes and what is still to come was to come before. -/
theorem step_coming (step : Step now draw before move after) (unread : move.payload? = none) :
    (move.takenChat? queue).toList ++ after.chatsComing queue <+: before.chatsComing queue ∧
      move.takenChange?.toList ++ after.changesComing <+: before.changesComing := by
  cases step with
  | signal signal =>
      obtain ⟨notices, connection, parked, either, same⟩ :=
        after_signal_parked now draw signal before
      rw [same]
      rcases either with rfl | rfl
      · exact ⟨Channel.coming_nil_prefix _ _, Channel.coming_nil_prefix _ _⟩
      · exact ⟨List.prefix_rfl, List.prefix_rfl⟩
  | payload text => cases unread
  | unpark => exact unpark_coming before
  | @takeChat place event channel rest found taken =>
      refine ⟨?_, List.prefix_rfl⟩
      rw [chatsComing, chatsComing, chatsParked, chatsParked, set_chat_parked]
      by_cases same : place = queue
      · subst same
        rw [Move.takenChat?, if_pos rfl, set_chat_self rest found, found, Option.toList_some,
          List.singleton_append, Channel.coming_taken _ taken]
      · rw [Move.takenChat?, if_neg same, set_chat_other same rest]
        exact List.prefix_rfl
  | @takeChange change channel rest found taken =>
      refine ⟨List.prefix_rfl, ?_⟩
      rw [changesComing, changesComing, found, ← Channel.coming_taken _ taken]
      exact List.prefix_rfl
  | addChat capacity =>
      refine ⟨?_, List.prefix_rfl⟩
      have kept : (before.addChat capacity).1.chatsParked queue = before.chatsParked queue := rfl
      rw [chatsComing, chatsComing, kept]
      -- The queue was there before, is the new one and empty, or is not there yet.
      rcases Nat.lt_trichotomy queue before.chats.length with earlier | same | later
      · rw [show (before.addChat capacity).1.chat? queue = before.chat? queue from
          List.getElem?_append_left earlier]
        exact List.prefix_rfl
      · have absent : before.chat? queue = none := List.getElem?_eq_none (by omega)
        have added : (before.addChat capacity).1.chat? queue = some (.new capacity) := by
          simp [addChat, chat?, same]
        rw [absent, added]
        exact List.prefix_rfl
      · have absent : before.chat? queue = none := List.getElem?_eq_none (by omega)
        have missing : (before.addChat capacity).1.chat? queue = none :=
          List.getElem?_eq_none (by simp [addChat]; omega)
        rw [absent, missing]
        exact List.prefix_rfl
  | @dropChat place dropped found =>
      refine ⟨?_, List.prefix_rfl⟩
      rw [chatsComing, chatsComing, chatsParked, chatsParked, set_chat_parked]
      by_cases same : place = queue
      · subst same
        rw [set_chat_self dropped.drop found, Channel.coming_dropped]
        exact List.nil_prefix
      · rw [set_chat_other same dropped.drop]
        exact List.prefix_rfl
  | dropChanges =>
      refine ⟨List.prefix_rfl, ?_⟩
      rw [changesComing, changesComing]
      cases before.changes with
      | none => exact List.prefix_rfl
      | some channel => exact List.nil_prefix
  | _ => exact ⟨List.prefix_rfl, List.prefix_rfl⟩

/-- What was to come at first is taken bit by bit, or lost. -/
theorem run_coming (run : Run start history final) (unread : payloadsRead history = []) :
    chatsTaken queue history ++ final.chatsComing queue <+: start.chatsComing queue ∧
      changesTaken history ++ final.changesComing <+: start.changesComing := by
  induction run with
  | start => exact ⟨List.prefix_rfl, List.prefix_rfl⟩
  | @next history before after happening run step induction =>
      rw [payloadsRead, filter_map_next, List.append_eq_nil_iff, Option.toList_eq_nil_iff]
        at unread
      obtain ⟨chats, changes⟩ := induction unread.1
      obtain ⟨chat, change⟩ := @step_coming _ _ _ _ _ queue step unread.2
      constructor
      · rw [chatsTaken, filter_map_next, List.append_assoc]
        exact ((List.prefix_append_right_inj _).mpr chat).trans chats
      · rw [changesTaken, filter_map_next, List.append_assoc]
        exact ((List.prefix_append_right_inj _).mpr change).trans changes

/-- How a dispatcher stands that was dormant at the start. All that readers got or can still take
was in their queues then, up to the event that was parked. -/
structure Quiet (start : Dispatcher) (history : List Happening) (final : Dispatcher) : Prop where
  dormant : final.connection.Dormant
  unread : payloadsRead history = []
  chats : ∀ queue, chatsTaken queue history ++ final.chatsQueued queue <+:
    start.chatsQueued queue ++ start.chatsParked queue
  changes : changesTaken history ++ final.changesQueued <+:
    start.changesQueued ++ start.changesParked

/-- A dormant connection stays so as long as nobody orders it to connect. -/
theorem run_quiet (run : Run start history final) (dormant : start.connection.Dormant)
    (unconnected : ∀ happening ∈ history, happening.move ≠ .signal .connect) :
    start.Quiet history final := by
  have resting : final.connection.Dormant ∧ payloadsRead history = [] := by
    induction run with
    | start => exact ⟨dormant, rfl⟩
    | @next history before after happening run step induction =>
        obtain ⟨dormantBefore, unread⟩ :=
          induction fun other member => unconnected other (List.mem_append_left _ member)
        have other := unconnected happening (List.mem_append_right _ (List.mem_singleton_self _))
        obtain ⟨dormantAfter, _, quiet⟩ := step_dormant step dormantBefore other
        refine ⟨dormantAfter, ?_⟩
        rw [payloadsRead, filter_map_next, quiet]
        simpa [payloadsRead] using unread
  obtain ⟨dormantAfter, unread⟩ := resting
  refine ⟨dormantAfter, unread, ?_, ?_⟩
  · intro queue
    have waiting : final.chatsQueued queue <+: final.chatsComing queue := by
      rw [chatsQueued, ← Channel.coming_nil]
      exact Channel.coming_nil_prefix _ _
    have taken := (List.prefix_append_right_inj (chatsTaken queue history)).mpr waiting
    exact (taken.trans (run_coming run unread).1).trans (Channel.coming_prefix _ _)
  · have waiting : final.changesQueued <+: final.changesComing := by
      rw [changesQueued, ← Channel.coming_nil]
      exact Channel.coming_nil_prefix _ _
    have taken := (List.prefix_append_right_inj (changesTaken history)).mpr waiting
    exact (taken.trans (@run_coming _ _ _ 0 run unread).2).trans (Channel.coming_prefix _ _)

/-! A connection that was destroyed. -/

/-- It is not served any more; readers may still empty their queues. -/
theorem step_destroyed (step : Step now draw before move after)
    (destroyed : before.connection.destroyed = true) :
    after.connection = before.connection ∧ after.parked = before.parked ∧
      (∀ signal, move ≠ .signal signal) ∧ move ≠ .report := by
  have dead : before.connection.destroyed ≠ false := by simp [destroyed]
  cases step with
  | signal signal alive => exact absurd alive dead
  | report alive => exact absurd alive dead
  | payload text alive => exact absurd alive dead
  | unpark alive => exact absurd alive dead
  | _ => exact ⟨rfl, rfl, fun _ => Move.noConfusion, Move.noConfusion⟩

/-- The connection is destroyed. It is dormant then, and nothing is parked. -/
structure Gone (dispatcher : Dispatcher) : Prop where
  destroyed : dispatcher.connection.destroyed = true
  dormant : dispatcher.connection.Dormant
  free : dispatcher.parked = none

theorem destroy_gone (now : Nat) (draw : Float) (alive : dispatcher.connection.destroyed = false) :
    (dispatcher.afterSignal now draw .destroy).Gone := by
  have dormant := Connection.destroy_dormant alive
  have ended : dispatcher.connection.destroy.destroyed = true := by
    simp [Connection.destroy, alive]
  obtain ⟨notices, lost, same⟩ := signal_frame now draw .destroy dispatcher
  simp only [afterSignal, same, Connection.step, ended, if_true]
  refine ⟨rfl, ?_, rfl⟩
  exact ⟨dormant.status, dormant.link, dormant.reconnect, dormant.inactivity, dormant.unmarked⟩

theorem step_disconnect (step : Step now draw before (.signal .disconnect) after) :
    after.connection.Dormant := by
  cases step with
  | signal _ alive admitted =>
      obtain ⟨counters, same⟩ := after_signal_connection now draw .disconnect before
      rw [same]
      exact Connection.dormant_counters (Connection.disconnect_dormant before.connection) counters

theorem step_destroy (step : Step now draw before (.signal .destroy) after) : after.Gone := by
  cases step with
  | signal _ alive admitted => exact destroy_gone now draw alive

/-- Only an order to destroy it ends a connection. -/
theorem step_gone (step : Step now draw before move after)
    (gone : before.connection.destroyed = true → before.Gone)
    (destroyed : after.connection.destroyed = true) : after.Gone := by
  cases alive : before.connection.destroyed with
  | true =>
      obtain ⟨connection, parked, _⟩ := step_destroyed step alive
      obtain ⟨_, dormant, free⟩ := gone alive
      exact ⟨destroyed, connection ▸ dormant, parked.trans free⟩
  | false =>
      rcases step_cases step with ⟨signal, rfl, _, _, rfl⟩ | ⟨_, counters, same⟩
      · by_cases order : signal = .destroy
        · subst order
          exact destroy_gone now draw alive
        · obtain ⟨counters, same⟩ := after_signal_connection now draw signal before
          have kept :=
            (Connection.step_keeps before.settings now draw before.connection signal).1 order
          rw [same] at destroyed
          rw [kept, alive] at destroyed
          cases destroyed
      · rw [same, alive] at destroyed
        cases destroyed

theorem run_gone {settings : Settings} {chat changes notices : Option Nat}
    (run : Run (.new settings chat changes notices) history final)
    (destroyed : final.connection.destroyed = true) : final.Gone := by
  induction run with
  | start => cases destroyed
  | next run step induction => exact step_gone step induction destroyed

/-- Once destroyed, a connection gets no order any more. -/
theorem run_unordered (run : Run start history final) (gone : start.Gone) :
    final.Gone ∧ ∀ happening ∈ history, ∀ signal, happening.move ≠ .signal signal := by
  induction run with
  | start => exact ⟨gone, nofun⟩
  | next run step induction =>
      obtain ⟨goneBefore, earlier⟩ := induction
      obtain ⟨connection, _, unsignalled, _⟩ := step_destroyed step goneBefore.destroyed
      refine ⟨step_gone step (fun _ => goneBefore) (connection ▸ goneBefore.destroyed), ?_⟩
      intro other member
      rcases List.mem_append.mp member with old | new
      · exact earlier other old
      · rw [List.mem_singleton.mp new]
        exact unsignalled

end Dispatcher

end LiveChat.Stream
