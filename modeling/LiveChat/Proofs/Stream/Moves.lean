import LiveChat.Proofs.Stream.Operations
import LiveChat.Stream.Dispatcher

/-!
Everything that can happen to a dispatcher, one thing at a time: orders of its owner, what is
heard on the link, alarms, readers that take from the queues or go away, and another handler for
chat events. Which of several possible things happens next is left open, so a statement about
all runs holds under every order of turns. A run keeps what happened, hence also what was read
from the link and what readers took.
-/

set_option autoImplicit false

namespace LiveChat.Stream

inductive Move where
  /-- An order, an opened or failed link, or an alarm. -/
  | signal (signal : Connection.Signal)
  /-- The connection reports itself. -/
  | report
  /-- A payload is read from the live link. -/
  | payload (text : String)
  /-- The parked event goes where it belongs. -/
  | unpark
  | takeChat (queue : Nat) (event : ChatEvent)
  | takeChange (change : Change)
  | takeNotice (notice : Notice)
  | addChat (capacity : Nat)
  | setHandler (handler : Option Nat)
  | dropChat (queue : Nat)
  | dropChanges
  | dropNotices

/-- A move with the time of the clock and the draw that would scale a delay. -/
structure Happening where
  now : Nat
  draw : Float
  move : Move

namespace Dispatcher

/-- The dispatcher after a signal. A destroyed connection is not served any more, and an event
that was parked goes with it. -/
def afterSignal (now : Nat) (draw : Float) (signal : Connection.Signal)
    (dispatcher : Dispatcher) : Dispatcher :=
  let next := (dispatcher.signal now draw signal).1
  if next.connection.destroyed then { next with parked := none } else next

/-- When a signal can come. Orders come at any time. The rest comes from a link that is listened
to, or from an alarm that is due. -/
def Admits (now : Nat) (dispatcher : Dispatcher) : Connection.Signal → Prop
  | .opened => dispatcher.connection.link = some .opening
  | .failed _ => dispatcher.connection.link ≠ none ∧ dispatcher.listening
  | .reconnectDue => ∃ due ≤ now, dispatcher.connection.reconnectAt = some due
  | .inactivityDue => ∃ due ≤ now, dispatcher.connection.inactivityAt = some due
  | .connect => True
  | .disconnect => True
  | .destroy => True
  | .setVisibility _ => True

/-- One move. Nothing serves a connection that was destroyed, but its queues can still be read. -/
inductive Step (now : Nat) (draw : Float) : Dispatcher → Move → Dispatcher → Prop where
  | signal {dispatcher : Dispatcher} (signal : Connection.Signal)
      (alive : dispatcher.connection.destroyed = false) (admitted : dispatcher.Admits now signal) :
      Step now draw dispatcher (.signal signal) (dispatcher.afterSignal now draw signal)
  | report {dispatcher : Dispatcher} (alive : dispatcher.connection.destroyed = false) :
      Step now draw dispatcher .report dispatcher
  | payload {dispatcher : Dispatcher} (text : String)
      (alive : dispatcher.connection.destroyed = false)
      (live : dispatcher.connection.link = some .live) (listening : dispatcher.listening) :
      Step now draw dispatcher (.payload text) (dispatcher.receive text)
  | unpark {dispatcher : Dispatcher} (alive : dispatcher.connection.destroyed = false)
      (ready : dispatcher.parkedReady) :
      Step now draw dispatcher .unpark dispatcher.unpark
  | takeChat {dispatcher : Dispatcher} {queue : Nat} {event : ChatEvent}
      {channel rest : Channel ChatEvent} (found : dispatcher.chat? queue = some channel)
      (taken : channel.take? = some (event, rest)) :
      Step now draw dispatcher (.takeChat queue event) (dispatcher.setChat queue rest)
  | takeChange {dispatcher : Dispatcher} {change : Change} {channel rest : Channel Change}
      (found : dispatcher.changes = some channel) (taken : channel.take? = some (change, rest)) :
      Step now draw dispatcher (.takeChange change) { dispatcher with changes := some rest }
  | takeNotice {dispatcher : Dispatcher} {notice : Notice} {channel rest : Channel Notice}
      (found : dispatcher.notices = some channel) (taken : channel.take? = some (notice, rest)) :
      Step now draw dispatcher (.takeNotice notice) { dispatcher with notices := some rest }
  | addChat {dispatcher : Dispatcher} (capacity : Nat) :
      Step now draw dispatcher (.addChat capacity) (dispatcher.addChat capacity).1
  | setHandler {dispatcher : Dispatcher} (handler : Option Nat) :
      Step now draw dispatcher (.setHandler handler) (dispatcher.setHandler handler)
  | dropChat {dispatcher : Dispatcher} {queue : Nat} {channel : Channel ChatEvent}
      (found : dispatcher.chat? queue = some channel) :
      Step now draw dispatcher (.dropChat queue) (dispatcher.setChat queue channel.drop)
  | dropChanges {dispatcher : Dispatcher} :
      Step now draw dispatcher .dropChanges
        { dispatcher with changes := dispatcher.changes.map Channel.drop }
  | dropNotices {dispatcher : Dispatcher} :
      Step now draw dispatcher .dropNotices
        { dispatcher with notices := dispatcher.notices.map Channel.drop }

/-- Any number of moves, with all that happened, oldest first. -/
inductive Run (start : Dispatcher) : List Happening → Dispatcher → Prop where
  | start : Run start [] start
  | next {history : List Happening} {before after : Dispatcher} {happening : Happening}
      (run : Run start history before)
      (step : Step happening.now happening.draw before happening.move after) :
      Run start (history ++ [happening]) after

theorem Run.append {start middle final : Dispatcher} {earlier later : List Happening}
    (first : Run start earlier middle) (second : Run middle later final) :
    Run start (earlier ++ later) final := by
  induction second with
  | start => rwa [List.append_nil]
  | next _ step induction =>
      rw [← List.append_assoc]
      exact .next induction step

/-! What a move leaves alone. -/

theorem perform_frame (outputs : List Connection.Output) (dispatcher : Dispatcher) :
    ∃ notices lost, dispatcher.perform outputs =
      { dispatcher with
        notices
        connection :=
          { dispatcher.connection with
            counters := { dispatcher.connection.counters with noticesDropped := lost } } } := by
  induction outputs generalizing dispatcher with
  | nil => exact ⟨_, _, rfl⟩
  | cons output rest induction =>
      cases output with
      | openLink => exact induction dispatcher
      | notify notice =>
          obtain ⟨notices, lost, same⟩ := induction (dispatcher.notify notice)
          rw [perform, same]
          unfold notify
          split
          · exact ⟨_, _, rfl⟩
          · split <;> exact ⟨_, _, rfl⟩

/-- A signal changes the connection as its own step does, except that a notice may be lost, and
else only the queue of notices. -/
theorem signal_frame (now : Nat) (draw : Float) (signal : Connection.Signal)
    (dispatcher : Dispatcher) :
    ∃ notices lost, (dispatcher.signal now draw signal).1 =
      let next := (dispatcher.connection.step dispatcher.settings now draw signal).1
      { dispatcher with
        notices
        connection :=
          { next with counters := { next.counters with noticesDropped := lost } } } := by
  obtain ⟨notices, lost, same⟩ := perform_frame
    (dispatcher.connection.step dispatcher.settings now draw signal).2
    { dispatcher with
      connection := (dispatcher.connection.step dispatcher.settings now draw signal).1 }
  exact ⟨notices, lost, same⟩

/-- The parked event apart, this is what `signal_frame` says of the dispatcher that is served. -/
theorem after_signal_frame (now : Nat) (draw : Float) (signal : Connection.Signal)
    (dispatcher : Dispatcher) :
    ∃ notices lost parked, dispatcher.afterSignal now draw signal =
      let next := (dispatcher.connection.step dispatcher.settings now draw signal).1
      { dispatcher with
        notices, parked
        connection :=
          { next with counters := { next.counters with noticesDropped := lost } } } := by
  obtain ⟨notices, lost, same⟩ := signal_frame now draw signal dispatcher
  simp only [afterSignal, same]
  split
  · exact ⟨notices, lost, none, rfl⟩
  · exact ⟨notices, lost, dispatcher.parked, rfl⟩

/-- As long as the connection is not destroyed, what is parked stays where it is. -/
theorem after_signal_lasting (now : Nat) (draw : Float) (signal : Connection.Signal)
    (dispatcher : Dispatcher) (alive : dispatcher.connection.destroyed = false)
    (lasting : signal ≠ .destroy) :
    ∃ notices connection, dispatcher.afterSignal now draw signal =
      { dispatcher with notices, connection } := by
  obtain ⟨notices, lost, same⟩ := signal_frame now draw signal dispatcher
  have living :=
    (Connection.step_keeps dispatcher.settings now draw dispatcher.connection signal).1 lasting
  simp only [afterSignal, same, living, alive, Bool.false_eq_true, if_false]
  exact ⟨notices, _, rfl⟩

theorem deliver_chat_frame (queue : Nat) (event : ChatEvent) (dispatcher : Dispatcher) :
    ∃ chats parked, dispatcher.deliverChat queue event = { dispatcher with chats, parked } := by
  unfold deliverChat
  split
  · exact ⟨_, _, rfl⟩
  · split <;> exact ⟨_, _, rfl⟩

theorem deliver_change_frame (change : Change) (dispatcher : Dispatcher) :
    ∃ changes parked,
      dispatcher.deliverChange change = { dispatcher with changes, parked } := by
  unfold deliverChange
  split
  · exact ⟨_, _, rfl⟩
  · split <;> exact ⟨_, _, rfl⟩

theorem deliver_frame (route : Route) (dispatcher : Dispatcher) :
    ∃ chats changes parked,
      dispatcher.deliver route = { dispatcher with chats, changes, parked } := by
  cases route with
  | chat event =>
      simp only [deliver]
      split
      · exact ⟨_, _, _, rfl⟩
      · next queue _ =>
        obtain ⟨chats, parked, same⟩ := deliver_chat_frame queue event dispatcher
        exact ⟨chats, _, parked, same⟩
  | change change =>
      obtain ⟨changes, parked, same⟩ := deliver_change_frame change dispatcher
      exact ⟨_, changes, parked, same⟩
  | keepalive => exact ⟨_, _, _, rfl⟩

/-- A payload that is not an event is counted, and nothing else happens. -/
theorem receive_rejected {dispatcher : Dispatcher} {payload : String} {rejection : Rejection}
    (rejected : Event.parse dispatcher.settings.payloadLimit payload = .error rejection) :
    dispatcher.receive payload =
      { dispatcher with
        connection :=
          { dispatcher.connection with
            counters := dispatcher.connection.counters.payload.reject rejection } } := by
  simp only [receive, Connection.read, rejected]

theorem receive_accepted {dispatcher : Dispatcher} {payload : String} {event : Event}
    (accepted : Event.parse dispatcher.settings.payloadLimit payload = .ok event) :
    dispatcher.receive payload =
      { dispatcher with
        connection :=
          { dispatcher.connection with
            counters := dispatcher.connection.counters.payload.dispatch } }.deliver event.route := by
  simp only [receive, Connection.read, accepted]

theorem receive_frame (payload : String) (dispatcher : Dispatcher) :
    ∃ chats changes parked counters, dispatcher.receive payload =
      { dispatcher with
        chats, changes, parked, connection := { dispatcher.connection with counters } } := by
  cases parsed : Event.parse dispatcher.settings.payloadLimit payload with
  | error rejection => exact ⟨_, _, _, _, receive_rejected parsed⟩
  | ok event =>
      rw [receive_accepted parsed]
      obtain ⟨chats, changes, parked, same⟩ := deliver_frame event.route
        { dispatcher with
          connection :=
            { dispatcher.connection with counters := dispatcher.connection.counters.payload.dispatch } }
      exact ⟨chats, changes, parked, _, same⟩

theorem unpark_frame (dispatcher : Dispatcher) :
    ∃ chats changes parked, dispatcher.unpark = { dispatcher with chats, changes, parked } := by
  unfold unpark
  split
  · split
    · exact ⟨_, _, _, rfl⟩
    · next queue event _ =>
      obtain ⟨chats, parked, same⟩ :=
        deliver_chat_frame queue event { dispatcher with parked := none }
      exact ⟨chats, _, parked, same⟩
    · next change _ =>
      obtain ⟨changes, parked, same⟩ :=
        deliver_change_frame change { dispatcher with parked := none }
      exact ⟨_, changes, parked, same⟩
  · exact ⟨_, _, _, rfl⟩

variable {now : Nat} {draw : Float} {before after : Dispatcher} {move : Move}

/-- A signal takes its course, and any other move leaves the connection but for its counters. -/
theorem step_cases (step : Step now draw before move after) :
    (∃ signal, move = .signal signal ∧ before.connection.destroyed = false ∧
        before.Admits now signal ∧ after = before.afterSignal now draw signal) ∨
      (∀ signal, move ≠ .signal signal) ∧
        ∃ counters, after.connection = { before.connection with counters } := by
  cases step with
  | signal signal alive admitted => exact .inl ⟨signal, rfl, alive, admitted, rfl⟩
  | payload text =>
      obtain ⟨chats, changes, parked, counters, same⟩ := receive_frame text before
      exact .inr ⟨fun _ => Move.noConfusion, counters, by rw [same]⟩
  | unpark =>
      obtain ⟨chats, changes, parked, same⟩ := unpark_frame before
      exact .inr ⟨fun _ => Move.noConfusion, before.connection.counters, by rw [same]⟩
  | _ => exact .inr ⟨fun _ => Move.noConfusion, before.connection.counters, rfl⟩

theorem after_signal_connection (now : Nat) (draw : Float) (signal : Connection.Signal)
    (dispatcher : Dispatcher) :
    ∃ counters, (dispatcher.afterSignal now draw signal).connection =
      { (dispatcher.connection.step dispatcher.settings now draw signal).1 with counters } := by
  obtain ⟨notices, lost, parked, same⟩ := after_signal_frame now draw signal dispatcher
  exact ⟨_, by rw [same]⟩

/-- Of all moves only a signal changes the connection beyond its counters. -/
theorem step_connection (step : Step now draw before move after) :
    ∃ counters, after.connection = { before.connection with counters } ∨
      ∃ signal, move = .signal signal ∧ before.connection.destroyed = false ∧
        before.Admits now signal ∧
        after.connection =
          { (before.connection.step before.settings now draw signal).1 with counters } := by
  rcases step_cases step with ⟨signal, rfl, alive, admitted, rfl⟩ | ⟨_, counters, same⟩
  · obtain ⟨counters, same⟩ := after_signal_connection now draw signal before
    exact ⟨counters, .inr ⟨signal, rfl, alive, admitted, same⟩⟩
  · exact ⟨counters, .inl same⟩

theorem step_settings (step : Step now draw before move after) :
    after.settings = before.settings := by
  cases step with
  | signal signal =>
      obtain ⟨notices, lost, parked, same⟩ := after_signal_frame now draw signal before
      rw [same]
  | payload text =>
      obtain ⟨chats, changes, parked, counters, same⟩ := receive_frame text before
      rw [same]
  | unpark =>
      obtain ⟨chats, changes, parked, same⟩ := unpark_frame before
      rw [same]
  | _ => rfl

theorem run_settings {start final : Dispatcher} {history : List Happening}
    (run : Run start history final) : final.settings = start.settings := by
  induction run with
  | start => rfl
  | next _ step induction => exact (step_settings step).trans induction

/-- What relates a connection to the moves before it holds along a run if signals keep it, other
moves make no difference to it and it does not look at the counters. -/
theorem run_relates {start final : Dispatcher} {history : List Happening}
    (holds : List Move → Connection → Prop) (begun : holds [] start.connection)
    (counted : ∀ moves connection counters, holds moves connection →
      holds moves { connection with counters })
    (signalled : ∀ past before now draw signal, Run start past before →
      before.connection.destroyed = false → before.Admits now signal →
      holds (past.map (·.move)) before.connection →
      holds (past.map (·.move) ++ [.signal signal])
        (before.connection.step before.settings now draw signal).1)
    (unsignalled : ∀ moves move connection, (∀ signal, move ≠ .signal signal) →
      holds moves connection → holds (moves ++ [move]) connection)
    (run : Run start history final) : holds (history.map (·.move)) final.connection := by
  induction run with
  | start => exact begun
  | next run step induction =>
      rw [List.map_append, List.map_singleton]
      rcases step_cases step with ⟨signal, same, alive, admitted, rfl⟩ | ⟨still, counters, same⟩
      · obtain ⟨counters, after⟩ := after_signal_connection _ _ signal _
        rw [same, after]
        exact counted _ _ counters (signalled _ _ _ _ signal run alive admitted induction)
      · rw [same]
        exact counted _ _ counters (unsignalled _ _ _ still induction)

end Dispatcher

end LiveChat.Stream
