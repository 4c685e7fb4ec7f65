import LiveChat.Proofs.Stream.Moves
import LiveChat.Proofs.Stream.Operations
import Mathlib.Logic.Basic

/-!
The status, the link, the two alarms and the flags of a connection are set one by one. In every
state of a run they agree all the same, for every policy and every time that a hidden connection
is kept. Each operation is shown to keep the agreement by itself.
-/

set_option autoImplicit false

namespace LiveChat.Stream

namespace Connection

/-- What the fields of a connection say about each other. -/
structure Consistent (connection : Connection) : Prop where
  waiting : connection.reconnectAt.isSome →
    connection.status = .reconnecting ∧ connection.link = none
  recovering : connection.status = .reconnecting →
    connection.reconnecting ∧
      Xor connection.reconnectAt.isSome (connection.link = some .opening)
  live : connection.link = some .live → connection.status = .connected
  connected : connection.status = .connected →
    connection.link.isSome ∧ connection.attempt = 0 ∧ connection.reconnecting = false ∧
      connection.closedByInactivity = false
  idle : connection.inactivityAt.isSome ↔
    connection.status = .connected ∧ connection.visibility = .hidden
  apart : ¬(connection.reconnectAt.isSome ∧ connection.inactivityAt.isSome)

variable {connection : Connection}

theorem initial_consistent : initial.Consistent := by
  constructor <;> simp [initial]

/-- The agreement does not depend on what is only counted. -/
theorem consistent_counters (consistent : connection.Consistent) (counters : Counters) :
    { connection with counters }.Consistent :=
  ⟨consistent.waiting, consistent.recovering, consistent.live, consistent.connected,
    consistent.idle, consistent.apart⟩

theorem calm_of_connected (consistent : connection.Consistent)
    (up : connection.status = .connected) : connection.reconnectAt = none := by
  cases alarm : connection.reconnectAt with
  | none => rfl
  | some due =>
      have waiting := (consistent.waiting (by simp [alarm])).1
      rw [up] at waiting
      cases waiting

theorem calm_of_linked (consistent : connection.Consistent)
    (linked : connection.link ≠ none) : connection.reconnectAt = none := by
  cases alarm : connection.reconnectAt with
  | none => rfl
  | some due => exact absurd (consistent.waiting (by simp [alarm])).2 linked

theorem connect_consistent (alive : connection.destroyed = false)
    (consistent : connection.Consistent) : connection.connect.1.Consistent := by
  rw [connect_frame _ alive]
  refine ⟨by simp, ?_, by simp, ?_, consistent.idle, by simp⟩
  · intro reconnecting
    exact ⟨(consistent.recovering reconnecting).1, by simp [Xor]⟩
  · intro up
    exact ⟨rfl, (consistent.connected up).2⟩

theorem disconnect_consistent (connection : Connection) : connection.disconnect.Consistent := by
  obtain ⟨changes, same⟩ := disconnect_frame connection
  rw [same]
  constructor <;> simp

theorem destroy_consistent (consistent : connection.Consistent) :
    connection.destroy.Consistent := by
  unfold destroy
  split
  · exact consistent
  · have down := disconnect_consistent connection
    exact ⟨down.waiting, down.recovering, down.live, down.connected, down.idle, down.apart⟩

theorem set_hidden_consistent (settings : Settings) (now : Nat)
    (consistent : connection.Consistent) :
    (connection.setVisibility settings now .hidden).1.Consistent := by
  rw [set_hidden_frame]
  by_cases up : connection.status = .connected
  · have calm := calm_of_connected consistent up
    simp only [if_pos up]
    exact ⟨consistent.waiting, consistent.recovering, consistent.live, consistent.connected,
      by simp [up], by simp [calm]⟩
  · have off : connection.inactivityAt.isSome = false := by
      simpa [up] using consistent.idle
    simp only [if_neg up]
    exact ⟨consistent.waiting, consistent.recovering, consistent.live, consistent.connected,
      by simp [up, off], by simp [off]⟩

/-- A connection that is resumed was down, so its status is no claim about the new link. -/
theorem set_visible_consistent (settings : Settings) (now : Nat)
    (alive : connection.destroyed = false) (consistent : connection.Consistent) :
    (connection.setVisibility settings now .visible).1.Consistent := by
  rw [set_visible_frame _ _ _ alive]
  split
  · next closed =>
    have down : connection.status ≠ .connected := by
      intro up
      simp [(consistent.connected up).2.2.2] at closed
    exact ⟨by simp, by simp [Xor], by simp, fun up => absurd up down, by simp, by simp⟩
  · exact ⟨consistent.waiting, consistent.recovering, consistent.live, consistent.connected,
      by simp, by simp⟩

theorem opened_consistent (settings : Settings) (now : Nat)
    (opening : connection.link = some .opening) (consistent : connection.Consistent) :
    (connection.opened settings now).1.Consistent := by
  have calm := calm_of_linked consistent (by simp [opening])
  obtain ⟨changes, same⟩ := opened_frame settings now connection
  rw [same]
  refine ⟨by simp [calm], by simp, by simp, by simp, ?_, by simp [calm]⟩
  by_cases hidden : connection.visibility = .hidden
  · simp [hidden]
  · have off : connection.inactivityAt.isSome = false := by
      simpa [hidden] using consistent.idle
    simp [hidden, off]

/-- Whatever a failure leads to, it leaves no link and no alarm for a hidden connection. -/
theorem failed_consistent (settings : Settings) (now : Nat) (draw : Float) (error : StreamError)
    (linked : connection.link ≠ none) (consistent : connection.Consistent) :
    (connection.failed settings now draw error).1.Consistent := by
  have calm := calm_of_linked consistent linked
  obtain ⟨changes, ⟨_, same⟩ | ⟨_, _, same⟩ | ⟨_, _, same⟩⟩ :=
    failed_cases settings now draw connection error
  · rw [same]
    constructor <;> simp
  · rw [same]
    constructor <;> simp
  · rw [same]
    constructor <;> simp [Xor]

theorem idle_close_consistent (consistent : connection.Consistent) :
    connection.idleClose.Consistent := by
  obtain ⟨changes, same⟩ := idle_close_frame connection
  rw [same]
  split
  · next hidden =>
    have calm := calm_of_connected consistent hidden.1
    constructor <;> simp [calm]
  · next shown =>
    exact ⟨consistent.waiting, consistent.recovering, consistent.live, consistent.connected,
      by simpa using shown, by simp⟩

end Connection

namespace Dispatcher

open Connection

/-- A signal is only admitted where the agreement says enough for the next state to agree. -/
theorem admitted_consistent {now : Nat} {dispatcher : Dispatcher} (draw : Float)
    (signal : Signal) (alive : dispatcher.connection.destroyed = false)
    (admitted : dispatcher.Admits now signal) (consistent : dispatcher.connection.Consistent) :
    (dispatcher.connection.step dispatcher.settings now draw signal).1.Consistent := by
  cases signal with
  | connect => exact connect_consistent alive consistent
  | disconnect => exact disconnect_consistent _
  | destroy => exact destroy_consistent consistent
  | setVisibility visibility =>
      cases visibility with
      | hidden => exact set_hidden_consistent dispatcher.settings now consistent
      | visible => exact set_visible_consistent dispatcher.settings now alive consistent
  | opened => exact opened_consistent _ _ admitted consistent
  | failed error => exact failed_consistent _ _ _ error admitted.1 consistent
  | reconnectDue =>
      rw [reconnect_due_frame _ _ _ _ alive]
      exact connect_consistent alive consistent
  | inactivityDue => exact idle_close_consistent consistent

theorem step_consistent {now : Nat} {draw : Float} {before after : Dispatcher} {move : Move}
    (step : Step now draw before move after) (consistent : before.connection.Consistent) :
    after.connection.Consistent := by
  rcases step_connection step with ⟨counters, same | ⟨signal, _, alive, admitted, same⟩⟩
  · rw [same]
    exact consistent_counters consistent counters
  · rw [same]
    exact consistent_counters (admitted_consistent draw signal alive admitted consistent) counters

theorem run_consistent {start final : Dispatcher} {history : List Happening}
    (run : Run start history final) (consistent : start.connection.Consistent) :
    final.connection.Consistent := by
  induction run with
  | start => exact consistent
  | next _ step induction => exact step_consistent step induction

/-- The fields agree in every state that a dispatcher reaches, whatever handlers it has. -/
theorem reached_connection_consistent (settings : Settings) (chat changes notices : Option Nat)
    {history : List Happening} {final : Dispatcher}
    (run : Run (.new settings chat changes notices) history final) :
    final.connection.Consistent :=
  run_consistent run initial_consistent

/-- A live link that is replaced while hidden keeps its status and its alarm. -/
theorem replaced_hidden_link_consistent :
    ∃ history final, Run (.new .standard none none none) history final ∧
      final.connection.link = some .opening ∧ final.connection.inactivityAt.isSome ∧
      final.connection.Consistent := by
  have connecting : Run (.new .standard none none none) ([] ++ [⟨0, 0, .signal .connect⟩]) _ :=
    .next .start (.signal .connect rfl trivial)
  have opened := @Run.next _ _ _ _ ⟨1, 0, .signal .opened⟩ connecting (.signal .opened rfl rfl)
  have hidden := @Run.next _ _ _ _ ⟨2, 0, .signal (.setVisibility .hidden)⟩ opened
    (.signal _ rfl trivial)
  have replaced := @Run.next _ _ _ _ ⟨3, 0, .signal .connect⟩ hidden (.signal _ rfl trivial)
  exact ⟨_, _, replaced, rfl, rfl,
    reached_connection_consistent .standard none none none replaced⟩

end Dispatcher

end LiveChat.Stream
