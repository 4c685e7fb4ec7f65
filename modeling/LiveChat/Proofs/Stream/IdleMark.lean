import LiveChat.Proofs.Stream.Idle

/-!
The mark that an idle close leaves on a connection, as a statement about what happened. The mark
says that the connection was closed for being idle, was not open since, not taken down by its
owner and not looked at. It does not say that nothing was started since: an owner's order to
connect leaves it in place, and then it can stand beside a new link or a planned attempt.
-/

set_option autoImplicit false

namespace LiveChat.Stream

/-- Something happened, and nothing came after it that ended what it stood for. -/
def Lately (event : List Move → Move → Prop) (ends : Move → Prop) (moves : List Move) : Prop :=
  ∃ earlier move later, moves = earlier ++ move :: later ∧ event earlier move ∧
    ∀ next ∈ later, ¬ends next

section

variable {event : List Move → Move → Prop} {ends : Move → Prop}

theorem not_lately_nil : ¬Lately event ends [] := by
  rintro ⟨earlier, move, later, same, _⟩
  exact List.append_ne_nil_of_right_ne_nil _ (List.cons_ne_nil _ _) same.symm

theorem lately_concat (moves : List Move) (move : Move) :
    Lately event ends (moves ++ [move]) ↔
      event moves move ∨ (Lately event ends moves ∧ ¬ends move) := by
  constructor
  · rintro ⟨earlier, past, later, same, given, lasting⟩
    rcases List.eq_nil_or_concat later with rfl | ⟨later, last, rfl⟩
    · obtain ⟨rfl, ⟨⟩⟩ := List.append_inj' same rfl
      exact .inl given
    · rw [List.concat_eq_append, ← List.cons_append, ← List.append_assoc] at same
      obtain ⟨rfl, ⟨⟩⟩ := List.append_inj' same rfl
      rw [List.concat_eq_append] at lasting
      refine .inr ⟨⟨earlier, past, later, rfl, given, ?_⟩, ?_⟩
      · intro next member
        exact lasting next (List.mem_append_left _ member)
      · exact lasting _ (List.mem_append_right _ (List.mem_singleton_self _))
  · rintro (given | ⟨⟨earlier, past, later, rfl, given, lasting⟩, stays⟩)
    · exact ⟨moves, move, [], rfl, given, fun next member => absurd member List.not_mem_nil⟩
    · refine ⟨earlier, past, later ++ [move], by simp, given, ?_⟩
      intro next member
      rcases List.mem_append.mp member with inside | last
      · exact lasting next inside
      · rwa [List.mem_singleton.mp last]

end

namespace Move

/-- What ends the mark of an idle close. -/
def Unmarks : Move → Prop
  | .signal .opened => True
  | .signal .disconnect => True
  | .signal .destroy => True
  | .signal (.setVisibility .visible) => True
  | _ => False

theorem unmarks_signal {move : Move} (unmarks : move.Unmarks) :
    ∃ signal, move = .signal signal := by
  cases move with
  | signal signal => exact ⟨signal, rfl⟩
  | _ => cases unmarks

end Move

/-- The connection was closed for being idle, and not opened, taken down or looked at since. -/
def IdleClosed (moves : List Move) : Prop :=
  Lately (fun _ move => move = .signal .inactivityDue) Move.Unmarks moves

/-- The owner ordered to connect, and no idle close came since. -/
def Ordered (moves : List Move) : Prop :=
  Lately (fun _ move => move = .signal .connect) (· = .signal .inactivityDue) moves

theorem idle_closed_concat (moves : List Move) (move : Move) :
    IdleClosed (moves ++ [move]) ↔
      move = .signal .inactivityDue ∨ (IdleClosed moves ∧ ¬move.Unmarks) :=
  lately_concat moves move

theorem ordered_concat (moves : List Move) (move : Move) :
    Ordered (moves ++ [move]) ↔
      move = .signal .connect ∨ (Ordered moves ∧ move ≠ .signal .inactivityDue) :=
  lately_concat moves move

/-- Nothing is open, and nothing is on its way to be. -/
def Connection.Down (connection : Connection) : Prop :=
  connection.status = .disconnected ∧ connection.link = none ∧ connection.reconnectAt = none

/-- What a visibility order must not touch: the link, the planned attempt and how they came
about. -/
def Connection.SameCourse (first second : Connection) : Prop :=
  first.link = second.link ∧ first.reconnectAt = second.reconnectAt ∧
    first.attempt = second.attempt ∧ first.reconnecting = second.reconnecting ∧
    first.status = second.status

/-- Only a connection with the mark is started when it comes into view. -/
theorem Connection.set_visibility_course (settings : Settings) (now : Nat)
    (visibility : Visibility) (connection : Connection)
    (apart : visibility = .hidden ∨ connection.closedByInactivity = false) :
    (connection.setVisibility settings now visibility).2 = [] ∧
      (connection.setVisibility settings now visibility).1.SameCourse connection := by
  cases visibility with
  | hidden =>
      rw [set_hidden_frame]
      exact ⟨rfl, rfl, rfl, rfl, rfl, rfl⟩
  | visible =>
      have unmarked : connection.closedByInactivity = false := by simpa using apart
      simp only [setVisibility, unmarked, Bool.false_and, Bool.false_eq_true, if_false]
      exact ⟨trivial, rfl, rfl, rfl, rfl, rfl⟩

namespace Dispatcher

variable {final before after : Dispatcher} {history : List Happening} {now : Nat} {draw : Float}
  {moves : List Move}

/-- The alarm of a hidden connection only goes off while the connection is up and hidden. -/
theorem due_idle (consistent : before.connection.Consistent)
    (admitted : before.Admits now .inactivityDue) :
    before.connection.status = .connected ∧ before.connection.visibility = .hidden := by
  obtain ⟨due, _, pending⟩ := admitted
  exact pending_alarm_idle consistent pending

theorem signal_marked (signal : Connection.Signal) (alive : before.connection.destroyed = false)
    (admitted : before.Admits now signal) (consistent : before.connection.Consistent)
    (marked : before.connection.closedByInactivity = true ↔ IdleClosed moves) :
    (before.connection.step before.settings now draw signal).1.closedByInactivity = true ↔
      IdleClosed (moves ++ [.signal signal]) := by
  rw [Connection.step_closed before.settings now draw before.connection signal alive,
    idle_closed_concat]
  cases signal with
  | setVisibility visibility =>
      cases visibility with
      | hidden => simpa [Move.Unmarks] using marked
      | visible => simp [Move.Unmarks]
  | inactivityDue => simp [due_idle consistent admitted]
  | opened => simp [Move.Unmarks]
  | disconnect => simp [Move.Unmarks]
  | destroy => simp [Move.Unmarks]
  | connect => simpa [Move.Unmarks] using marked
  | failed error => simpa [Move.Unmarks] using marked
  | reconnectDue => simpa [Move.Unmarks] using marked

/-- The mark tells what happened. -/
theorem run_marked {settings : Settings} {chat changes notices : Option Nat}
    (run : Run (.new settings chat changes notices) history final) :
    final.connection.closedByInactivity = true ↔ IdleClosed (history.map (·.move)) := by
  refine run_relates (fun moves connection =>
      connection.closedByInactivity = true ↔ IdleClosed moves)
    (iff_of_false Bool.false_ne_true not_lately_nil) (fun _ _ _ same => same) ?_ ?_ run
  · intro past before now draw signal run alive admitted marked
    have consistent := run_consistent run Connection.initial_consistent
    exact signal_marked signal alive admitted consistent marked
  · intro moves move connection still marked
    have lasting : ¬move.Unmarks := fun unmarks =>
      (Move.unmarks_signal unmarks).elim still
    rw [idle_closed_concat]
    simpa [still, lasting] using marked

/-- Unless it is ordered to connect, a connection with the mark stays down. -/
theorem signal_rests (signal : Connection.Signal) (alive : before.connection.destroyed = false)
    (admitted : before.Admits now signal) (consistent : before.connection.Consistent)
    (rests : ¬Ordered moves → before.connection.closedByInactivity = true →
      before.connection.Down)
    (unordered : ¬Ordered (moves ++ [.signal signal]))
    (marked : (before.connection.step before.settings now draw signal).1.closedByInactivity =
      true) :
    (before.connection.step before.settings now draw signal).1.Down := by
  rw [ordered_concat, not_or] at unordered
  have earlier (other : (.signal signal : Move) ≠ .signal .inactivityDue) :
      ¬Ordered moves := fun ordered => unordered.2 ⟨ordered, other⟩
  rw [Connection.step_closed before.settings now draw before.connection signal alive] at marked
  cases signal with
  | connect => exact absurd rfl unordered.1
  | inactivityDue =>
      have idle := due_idle consistent admitted
      obtain ⟨changes, same⟩ := Connection.idle_close_frame before.connection
      have calm := Connection.calm_of_connected consistent idle.1
      rw [if_pos idle] at same
      simp only [Connection.step, same]
      exact ⟨rfl, rfl, calm⟩
  | setVisibility visibility =>
      cases visibility with
      | hidden =>
          simp only [Connection.step, Connection.set_hidden_frame]
          exact rests (earlier (by simp)) marked
      | visible => cases marked
  | failed error => exact absurd (rests (earlier (by simp)) marked).2.1 admitted.1
  | reconnectDue =>
      obtain ⟨due, _, pending⟩ := admitted
      rw [(rests (earlier (by simp)) marked).2.2] at pending
      cases pending
  | opened => cases marked
  | disconnect => cases marked
  | destroy => cases marked

theorem run_rests {settings : Settings} {chat changes notices : Option Nat}
    (run : Run (.new settings chat changes notices) history final) :
    ¬Ordered (history.map (·.move)) → final.connection.closedByInactivity = true →
      final.connection.Down := by
  refine run_relates (fun moves connection =>
      ¬Ordered moves → connection.closedByInactivity = true → connection.Down)
    (fun _ marked => absurd marked Bool.false_ne_true) (fun _ _ _ same => same) ?_ ?_ run
  · intro past before now draw signal run alive admitted rests
    have consistent := run_consistent run Connection.initial_consistent
    exact signal_rests signal alive admitted consistent rests
  · intro moves move connection still rests unordered
    rw [ordered_concat, not_or] at unordered
    exact rests fun ordered => unordered.2 ⟨ordered, still _⟩

theorem unmarked_of_open (consistent : final.connection.Consistent)
    (opened : final.connection.status = .connected) :
    final.connection.closedByInactivity = false :=
  (consistent.connected opened).2.2.2

/-- The mark of an idle close is set exactly while the connection was not opened, taken down or
looked at since such a close, and never while it is open. As long as no order to connect came
since the close, a connection with the mark is down, and so being shown or hidden interrupts no
link and no planned attempt. Being hidden never does, and being shown not while the connection
is open. -/
theorem idle_mark_exact (settings : Settings) (chat changes notices : Option Nat)
    {history : List Happening} {final : Dispatcher}
    (run : Run (.new settings chat changes notices) history final) :
    (final.connection.closedByInactivity = true ↔ IdleClosed (history.map (·.move))) ∧
    (final.connection.closedByInactivity = true →
      final.connection.status ≠ .connected ∧ final.connection.link ≠ some .live) ∧
    (¬Ordered (history.map (·.move)) → final.connection.closedByInactivity = true →
      final.connection.Down) ∧
    (∀ (now : Nat) (draw : Float) (visibility : Visibility) (after : Dispatcher),
      Step now draw final (.signal (.setVisibility visibility)) after →
        (final.connection.link ≠ none ∨ final.connection.reconnectAt ≠ none) →
        (Ordered (history.map (·.move)) →
          visibility = .hidden ∨ final.connection.status = .connected) →
        (final.signal now draw (.setVisibility visibility)).2 = [] ∧
          after.connection.SameCourse final.connection) := by
  have consistent := run_consistent run Connection.initial_consistent
  refine ⟨run_marked run, ?_, run_rests run, ?_⟩
  · intro marked
    have shut : final.connection.status ≠ .connected := by
      intro opened
      rw [unmarked_of_open consistent opened] at marked
      cases marked
    exact ⟨shut, fun live => shut (consistent.live live)⟩
  · intro now draw visibility after step busy ordered
    have apart : visibility = .hidden ∨ final.connection.closedByInactivity = false := by
      by_cases given : Ordered (history.map (·.move))
      · exact (ordered given).imp_right (unmarked_of_open consistent)
      · refine .inr (Bool.eq_false_iff.mpr fun marked => ?_)
        obtain ⟨_, unlinked, calm⟩ := run_rests run given marked
        exact busy.elim (· unlinked) (· calm)
    obtain ⟨silent, same⟩ := Connection.set_visibility_course final.settings now visibility
      final.connection apart
    cases step with
    | signal =>
        obtain ⟨counters, after⟩ :=
          after_signal_connection now draw (.setVisibility visibility) final
        refine ⟨silent, ?_⟩
        rw [after]
        exact same

/-- Hidden while it was live, and closed for that. -/
def closedIdle : Dispatcher :=
  ((((Dispatcher.new .standard none none none).afterSignal 0 0 .connect).afterSignal 1 0
    .opened).afterSignal 2 0 (.setVisibility .hidden)).afterSignal 300000000002 0 .inactivityDue

theorem closed_idle_run :
    Run (.new .standard none none none)
      [⟨0, 0, .signal .connect⟩, ⟨1, 0, .signal .opened⟩,
        ⟨2, 0, .signal (.setVisibility .hidden)⟩, ⟨300000000002, 0, .signal .inactivityDue⟩]
      closedIdle := by
  exact @Run.next _ _ _ _ ⟨300000000002, 0, .signal .inactivityDue⟩ hidden_run
    (.signal _ rfl ⟨300000000002, Nat.le_refl _, rfl⟩)

/-- With no order to connect since the close there is the mark and nothing else. -/
theorem closed_idle_rests :
    ∃ history, Run (.new .standard none none none) history closedIdle ∧
      closedIdle.connection.closedByInactivity = true ∧ ¬Ordered (history.map (·.move)) ∧
      closedIdle.connection.Down := by
  have unordered : ¬Ordered [.signal .connect, .signal .opened,
      .signal (.setVisibility .hidden), .signal .inactivityDue] := by
    intro ordered
    exact ((ordered_concat [_, _, _] _).mp ordered).elim nofun (fun lasting => lasting.2 rfl)
  exact ⟨_, closed_idle_run, rfl, unordered,
    (idle_mark_exact .standard none none none closed_idle_run).2.2.1 unordered rfl⟩

/-- Closed for being idle, ordered to connect, and waiting to try again. -/
def orderedAgain : Dispatcher :=
  (closedIdle.afterSignal 300000000003 0 .connect).afterSignal 300000000004 0
    (.failed (.connect "refused"))

/-- The mark outlives an order to connect, and being shown then cuts the delay of the planned
attempt short. -/
theorem ordered_again_marked :
    ∃ history, Run (.new .standard none none none) history orderedAgain ∧
      orderedAgain.connection.closedByInactivity = true ∧ ¬orderedAgain.connection.Down ∧
      orderedAgain.connection.status = .reconnecting ∧
      orderedAgain.connection.reconnectAt ≠ none ∧
      ∃ after, Step 300000000005 0 orderedAgain (.signal (.setVisibility .visible)) after ∧
        ¬after.connection.SameCourse orderedAgain.connection ∧
        after.connection.reconnectAt = none ∧ after.connection.link = some .opening := by
  have ordered := @Run.next _ _ _ _ ⟨300000000003, 0, .signal .connect⟩ closed_idle_run
    (.signal _ rfl trivial)
  have refused := @Run.next _ _ _ _ ⟨300000000004, 0, .signal (.failed (.connect "refused"))⟩
    ordered (.signal _ rfl ⟨nofun, rfl⟩)
  have waiting : orderedAgain.connection.status = .reconnecting := rfl
  have planned : orderedAgain.connection.reconnectAt.isSome = true := rfl
  have shown : Step 300000000005 0 orderedAgain (.signal (.setVisibility .visible)) _ :=
    .signal _ rfl trivial
  refine ⟨_, refused, rfl, ?_, waiting, ?_, _, shown, ?_, rfl, rfl⟩
  · rintro ⟨disconnected, _⟩
    rw [waiting] at disconnected
    cases disconnected
  · exact Option.isSome_iff_ne_none.mp planned
  · intro same
    cases same.1

end Dispatcher

end LiveChat.Stream
