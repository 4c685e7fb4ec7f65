import LiveChat.Proofs.Stream.Consistency

/-!
How long a connection may be up while nobody looks. The alarm of an idle connection is set once,
for the time at which it became idle and the time that it may stay so. Nothing moves the alarm
while the connection stays idle, and nothing leaves it set when it ends to be.
-/

set_option autoImplicit false

namespace LiveChat.Stream

/-- Up while nobody looks. -/
def Connection.Idle (connection : Connection) : Prop :=
  connection.status = .connected ∧ connection.visibility = .hidden

/-! What an idle connection does not survive: its end by the owner, its failure, and a view. -/

theorem Connection.disconnect_awake (connection : Connection) : ¬connection.disconnect.Idle := by
  obtain ⟨changes, same⟩ := disconnect_frame connection
  rw [same]
  rintro ⟨⟨⟩, _⟩

theorem Connection.failed_awake (settings : Settings) (now : Nat) (draw : Float)
    (error : StreamError) (connection : Connection) :
    ¬(connection.failed settings now draw error).1.Idle := by
  obtain ⟨changes, ⟨_, same⟩ | ⟨_, _, same⟩ | ⟨_, _, same⟩⟩ :=
    failed_cases settings now draw connection error
  · rw [same]
    rintro ⟨⟨⟩, _⟩
  · rw [same]
    rintro ⟨⟨⟩, _⟩
  · rw [same]
    rintro ⟨⟨⟩, _⟩

theorem Connection.visible_awake (settings : Settings) (now : Nat) (connection : Connection)
    (alive : connection.destroyed = false) :
    ¬(connection.setVisibility settings now .visible).1.Idle := by
  rw [set_visible_frame settings now connection alive]
  split
  · rintro ⟨_, ⟨⟩⟩
  · rintro ⟨_, ⟨⟩⟩

namespace Dispatcher

/-- The connection has been idle in every state since a time at which it became idle. -/
inductive IdleSince (start : Dispatcher) : List Happening → Dispatcher → Nat → Prop where
  | began {history : List Happening} {before after : Dispatcher} {happening : Happening}
      (run : Run start history before) (awake : ¬before.connection.Idle)
      (step : Step happening.now happening.draw before happening.move after)
      (idle : after.connection.Idle) :
      IdleSince start (history ++ [happening]) after happening.now
  | still {history : List Happening} {before after : Dispatcher} {happening : Happening}
      {began : Nat} (since : IdleSince start history before began)
      (step : Step happening.now happening.draw before happening.move after)
      (idle : after.connection.Idle) :
      IdleSince start (history ++ [happening]) after began

variable {start final before after : Dispatcher} {history : List Happening} {now began : Nat}
  {draw : Float} {move : Move}

theorem idle_since_run (since : IdleSince start history final began) :
    Run start history final := by
  induction since with
  | began run _ step _ => exact .next run step
  | still _ step _ induction => exact .next induction step

/-- Whatever is idle at the end of a run became so at some time of it. -/
theorem run_idle_since (run : Run start history final) (awake : ¬start.connection.Idle)
    (idle : final.connection.Idle) : ∃ began, IdleSince start history final began := by
  induction run with
  | start => exact absurd idle awake
  | @next history before after happening run step induction =>
      by_cases earlier : before.connection.Idle
      · obtain ⟨began, since⟩ := induction earlier
        exact ⟨began, .still since step idle⟩
      · exact ⟨happening.now, .began run earlier step idle⟩

theorem alarm_of_awake (consistent : final.connection.Consistent)
    (awake : ¬final.connection.Idle) : final.connection.inactivityAt = none := by
  cases alarm : final.connection.inactivityAt with
  | none => rfl
  | some due => exact absurd (consistent.idle.mp (by rw [alarm]; rfl)) awake

/-- A signal after which the connection is idle keeps the alarm, or sets it. -/
theorem signal_alarm (signal : Connection.Signal) (alive : before.connection.destroyed = false)
    (consistent : before.connection.Consistent)
    (idle : (before.connection.step before.settings now draw signal).1.Idle) :
    (before.connection.step before.settings now draw signal).1.inactivityAt =
      before.connection.inactivityAt.or (some (now + before.settings.inactivity.nanoseconds)) := by
  have kept (stays : before.connection.Idle) : before.connection.inactivityAt =
      before.connection.inactivityAt.or
        (some (now + before.settings.inactivity.nanoseconds)) := by
    obtain ⟨due, alarm⟩ := Option.isSome_iff_exists.mp (consistent.idle.mpr stays)
    rw [alarm, Option.some_or]
  cases signal with
  | connect =>
      have same := Connection.connect_frame before.connection alive
      simp only [Connection.step, same] at idle ⊢
      exact kept idle
  | disconnect => exact absurd idle before.connection.disconnect_awake
  | destroy =>
      simp only [Connection.step, Connection.destroy, alive, Bool.false_eq_true,
        if_false] at idle
      exact absurd idle before.connection.disconnect_awake
  | setVisibility visibility =>
      cases visibility with
      | hidden =>
          have same := Connection.set_hidden_frame before.settings now before.connection
          simp only [Connection.step, same] at idle ⊢
          exact if_pos idle.1
      | visible =>
          have awake := Connection.visible_awake before.settings now before.connection alive
          exact absurd idle awake
  | opened =>
      obtain ⟨changes, same⟩ := Connection.opened_frame before.settings now before.connection
      simp only [Connection.step, same] at idle ⊢
      exact if_pos idle.2
  | failed error =>
      have awake := Connection.failed_awake before.settings now draw error before.connection
      exact absurd idle awake
  | reconnectDue =>
      have same := Connection.reconnect_due_frame before.settings now draw before.connection alive
      rw [Connection.connect_frame before.connection alive] at same
      rw [same] at idle ⊢
      exact kept idle
  | inactivityDue =>
      obtain ⟨changes, same⟩ := Connection.idle_close_frame before.connection
      simp only [Connection.step, same] at idle
      split at idle
      · cases idle.1
      · next awake => exact absurd idle awake

theorem step_alarm (step : Step now draw before move after)
    (consistent : before.connection.Consistent) (idle : after.connection.Idle) :
    after.connection.inactivityAt =
      before.connection.inactivityAt.or (some (now + before.settings.inactivity.nanoseconds)) := by
  rcases step_connection step with ⟨counters, same | ⟨signal, _, alive, _, same⟩⟩
  · rw [same] at idle ⊢
    obtain ⟨due, alarm⟩ := Option.isSome_iff_exists.mp (consistent.idle.mpr idle)
    rw [show before.connection.inactivityAt = some due from alarm, Option.some_or]
  · rw [same] at idle ⊢
    exact signal_alarm signal alive consistent idle

/-- The alarm goes with the time at which the connection became idle. -/
theorem idle_since_alarm (since : IdleSince start history final began)
    (consistent : start.connection.Consistent) :
    final.connection.inactivityAt =
      some (began + start.settings.inactivity.nanoseconds) := by
  induction since with
  | began run awake step idle =>
      have before := run_consistent run consistent
      rw [step_alarm step before idle, alarm_of_awake before awake, Option.none_or,
        run_settings run]
  | still since step idle induction =>
      have before := run_consistent (idle_since_run since) consistent
      rw [step_alarm step before idle, induction, Option.some_or]

theorem pending_alarm_idle (consistent : final.connection.Consistent) {due : Nat}
    (pending : final.connection.inactivityAt = some due) : final.connection.Idle :=
  consistent.idle.mp (by rw [pending]; rfl)

/-- What an owner orders of a connection that is idle, and what its link does, either leave it
idle or wake it. -/
theorem idle_after (step : Step now draw before move after) (idle : before.connection.Idle) :
    ((move = .signal .connect ∨ move = .signal (.setVisibility .hidden)) →
        after.connection.Idle) ∧
      ((move = .signal (.setVisibility .visible) ∨ move = .signal .disconnect ∨
          ∃ error, move = .signal (.failed error)) → ¬after.connection.Idle) := by
  rcases step_cases step with ⟨signal, rfl, alive, _, rfl⟩ | ⟨still, counters, same⟩
  · obtain ⟨counters, same⟩ := after_signal_connection now draw signal before
    rw [same]
    constructor
    · rintro (⟨⟨⟩⟩ | ⟨⟨⟩⟩)
      · simp only [Connection.step, Connection.connect_frame before.connection alive]
        exact idle
      · simp only [Connection.step, Connection.set_hidden_frame]
        exact ⟨idle.1, rfl⟩
    · rintro (⟨⟨⟩⟩ | ⟨⟨⟩⟩ | ⟨error, ⟨⟩⟩)
      · exact Connection.visible_awake before.settings now before.connection alive
      · exact Connection.disconnect_awake _
      · exact Connection.failed_awake before.settings now draw _ before.connection
  · refine ⟨fun _ => ?_, fun ended => ?_⟩
    · rw [same]
      exact idle
    · rcases ended with shown | down | ⟨error, failed⟩
      · exact absurd shown (still _)
      · exact absurd down (still _)
      · exact absurd failed (still _)

/-- The alarm finds the connection idle, and the close is all that happens: there is no notice,
and no further attempt is planned or counted. -/
theorem idle_close_step (step : Step now draw before (.signal .inactivityDue) after)
    (consistent : before.connection.Consistent) :
    (∃ due ≤ now, before.connection.inactivityAt = some due) ∧
      (before.signal now draw .inactivityDue).2 = [] ∧ before.connection.reconnectAt = none ∧
      ∃ changes, after = { before with connection := { before.connection with
        status := .disconnected, statusChanges := changes, link := none, inactivityAt := none
        closedByInactivity := true } } := by
  cases step with
  | signal _ alive admitted =>
      obtain ⟨due, reached, pending⟩ := admitted
      obtain ⟨changes, same⟩ := Connection.idle_close_frame before.connection
      have idle := pending_alarm_idle consistent pending
      rw [if_pos ⟨idle.1, idle.2⟩] at same
      refine ⟨⟨due, reached, pending⟩, rfl, Connection.calm_of_connected consistent idle.1,
        changes, ?_⟩
      simp only [afterSignal, signal, Connection.step, perform, same, alive, Bool.false_eq_true,
        if_false]

/-- The alarm of a hidden connection is pending exactly while the connection is up and hidden,
and for the time at which it became so and the time that it may stay so. Being hidden again and
a new link for the live one leave it alone; coming into view, a failure and the owner's
disconnect end it. So only a connection that has been up and hidden for that long, without a
break, is closed for it, and in silence. -/
theorem idle_close_timed (settings : Settings) (chat changes notices : Option Nat)
    {history : List Happening} {final : Dispatcher}
    (run : Run (.new settings chat changes notices) history final) :
    (∀ due, final.connection.inactivityAt = some due ↔
      ∃ began, IdleSince (.new settings chat changes notices) history final began ∧
        due = began + settings.inactivity.nanoseconds) ∧
    (∀ (now : Nat) (draw : Float) (move : Move) (after : Dispatcher),
      Step now draw final move after → final.connection.Idle →
        (after.connection.Idle →
          after.connection.inactivityAt = final.connection.inactivityAt) ∧
        (¬after.connection.Idle → after.connection.inactivityAt = none) ∧
        ((move = .signal .connect ∨ move = .signal (.setVisibility .hidden)) →
          after.connection.Idle) ∧
        ((move = .signal (.setVisibility .visible) ∨ move = .signal .disconnect ∨
          ∃ error, move = .signal (.failed error)) → ¬after.connection.Idle)) ∧
    (∀ (now : Nat) (draw : Float) (move : Move) (after : Dispatcher),
      Step now draw final move after → final.connection.closedByInactivity = false →
        after.connection.closedByInactivity = true → move = .signal .inactivityDue) ∧
    (∀ (now : Nat) (draw : Float) (after : Dispatcher),
      Step now draw final (.signal .inactivityDue) after →
        (∃ began, IdleSince (.new settings chat changes notices) history final began ∧
          began + settings.inactivity.nanoseconds ≤ now) ∧
        (final.signal now draw .inactivityDue).2 = [] ∧
        final.connection.reconnectAt = none ∧
        ∃ changes, after = { final with connection := { final.connection with
          status := .disconnected, statusChanges := changes, link := none, inactivityAt := none
          closedByInactivity := true } }) := by
  have fresh : (Dispatcher.new settings chat changes notices).connection.Consistent :=
    Connection.initial_consistent
  have consistent := run_consistent run fresh
  have awake : ¬(Dispatcher.new settings chat changes notices).connection.Idle := by
    rintro ⟨⟨⟩, _⟩
  have timed (due : Nat) : final.connection.inactivityAt = some due ↔
      ∃ began, IdleSince (.new settings chat changes notices) history final began ∧
        due = began + settings.inactivity.nanoseconds := by
    constructor
    · intro pending
      obtain ⟨began, since⟩ :=
        run_idle_since run awake (pending_alarm_idle consistent pending)
      have alarm := idle_since_alarm since fresh
      rw [pending] at alarm
      exact ⟨began, since, Option.some.inj alarm⟩
    · rintro ⟨began, since, rfl⟩
      exact idle_since_alarm since fresh
  refine ⟨timed, ?_, ?_, ?_⟩
  · intro now draw move after step idle
    have later := step_consistent step consistent
    refine ⟨fun still => ?_, alarm_of_awake later, idle_after step idle⟩
    obtain ⟨due, pending⟩ := Option.isSome_iff_exists.mp (consistent.idle.mpr idle)
    rw [step_alarm step consistent still, pending, Option.some_or]
  · intro now draw move after step unmarked marked
    rcases step_cases step with ⟨signal, rfl, alive, _, rfl⟩ | ⟨_, counters, same⟩
    · obtain ⟨counters, same⟩ := after_signal_connection now draw signal final
      rw [same] at marked
      have closed := Connection.step_closed final.settings now draw final.connection signal alive
      rw [show _ = true from marked, unmarked] at closed
      cases signal with
      | setVisibility visibility => cases visibility <;> cases closed
      | inactivityDue => rfl
      | _ => cases closed
    · rw [same] at marked
      rw [show final.connection.closedByInactivity = true from marked] at unmarked
      cases unmarked
  · intro now draw after step
    obtain ⟨⟨due, reached, pending⟩, silent, calm, closed⟩ := idle_close_step step consistent
    obtain ⟨began, since, rfl⟩ := (timed due).mp pending
    exact ⟨⟨began, since, reached⟩, silent, calm, closed⟩

/-- Hidden while it was live. -/
theorem hidden_run :
    Run (.new .standard none none none)
      [⟨0, 0, .signal .connect⟩, ⟨1, 0, .signal .opened⟩, ⟨2, 0, .signal (.setVisibility .hidden)⟩]
      ((((Dispatcher.new .standard none none none).afterSignal 0 0 .connect).afterSignal 1 0
        .opened).afterSignal 2 0 (.setVisibility .hidden)) := by
  have connecting : Run (.new .standard none none none) ([] ++ [⟨0, 0, .signal .connect⟩]) _ :=
    .next .start (.signal .connect rfl trivial)
  have opened := @Run.next _ _ _ _ ⟨1, 0, .signal .opened⟩ connecting (.signal .opened rfl rfl)
  exact @Run.next _ _ _ _ ⟨2, 0, .signal (.setVisibility .hidden)⟩ opened (.signal _ rfl trivial)

/-- Hidden while it was live, with a new link since, and hidden once more. -/
def hiddenTwice : Dispatcher :=
  (((((Dispatcher.new .standard none none none).afterSignal 0 0 .connect).afterSignal 1 0
    .opened).afterSignal 2 0 (.setVisibility .hidden)).afterSignal 3 0 .connect).afterSignal 4 0
    (.setVisibility .hidden)

/-- It is closed when the time that counts from the first hiding is over. -/
theorem hidden_twice_close_timed :
    ∃ history after, Run (.new .standard none none none) history hiddenTwice ∧
      hiddenTwice.connection.link = some .opening ∧
      Step 300000000002 0 hiddenTwice (.signal .inactivityDue) after ∧
      (∃ began, IdleSince (.new .standard none none none) history hiddenTwice began ∧
        began + Settings.standard.inactivity.nanoseconds ≤ 300000000002) ∧
      after.connection.link = none ∧ after.connection.status = .disconnected := by
  have renewed := @Run.next _ _ _ _ ⟨3, 0, .signal .connect⟩ hidden_run (.signal _ rfl trivial)
  have again := @Run.next _ _ _ _ ⟨4, 0, .signal (.setVisibility .hidden)⟩ renewed
    (.signal _ rfl trivial)
  have closing : Step 300000000002 0 hiddenTwice (.signal .inactivityDue) _ :=
    .signal .inactivityDue rfl ⟨300000000002, Nat.le_refl _, rfl⟩
  have timed := (idle_close_timed .standard none none none again).2.2.2 _ _ _ closing
  exact ⟨_, _, again, rfl, closing, timed.1, rfl, rfl⟩

end Dispatcher

end LiveChat.Stream
