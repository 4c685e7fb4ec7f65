import LiveChat.Stream.Connection

/-!
What each operation of a connection does to its fields, as one equation or one case distinction
an operation. The count of status changes is left open: nothing else depends on it.
-/

set_option autoImplicit false

namespace LiveChat.Stream.Connection

variable (settings : Settings) (now : Nat) (draw : Float) (connection : Connection)

theorem set_status_frame (status : Status) :
    ∃ changes, connection.setStatus status =
      { connection with status, statusChanges := changes } := by
  unfold setStatus
  split
  · next same => exact ⟨connection.statusChanges, by rw [← same]⟩
  · exact ⟨_, rfl⟩

theorem disconnect_frame :
    ∃ changes, connection.disconnect =
      { connection with
        status := .disconnected, statusChanges := changes, reconnectAt := none
        inactivityAt := none, link := none, reconnecting := false
        closedByInactivity := false } := by
  obtain ⟨changes, same⟩ := set_status_frame
    { connection with
      reconnectAt := none, inactivityAt := none, link := none, reconnecting := false
      closedByInactivity := false } .disconnected
  exact ⟨changes, same⟩

/-- An alarm that is set already is kept. -/
theorem arm_inactivity_frame :
    connection.armInactivity settings now =
      { connection with
        inactivityAt :=
          if connection.status = .connected ∧ connection.visibility = .hidden then
            connection.inactivityAt.or (some (now + settings.inactivity.nanoseconds))
          else connection.inactivityAt } := by
  obtain ⟨status, _, visibility, _, _, _, alarm, _, _, _, _⟩ := connection
  unfold armInactivity
  by_cases hidden : status = .connected ∧ visibility = .hidden
  · cases alarm <;> simp [hidden]
  · simp [← and_assoc, hidden]

theorem connect_frame (alive : connection.destroyed = false) :
    connection.connect.1 =
      { connection with reconnectAt := none, link := some .opening } := by
  simp [connect, alive]

/-- The alarm that is due was all that kept the connection from trying, so trying is the same. -/
theorem reconnect_due_frame (alive : connection.destroyed = false) :
    (connection.step settings now draw .reconnectDue).1 = connection.connect.1 := by
  rw [connect_frame _ alive]
  exact connect_frame { connection with reconnectAt := none } alive

theorem set_hidden_frame :
    (connection.setVisibility settings now .hidden).1 =
      { connection with
        visibility := .hidden
        inactivityAt :=
          if connection.status = .connected then
            connection.inactivityAt.or (some (now + settings.inactivity.nanoseconds))
          else connection.inactivityAt } := by
  simp only [setVisibility, arm_inactivity_frame, and_true]

/-- A connection that an idle close took down starts again. -/
theorem set_visible_frame (alive : connection.destroyed = false) :
    (connection.setVisibility settings now .visible).1 =
      if connection.closedByInactivity then
        { connection with
          visibility := .visible, inactivityAt := none, closedByInactivity := false
          reconnecting := true, reconnectAt := none, link := some .opening }
      else { connection with visibility := .visible, inactivityAt := none } := by
  simp only [setVisibility, alive, Bool.not_false, Bool.and_true, connect, Bool.false_eq_true,
    if_false]
  split <;> rfl

theorem opened_frame :
    ∃ changes, (connection.opened settings now).1 =
      { connection with
        status := .connected, statusChanges := changes, link := some .live
        counters := connection.counters.opened, attempt := 0, closedByInactivity := false
        reconnecting := false
        inactivityAt :=
          if connection.visibility = .hidden then
            connection.inactivityAt.or (some (now + settings.inactivity.nanoseconds))
          else connection.inactivityAt } := by
  obtain ⟨changes, same⟩ := set_status_frame
    { connection with
      link := some .live, counters := connection.counters.opened, attempt := 0
      closedByInactivity := false } .connected
  refine ⟨changes, ?_⟩
  simp only [opened, same, arm_inactivity_frame, true_and]
  split
  · rfl
  · next flag =>
    have first : connection.reconnecting = false := by simpa using flag
    simp only [first]

/-- The delay before the next attempt, if there is one. -/
def delay (settings : Settings) (attempt : Nat) (draw : Float) : Time.Duration :=
  (settings.policy.jittered? attempt draw).getD settings.policy.ceiling

theorem failed_cases (error : StreamError) :
    ∃ changes,
      (error.transient = false ∧ (connection.failed settings now draw error).1 =
        { connection with
          status := .disconnected, statusChanges := changes, link := none
          inactivityAt := none, reconnectAt := none, reconnecting := false }) ∨
      (error.transient = true ∧ settings.policy.maxAttempts ≤ connection.attempt + 1 ∧
        (connection.failed settings now draw error).1 =
          { connection with
            status := .disconnected, statusChanges := changes, link := none
            inactivityAt := none, reconnectAt := none, reconnecting := true }) ∨
      (error.transient = true ∧ connection.attempt + 1 < settings.policy.maxAttempts ∧
        (connection.failed settings now draw error).1 =
          { connection with
            status := .reconnecting, statusChanges := changes, link := none
            inactivityAt := none, reconnecting := true, attempt := connection.attempt + 1
            reconnectAt := some (now + (delay settings connection.attempt draw).nanoseconds)
            counters := connection.counters.reconnect }) := by
  cases lasting : error.transient with
  | false =>
      obtain ⟨changes, same⟩ := set_status_frame
        { connection with
          link := none, inactivityAt := none, reconnectAt := none, reconnecting := false }
        .disconnected
      exact ⟨changes, .inl ⟨rfl, by
        simp only [failed, lasting, Bool.false_eq_true, if_false, same]⟩⟩
  | true =>
      obtain ⟨changes, same⟩ := set_status_frame
        { connection with link := none, inactivityAt := none, reconnecting := true }
        .reconnecting
      by_cases spent : settings.policy.maxAttempts ≤ connection.attempt + 1
      · obtain ⟨more, settled⟩ := set_status_frame
          { connection with
            status := .reconnecting, statusChanges := changes, link := none
            inactivityAt := none, reconnecting := true, reconnectAt := none } .disconnected
        exact ⟨more, .inr (.inl ⟨rfl, spent, by
          simp only [failed, lasting, if_true, same, scheduleReconnect, if_pos spent, settled]⟩)⟩
      · exact ⟨changes, .inr (.inr ⟨rfl, by omega, by
          simp only [failed, lasting, if_true, same, scheduleReconnect, if_neg spent, delay]⟩)⟩

theorem idle_close_frame :
    ∃ changes, connection.idleClose =
      if connection.status = .connected ∧ connection.visibility = .hidden then
        { connection with
          status := .disconnected, statusChanges := changes, link := none
          inactivityAt := none, closedByInactivity := true }
      else { connection with inactivityAt := none } := by
  obtain ⟨changes, same⟩ := set_status_frame
    { connection with inactivityAt := none, link := none, closedByInactivity := true }
    .disconnected
  exact ⟨changes, by simp only [idleClose, same]⟩

/-- Only an order to destroy the connection does so, and a signal counts at most an open or a
planned attempt. -/
theorem step_keeps (signal : Signal) :
    (signal ≠ .destroy →
      (connection.step settings now draw signal).1.destroyed = connection.destroyed) ∧
      ((connection.step settings now draw signal).1.counters = connection.counters ∨
        (connection.step settings now draw signal).1.counters = connection.counters.opened ∨
        (connection.step settings now draw signal).1.counters = connection.counters.reconnect) := by
  cases signal with
  | connect =>
      simp only [step, connect]
      split <;> exact ⟨fun _ => rfl, .inl rfl⟩
  | disconnect =>
      obtain ⟨changes, same⟩ := disconnect_frame connection
      rw [show (connection.step settings now draw .disconnect).1 = _ from same]
      exact ⟨fun _ => rfl, .inl rfl⟩
  | destroy =>
      refine ⟨fun lasting => absurd rfl lasting, .inl ?_⟩
      obtain ⟨changes, same⟩ := disconnect_frame connection
      simp only [step, destroy, same]
      split <;> rfl
  | setVisibility visibility =>
      cases visibility with
      | hidden =>
          rw [show (connection.step settings now draw (.setVisibility .hidden)).1 = _ from
            set_hidden_frame settings now connection]
          exact ⟨fun _ => rfl, .inl rfl⟩
      | visible =>
          simp only [step, setVisibility, connect]
          split
          · split <;> exact ⟨fun _ => rfl, .inl rfl⟩
          · exact ⟨fun _ => rfl, .inl rfl⟩
  | opened =>
      obtain ⟨changes, same⟩ := opened_frame settings now connection
      rw [show (connection.step settings now draw .opened).1 = _ from same]
      exact ⟨fun _ => rfl, .inr (.inl rfl)⟩
  | failed error =>
      obtain ⟨changes, ⟨_, same⟩ | ⟨_, _, same⟩ | ⟨_, _, same⟩⟩ :=
        failed_cases settings now draw connection error
      · rw [show (connection.step settings now draw (.failed error)).1 = _ from same]
        exact ⟨fun _ => rfl, .inl rfl⟩
      · rw [show (connection.step settings now draw (.failed error)).1 = _ from same]
        exact ⟨fun _ => rfl, .inl rfl⟩
      · rw [show (connection.step settings now draw (.failed error)).1 = _ from same]
        exact ⟨fun _ => rfl, .inr (.inr rfl)⟩
  | reconnectDue =>
      simp only [step, connect]
      split <;> exact ⟨fun _ => rfl, .inl rfl⟩
  | inactivityDue =>
      obtain ⟨changes, same⟩ := idle_close_frame connection
      rw [show (connection.step settings now draw .inactivityDue).1 = _ from same]
      split <;> exact ⟨fun _ => rfl, .inl rfl⟩

/-- The mark of an idle close is set by one and cleared by whatever opens the connection, shows it
or takes it down for its owner. -/
theorem step_closed (signal : Signal) (alive : connection.destroyed = false) :
    (connection.step settings now draw signal).1.closedByInactivity =
      match signal with
      | .disconnect => false
      | .destroy => false
      | .opened => false
      | .setVisibility .visible => false
      | .inactivityDue => connection.closedByInactivity ||
          (connection.status = .connected ∧ connection.visibility = .hidden)
      | _ => connection.closedByInactivity := by
  cases signal with
  | connect => simp only [step, connect_frame connection alive]
  | disconnect =>
      obtain ⟨changes, same⟩ := disconnect_frame connection
      simp only [step, same]
  | destroy =>
      obtain ⟨changes, same⟩ := disconnect_frame connection
      simp only [step, destroy, alive, Bool.false_eq_true, if_false, same]
  | setVisibility visibility =>
      cases visibility with
      | hidden => simp only [step, set_hidden_frame]
      | visible =>
          simp only [step, set_visible_frame settings now connection alive]
          split
          · rfl
          · next flag => simpa using flag
  | opened =>
      obtain ⟨changes, same⟩ := opened_frame settings now connection
      simp only [step, same]
  | failed error =>
      obtain ⟨changes, ⟨_, same⟩ | ⟨_, _, same⟩ | ⟨_, _, same⟩⟩ :=
        failed_cases settings now draw connection error
      · simp only [step, same]
      · simp only [step, same]
      · simp only [step, same]
  | reconnectDue =>
      rw [reconnect_due_frame settings now draw connection alive, connect_frame connection alive]
  | inactivityDue =>
      obtain ⟨changes, same⟩ := idle_close_frame connection
      simp only [step, same]
      split
      · next idle => simp [idle]
      · next awake => simp [awake]

/-- The next open is announced after a failure that may pass, or after the view returned to a
connection with the mark of an idle close. -/
theorem step_reconnecting (signal : Signal) (alive : connection.destroyed = false) :
    (connection.step settings now draw signal).1.reconnecting =
      match signal with
      | .disconnect => false
      | .destroy => false
      | .opened => false
      | .failed error => error.transient
      | .setVisibility .visible => connection.reconnecting || connection.closedByInactivity
      | _ => connection.reconnecting := by
  cases signal with
  | connect => simp only [step, connect_frame connection alive]
  | disconnect =>
      obtain ⟨changes, same⟩ := disconnect_frame connection
      simp only [step, same]
  | destroy =>
      obtain ⟨changes, same⟩ := disconnect_frame connection
      simp only [step, destroy, alive, Bool.false_eq_true, if_false, same]
  | setVisibility visibility =>
      cases visibility with
      | hidden => simp only [step, set_hidden_frame]
      | visible =>
          simp only [step, set_visible_frame settings now connection alive]
          split
          · next flag => simp [flag]
          · next flag => simp [flag]
  | opened =>
      obtain ⟨changes, same⟩ := opened_frame settings now connection
      simp only [step, same]
  | failed error =>
      obtain ⟨changes, ⟨final, same⟩ | ⟨lasting, _, same⟩ | ⟨lasting, _, same⟩⟩ :=
        failed_cases settings now draw connection error
      · simp only [step, same, final]
      · simp only [step, same, lasting]
      · simp only [step, same, lasting]
  | reconnectDue =>
      rw [reconnect_due_frame settings now draw connection alive, connect_frame connection alive]
  | inactivityDue =>
      obtain ⟨changes, same⟩ := idle_close_frame connection
      simp only [step, same]
      split
      · rfl
      · rfl

/-- What a signal means for the link: a new one is asked for, or it is up, or it is gone, or it
stays as it was. -/
theorem step_link (signal : Signal) (alive : connection.destroyed = false) :
    (.openLink ∈ (connection.step settings now draw signal).2 ∧
        (connection.step settings now draw signal).1.link = some .opening) ∨
      (.openLink ∉ (connection.step settings now draw signal).2 ∧
        ((connection.step settings now draw signal).1.link = none ∨
          (signal = .opened ∧
            (connection.step settings now draw signal).1.link = some .live) ∨
          (signal ≠ .opened ∧
            (connection.step settings now draw signal).1.link = connection.link))) := by
  cases signal with
  | connect => exact .inl (by simp [step, connect, alive])
  | disconnect =>
      obtain ⟨changes, same⟩ := disconnect_frame connection
      exact .inr ⟨by simp [step], .inl (by simp only [step, same])⟩
  | destroy =>
      obtain ⟨changes, same⟩ := disconnect_frame connection
      exact .inr ⟨by simp [step], .inl (by simp [step, destroy, alive, same])⟩
  | setVisibility visibility =>
      cases visibility with
      | hidden =>
          have same := set_hidden_frame settings now connection
          exact .inr ⟨by simp [step, setVisibility], .inr (.inr ⟨nofun, by simp only [step, same]⟩)⟩
      | visible =>
          have same := set_visible_frame settings now connection alive
          by_cases closed : connection.closedByInactivity = true
          · refine .inl ⟨?_, by simp only [step, same, if_pos closed]⟩
            simp [step, setVisibility, connect, closed, alive]
          · refine .inr ⟨?_, .inr (.inr ⟨nofun, by simp only [step, same, if_neg closed]⟩)⟩
            simp [step, setVisibility, closed]
  | opened =>
      obtain ⟨changes, same⟩ := opened_frame settings now connection
      refine .inr ⟨?_, .inr (.inl ⟨rfl, by simp only [step, same]⟩)⟩
      simp only [step, opened]
      split <;> simp
  | failed error =>
      refine .inr ⟨?_, .inl ?_⟩
      · simp only [step, failed]
        split <;> simp
      · obtain ⟨changes, ⟨_, same⟩ | ⟨_, _, same⟩ | ⟨_, _, same⟩⟩ :=
          failed_cases settings now draw connection error
        · simp only [step, same]
        · simp only [step, same]
        · simp only [step, same]
  | reconnectDue => exact .inl (by simp [step, connect, alive])
  | inactivityDue =>
      obtain ⟨changes, same⟩ := idle_close_frame connection
      refine .inr ⟨by simp [step], ?_⟩
      simp only [step, same]
      split
      · exact .inl rfl
      · exact .inr (.inr ⟨nofun, rfl⟩)

/-- A connection that a signal destroys has no link. -/
theorem destroyed_link (signal : Signal) (alive : connection.destroyed = false)
    (destroyed : (connection.step settings now draw signal).1.destroyed = true) :
    (connection.step settings now draw signal).1.link = none := by
  by_cases order : signal = .destroy
  · obtain ⟨changes, same⟩ := disconnect_frame connection
    simp [order, step, destroy, alive, same]
  · have kept := (step_keeps settings now draw connection signal).1 order
    rw [destroyed, alive] at kept
    cases kept

end LiveChat.Stream.Connection
