import LiveChat.Proofs.Stream.Budget
import LiveChat.Proofs.Stream.IdleMark

/-!
What observers are told of a connection, and when. Each failure is told once, and nothing else
is told as a drop. An open is told as a return after a failure that could pass, and after the view
came back to a connection that was closed for being idle. What is told goes to the queue of notices
in order; a notice is lost where the queue is full, and counted then, or where nobody reads it.
-/

set_option autoImplicit false

namespace LiveChat.Stream

namespace Move

def fails : Move → Bool
  | .signal (.failed _) => true
  | _ => false

/-- A failure after which no attempt is made. -/
def failsForGood : Move → Bool
  | .signal (.failed error) => !error.transient
  | _ => false

/-- The owner takes the connection down. -/
def takesDown : Move → Bool
  | .signal .disconnect => true
  | .signal .destroy => true
  | _ => false

def takenNotice? : Move → Option Notice
  | .takeNotice notice => some notice
  | _ => none

/-- Of all this only a signal can be anything. -/
theorem unsignalled {move : Move} (still : ∀ signal, move ≠ .signal signal) :
    lapsed move = false ∧ reopened move = false ∧ move.takesDown = false ∧
      move.fails = false ∧ move.failsForGood = false := by
  cases move with
  | signal signal => exact absurd rfl (still signal)
  | _ => exact ⟨rfl, rfl, rfl, rfl, rfl⟩

end Move

/-- A failure or an idle close, with neither an open nor the owner's disconnect since. -/
def Dropped (moves : List Move) : Prop :=
  Lately (fun _ move => move.fails = true ∨ move = .signal .inactivityDue)
    (fun move => reopened move = true ∨ move.takesDown = true) moves

/-- A failure for good, with neither an open nor the owner's disconnect since. -/
def FailedForGood (moves : List Move) : Prop :=
  Lately (fun _ move => move.failsForGood = true)
    (fun move => reopened move = true ∨ move.takesDown = true) moves

/-- A failure that could pass, or the view's return to a connection that was closed for being
idle, and no open, disconnect or failure for good since. -/
def Recovering (moves : List Move) : Prop :=
  Lately (fun earlier move => lapsed move = true ∨
      (move = .signal (.setVisibility .visible) ∧ IdleClosed earlier))
    (fun move => reopened move = true ∨ move.takesDown = true ∨ move.failsForGood = true) moves

theorem dropped_concat (moves : List Move) (move : Move) :
    Dropped (moves ++ [move]) ↔
      (move.fails = true ∨ move = .signal .inactivityDue) ∨
        (Dropped moves ∧ ¬(reopened move = true ∨ move.takesDown = true)) :=
  lately_concat moves move

theorem failed_for_good_concat (moves : List Move) (move : Move) :
    FailedForGood (moves ++ [move]) ↔
      move.failsForGood = true ∨
        (FailedForGood moves ∧ ¬(reopened move = true ∨ move.takesDown = true)) :=
  lately_concat moves move

theorem recovering_concat (moves : List Move) (move : Move) :
    Recovering (moves ++ [move]) ↔
      (lapsed move = true ∨ (move = .signal (.setVisibility .visible) ∧ IdleClosed moves)) ∨
        (Recovering moves ∧
          ¬(reopened move = true ∨ move.takesDown = true ∨ move.failsForGood = true)) :=
  lately_concat moves move

theorem fails_of_lapsed {move : Move} (lapse : lapsed move = true) : move.fails = true := by
  unfold lapsed at lapse
  split at lapse
  · rfl
  · cases lapse

/-- A failure is one that may pass or one for good. -/
theorem lapsed_of_fails {move : Move} (fails : move.fails = true)
    (passing : move.failsForGood = false) : lapsed move = true := by
  unfold Move.fails at fails
  split at fails
  · simpa [Move.failsForGood, lapsed] using passing
  · cases fails

/-- The mark of an idle close ends with what ends a drop, and with the view's return. -/
theorem unmarks_iff (move : Move) :
    move.Unmarks ↔ (reopened move = true ∨ move.takesDown = true) ∨
      move = .signal (.setVisibility .visible) := by
  cases move with
  | signal signal =>
      cases signal with
      | setVisibility visibility =>
          cases visibility <;> simp [Move.Unmarks, reopened, Move.takesDown]
      | _ => simp [Move.Unmarks, reopened, Move.takesDown]
  | _ => simp [Move.Unmarks, reopened, Move.takesDown]

theorem dropped_of_idle_closed {moves : List Move} (closed : IdleClosed moves) :
    Dropped moves := by
  obtain ⟨earlier, move, later, same, given, lasting⟩ := closed
  exact ⟨earlier, move, later, same, .inr given, fun next member ends =>
    lasting next member ((unmarks_iff next).mpr (.inl ends))⟩

/-- What is told as a return was dropped or closed for being idle. -/
theorem dropped_of_recovering {moves : List Move} (recovering : Recovering moves) :
    Dropped moves := by
  induction moves using List.reverseRecOn with
  | nil => exact absurd recovering not_lately_nil
  | append_singleton moves move induction =>
      rw [recovering_concat] at recovering
      rw [dropped_concat]
      rcases recovering with (lapse | ⟨rfl, closed⟩) | ⟨earlier, lasting⟩
      · exact .inl (.inl (fails_of_lapsed lapse))
      · exact .inr ⟨dropped_of_idle_closed closed, by simp [reopened, Move.takesDown]⟩
      · refine .inr ⟨induction earlier, fun ends => lasting ?_⟩
        exact ends.imp_right .inl

/-- Without a failure for good, a connection that was dropped is told as returning, unless it
was closed for being idle and nobody looked since. -/
theorem recovering_of_dropped {moves : List Move} (dropped : Dropped moves)
    (passing : ¬FailedForGood moves) : Recovering moves ∨ IdleClosed moves := by
  induction moves using List.reverseRecOn with
  | nil => exact absurd dropped not_lately_nil
  | append_singleton moves move induction =>
      rw [dropped_concat] at dropped
      rw [failed_for_good_concat, not_or] at passing
      rw [recovering_concat, idle_closed_concat]
      have lasting : move.failsForGood = false := by simpa using passing.1
      rcases dropped with (fails | closed) | ⟨earlier, stays⟩
      · exact .inl (.inl (.inl (lapsed_of_fails fails lasting)))
      · exact .inr (.inl closed)
      · have kept : ¬FailedForGood moves := fun failed => passing.2 ⟨failed, stays⟩
        rcases induction earlier kept with recovering | closed
        · refine .inl (.inr ⟨recovering, ?_⟩)
          simpa [lasting] using stays
        · by_cases shown : move = .signal (.setVisibility .visible)
          · exact .inl (.inl (.inr ⟨shown, closed⟩))
          · refine .inr (.inr ⟨closed, fun unmarks => stays ?_⟩)
            exact ((unmarks_iff move).mp unmarks).resolve_right shown

namespace Connection

def Output.notice? : Output → Option Notice
  | .openLink => none
  | .notify notice => some notice

variable (settings : Settings) (now : Nat) (draw : Float) (connection : Connection)

/-- The notices among what a signal asks for. -/
theorem step_notices (signal : Signal) :
    (connection.step settings now draw signal).2.filterMap Output.notice? =
      match signal with
      | .failed _ => [.disconnected]
      | .opened => if connection.reconnecting then [.reconnected] else []
      | _ => [] := by
  have silent (order : Connection) : order.connect.2.filterMap Output.notice? = [] := by
    unfold connect
    split
    · rfl
    · rfl
  cases signal with
  | connect => exact silent connection
  | disconnect => rfl
  | destroy => rfl
  | setVisibility visibility =>
      cases visibility with
      | hidden => rfl
      | visible =>
          simp only [step, setVisibility]
          split
          · exact silent _
          · rfl
  | opened =>
      obtain ⟨changes, same⟩ := set_status_frame
        { connection with
          link := some .live, counters := connection.counters.opened, attempt := 0
          closedByInactivity := false } .connected
      simp only [step, opened, same, arm_inactivity_frame]
      split
      · rfl
      · rfl
  | failed error =>
      simp only [step, failed]
      split
      · rfl
      · rfl
  | reconnectDue => exact silent _
  | inactivityDue => rfl

/-- A signal does not count lost notices. -/
theorem step_lost (signal : Signal) :
    (connection.step settings now draw signal).1.counters.noticesDropped =
      connection.counters.noticesDropped := by
  rcases (step_keeps settings now draw connection signal).2 with same | same | same
  · rw [same]
  · rw [same]
    rfl
  · rw [same]
    rfl

end Connection

namespace Dispatcher

def noticesQueued (dispatcher : Dispatcher) : List Notice :=
  (dispatcher.notices.map (·.items)).getD []

def noticesLost (dispatcher : Dispatcher) : Nat :=
  dispatcher.connection.counters.noticesDropped

/-- The notices that a move gives rise to. -/
def announces (now : Nat) (draw : Float) (dispatcher : Dispatcher) : Move → List Notice
  | .signal signal => (dispatcher.signal now draw signal).2.filterMap Connection.Output.notice?
  | _ => []

/-- What becomes of a notice. It goes to the end of its queue; it is lost and counted where the
queue is full; it goes nowhere if there is no queue or nobody to read from it. -/
inductive Sends (notice : Notice) (before after : Dispatcher) : Prop where
  | sent (queue : Channel Notice) (found : before.notices = some queue)
      (receiving : queue.receiving = true) (room : queue.hasRoom = true)
      (appended : after.notices = some { queue with items := queue.items ++ [notice] })
      (lost : after.noticesLost = before.noticesLost)
  | full (queue : Channel Notice) (found : before.notices = some queue)
      (receiving : queue.receiving = true) (room : queue.hasRoom = false)
      (kept : after.notices = before.notices)
      (lost : after.noticesLost = before.noticesLost + 1)
  | closed (gone : ∀ queue, before.notices = some queue → queue.receiving = false)
      (kept : after.notices = before.notices) (lost : after.noticesLost = before.noticesLost)

theorem notify_sends (notice : Notice) (dispatcher : Dispatcher) :
    Sends notice dispatcher (dispatcher.notify notice) := by
  unfold notify
  split
  · next missing => exact .closed (fun queue found => nomatch missing.symm.trans found) rfl rfl
  · next queue found =>
    cases receiving : queue.receiving with
    | false =>
        have gone : queue.offer notice = .gone := by simp [Channel.offer, receiving]
        rw [gone]
        refine .closed (fun other same => ?_) rfl rfl
        rw [← Option.some.inj (found.symm.trans same), receiving]
    | true =>
        cases room : queue.hasRoom with
        | false =>
            have full : queue.offer notice = .full := by simp [Channel.offer, receiving, room]
            rw [full]
            exact .full queue found receiving room rfl rfl
        | true =>
            have sent : queue.offer notice =
                .sent { queue with items := queue.items ++ [notice] } := by
              simp [Channel.offer, receiving, room]
            rw [sent]
            exact .sent queue found receiving room rfl rfl

theorem perform_notices (outputs : List Connection.Output) (dispatcher : Dispatcher) :
    dispatcher.perform outputs =
      (outputs.filterMap Connection.Output.notice?).foldl notify dispatcher := by
  induction outputs generalizing dispatcher with
  | nil => rfl
  | cons output rest induction =>
      cases output with
      | openLink => exact induction dispatcher
      | notify notice => exact induction (dispatcher.notify notice)

/-- A dispatcher that is not served any more still has its queue of notices. -/
theorem after_signal_notices (now : Nat) (draw : Float) (signal : Connection.Signal)
    (dispatcher : Dispatcher) :
    (dispatcher.afterSignal now draw signal).notices =
        (dispatcher.signal now draw signal).1.notices ∧
      (dispatcher.afterSignal now draw signal).noticesLost =
        (dispatcher.signal now draw signal).1.noticesLost := by
  simp only [afterSignal]
  split
  · exact ⟨rfl, rfl⟩
  · exact ⟨rfl, rfl⟩

/-- What a move does with the notices. -/
inductive Passes (before after : Dispatcher) : Move → List Notice → Prop where
  | quiet {move : Move} (untaken : move.takenNotice? = none)
      (kept : after.notices = before.notices) (lost : after.noticesLost = before.noticesLost) :
      Passes before after move []
  | told {move : Move} {notice : Notice} (untaken : move.takenNotice? = none)
      (sends : Sends notice before after) : Passes before after move [notice]
  | taken {notice : Notice} {queue rest : Channel Notice} (found : before.notices = some queue)
      (taken : queue.take? = some (notice, rest)) (left : after.notices = some rest)
      (lost : after.noticesLost = before.noticesLost) :
      Passes before after (.takeNotice notice) []
  | gone (dropped : after.notices = before.notices.map Channel.drop)
      (lost : after.noticesLost = before.noticesLost) : Passes before after .dropNotices []

/-- Only the queue of notices and the count of those that were lost matter. -/
theorem sends_congr {notice : Notice} {before first last after : Dispatcher}
    (sends : Sends notice first last)
    (same : first.notices = before.notices ∧ first.noticesLost = before.noticesLost)
    (final : after.notices = last.notices ∧ after.noticesLost = last.noticesLost) :
    Sends notice before after := by
  cases sends with
  | sent queue found receiving room appended lost =>
      exact .sent queue (same.1.symm.trans found) receiving room (final.1.trans appended)
        (final.2.trans (lost.trans same.2))
  | full queue found receiving room kept lost =>
      exact .full queue (same.1.symm.trans found) receiving room
        (final.1.trans (kept.trans same.1)) (final.2.trans (lost.trans (by rw [same.2])))
  | closed gone kept lost =>
      exact .closed (fun queue found => gone queue (same.1.trans found))
        (final.1.trans (kept.trans same.1)) (final.2.trans (lost.trans same.2))

variable {now : Nat} {draw : Float} {start final before after : Dispatcher} {move : Move}
  {history : List Happening} {told : List Notice}

theorem signal_passes (signal : Connection.Signal) :
    Passes before (before.afterSignal now draw signal) (.signal signal)
      (before.announces now draw (.signal signal)) := by
  let served : Dispatcher := { before with
    connection := (before.connection.step before.settings now draw signal).1 }
  have same : served.notices = before.notices ∧ served.noticesLost = before.noticesLost :=
    ⟨rfl, Connection.step_lost before.settings now draw before.connection signal⟩
  have performed : (before.signal now draw signal).1 =
      (before.announces now draw (.signal signal)).foldl notify served :=
    perform_notices _ _
  have kept := after_signal_notices now draw signal before
  rw [performed] at kept
  have short := Connection.step_notices before.settings now draw before.connection signal
  have silent (untold : before.announces now draw (.signal signal) = []) :
      Passes before (before.afterSignal now draw signal) (.signal signal)
        (before.announces now draw (.signal signal)) := by
    rw [untold] at kept ⊢
    exact .quiet rfl (kept.1.trans same.1) (kept.2.trans same.2)
  have spoken (notice : Notice) (one : before.announces now draw (.signal signal) = [notice]) :
      Passes before (before.afterSignal now draw signal) (.signal signal)
        (before.announces now draw (.signal signal)) := by
    rw [one] at kept ⊢
    exact .told rfl (sends_congr (notify_sends notice served) same kept)
  cases signal with
  | failed error => exact spoken .disconnected short
  | opened =>
      cases flag : before.connection.reconnecting with
      | false => exact silent (short.trans (by rw [flag]; rfl))
      | true => exact spoken .reconnected (short.trans (by rw [flag]; rfl))
  | _ => exact silent short

theorem receive_notices (payload : String) (dispatcher : Dispatcher) :
    (dispatcher.receive payload).notices = dispatcher.notices ∧
      (dispatcher.receive payload).noticesLost = dispatcher.noticesLost := by
  cases parsed : Event.parse dispatcher.settings.payloadLimit payload with
  | error rejection =>
      rw [receive_rejected parsed]
      refine ⟨rfl, ?_⟩
      cases rejection with
      | _ => rfl
  | ok event =>
      rw [receive_accepted parsed]
      obtain ⟨chats, changes, parked, same⟩ := deliver_frame event.route { dispatcher with
        connection :=
          { dispatcher.connection with
            counters := dispatcher.connection.counters.payload.dispatch } }
      rw [same]
      exact ⟨rfl, rfl⟩

theorem step_passes (step : Step now draw before move after) :
    Passes before after move (before.announces now draw move) := by
  cases step with
  | signal signal => exact signal_passes signal
  | payload text =>
      obtain ⟨kept, lost⟩ := receive_notices text before
      exact .quiet rfl kept lost
  | unpark =>
      obtain ⟨chats, changes, parked, same⟩ := unpark_frame before
      exact .quiet rfl (by rw [same]) (by rw [same]; rfl)
  | takeNotice found taken => exact .taken found taken rfl rfl
  | dropNotices => exact .gone rfl rfl
  | _ => exact .quiet rfl rfl rfl

/-- A run with all the notices that it gave rise to, oldest first. -/
inductive Told (start : Dispatcher) : List Happening → List Notice → Dispatcher → Prop where
  | start : Told start [] [] start
  | next {history : List Happening} {told : List Notice} {before after : Dispatcher}
      {happening : Happening} (run : Told start history told before)
      (step : Step happening.now happening.draw before happening.move after) :
      Told start (history ++ [happening])
        (told ++ before.announces happening.now happening.draw happening.move) after

theorem told_run (run : Told start history told final) : Run start history final := by
  induction run with
  | start => exact .start
  | next _ step induction => exact .next induction step

def noticesTaken (history : List Happening) : List Notice :=
  history.filterMap fun happening => happening.move.takenNotice?

theorem notices_taken_concat (history : List Happening) (happening : Happening) :
    noticesTaken (history ++ [happening]) =
      noticesTaken history ++ happening.move.takenNotice?.toList := by
  rw [noticesTaken, List.filterMap_append]
  cases taken : happening.move.takenNotice? <;> simp [noticesTaken, taken]

theorem queued_of_some {queue : Channel Notice} (found : final.notices = some queue) :
    final.noticesQueued = queue.items := by
  rw [noticesQueued, found]
  rfl

theorem queued_congr (same : after.notices = before.notices) :
    after.noticesQueued = before.noticesQueued := by
  rw [noticesQueued, same, noticesQueued]

theorem passes_in_order {taken new : List Notice} (passes : Passes before after move new)
    (ordered : (taken ++ before.noticesQueued).Sublist told) :
    (taken ++ move.takenNotice?.toList ++ after.noticesQueued).Sublist (told ++ new) := by
  cases passes with
  | quiet untaken kept lost =>
      rw [untaken, queued_congr kept, Option.toList_none, List.append_nil, List.append_nil]
      exact ordered
  | told untaken sends =>
      rw [untaken, Option.toList_none, List.append_nil]
      cases sends with
      | sent queue found receiving room appended lost =>
          rw [queued_of_some found] at ordered
          rw [queued_of_some appended, ← List.append_assoc]
          exact ordered.append (List.Sublist.refl _)
      | full queue found receiving room kept lost =>
          rw [queued_congr kept]
          exact ordered.trans (List.sublist_append_left _ _)
      | closed gone kept lost =>
          rw [queued_congr kept]
          exact ordered.trans (List.sublist_append_left _ _)
  | taken found first left lost =>
      rw [queued_of_some found, Channel.take_items first] at ordered
      rw [queued_of_some left, List.append_nil]
      simpa [Move.takenNotice?] using ordered
  | gone dropped lost =>
      have emptied : after.noticesQueued = [] := by
        rw [noticesQueued, dropped]
        cases before.notices <;> rfl
      have untaken : Move.dropNotices.takenNotice? = none := rfl
      rw [emptied, untaken, Option.toList_none, List.append_nil, List.append_nil, List.append_nil]
      exact (List.sublist_append_left _ _).trans ordered

/-- Readers get what was told in its order. -/
theorem told_in_order (run : Told start history told final)
    (fresh : start.noticesQueued = []) :
    (noticesTaken history ++ final.noticesQueued).Sublist told := by
  induction run with
  | start => simp [noticesTaken, fresh]
  | next run step induction =>
      rw [notices_taken_concat]
      exact passes_in_order (step_passes step) induction

/-- Somebody reads the notices. -/
def NoticesRead (dispatcher : Dispatcher) : Prop :=
  ∃ queue, dispatcher.notices = some queue ∧ queue.receiving = true

theorem passes_counted {new : List Notice} (passes : Passes before after move new)
    (read : before.NoticesRead) (lasting : move ≠ .dropNotices) :
    after.NoticesRead ∧
      move.takenNotice?.toList.length + after.noticesQueued.length + after.noticesLost =
        before.noticesQueued.length + before.noticesLost + new.length := by
  obtain ⟨queue, found, receiving⟩ := read
  cases passes with
  | quiet untaken kept lost =>
      rw [untaken, queued_congr kept, lost]
      exact ⟨⟨queue, kept.trans found, receiving⟩, by simp⟩
  | told untaken sends =>
      rw [untaken]
      cases sends with
      | sent other same _ room appended lost =>
          obtain rfl := Option.some.inj (found.symm.trans same)
          rw [queued_of_some appended, queued_of_some found, lost]
          refine ⟨⟨_, appended, receiving⟩, ?_⟩
          simp
          omega
      | full other same _ room kept lost =>
          rw [queued_congr kept, lost]
          refine ⟨⟨queue, kept.trans found, receiving⟩, ?_⟩
          simp
          omega
      | closed gone kept lost =>
          rw [gone queue found] at receiving
          cases receiving
  | taken same first left lost =>
      obtain rfl := Option.some.inj (found.symm.trans same)
      rw [queued_of_some found, queued_of_some left, Channel.take_items first, lost]
      refine ⟨⟨_, left, ?_⟩, ?_⟩
      · exact (Channel.take_receiving first).trans receiving
      · simp [Move.takenNotice?]
        omega
  | gone dropped lost => exact absurd rfl lasting

/-- As long as somebody reads, each notice is taken, waits or is counted as lost. -/
theorem told_counted (run : Told start history told final) (read : start.NoticesRead)
    (fresh : start.noticesQueued = [] ∧ start.noticesLost = 0)
    (lasting : ∀ happening ∈ history, happening.move ≠ .dropNotices) :
    final.NoticesRead ∧
      told.length =
        (noticesTaken history).length + final.noticesQueued.length + final.noticesLost := by
  induction run with
  | start => exact ⟨read, by simp [noticesTaken, fresh.1, fresh.2]⟩
  | @next history told before after happening run step induction =>
      obtain ⟨reading, counted⟩ := induction fun happening member =>
        lasting happening (List.mem_append_left _ member)
      have last := lasting happening (List.mem_append_right _ (List.mem_singleton_self _))
      obtain ⟨still, more⟩ := passes_counted (step_passes step) reading last
      refine ⟨still, ?_⟩
      rw [notices_taken_concat, List.length_append, List.length_append]
      omega

variable {moves : List Move}

theorem signal_recovering (signal : Connection.Signal)
    (alive : before.connection.destroyed = false)
    (marked : before.connection.closedByInactivity = true ↔ IdleClosed moves)
    (recovering : before.connection.reconnecting = true ↔ Recovering moves) :
    (before.connection.step before.settings now draw signal).1.reconnecting = true ↔
      Recovering (moves ++ [.signal signal]) := by
  rw [Connection.step_reconnecting before.settings now draw before.connection signal alive,
    recovering_concat]
  cases signal with
  | setVisibility visibility =>
      cases visibility with
      | hidden =>
          simpa [lapsed, reopened, Move.takesDown, Move.failsForGood] using recovering
      | visible =>
          simp only [Bool.or_eq_true, marked, recovering]
          simp [lapsed, reopened, Move.takesDown, Move.failsForGood, or_comm]
  | failed error =>
      cases lasting : error.transient with
      | false => simp [lapsed, Move.failsForGood, lasting]
      | true => simp [lapsed, lasting]
  | opened => simp [lapsed, reopened]
  | disconnect => simp [lapsed, Move.takesDown]
  | destroy => simp [lapsed, Move.takesDown]
  | connect => simpa [lapsed, reopened, Move.takesDown, Move.failsForGood] using recovering
  | reconnectDue => simpa [lapsed, reopened, Move.takesDown, Move.failsForGood] using recovering
  | inactivityDue => simpa [lapsed, reopened, Move.takesDown, Move.failsForGood] using recovering

/-- Whether the next open is told as a return depends on what happened alone. -/
theorem run_recovering {settings : Settings} {chat changes notices : Option Nat}
    (run : Run (.new settings chat changes notices) history final) :
    final.connection.reconnecting = true ↔ Recovering (history.map (·.move)) := by
  refine run_relates (fun moves connection =>
      connection.reconnecting = true ↔ Recovering moves)
    (iff_of_false Bool.false_ne_true not_lately_nil) (fun _ _ _ same => same) ?_ ?_ run
  · intro past before now draw signal run alive _ recovering
    exact signal_recovering signal alive (run_marked run) recovering
  · intro moves move connection still recovering
    obtain ⟨lapse, opens, down, _, good⟩ := Move.unsignalled still
    rw [recovering_concat, lapse, opens, down, good]
    simpa [still] using recovering

/-- What a step gives rise to, by what happened before. -/
theorem step_announces {settings : Settings} {chat changes notices : Option Nat}
    (run : Run (.new settings chat changes notices) history final)
    (step : Step now draw final move after) :
    (move.fails = true → final.announces now draw move = [.disconnected]) ∧
      (move = .signal .opened → Recovering (history.map (·.move)) →
        final.announces now draw move = [.reconnected]) ∧
      (move = .signal .opened → ¬Recovering (history.map (·.move)) →
        final.announces now draw move = []) ∧
      (move.fails = false → move ≠ .signal .opened → final.announces now draw move = []) := by
  rw [← run_recovering run]
  rcases step_cases step with ⟨signal, rfl, _⟩ | ⟨still, _⟩
  · have notices : final.announces now draw (.signal signal) = _ :=
      Connection.step_notices final.settings now draw final.connection signal
    rw [notices]
    cases signal with
    | failed error => simp [Move.fails]
    | opened => simp [Move.fails]
    | _ => simp [Move.fails]
  · have silent : final.announces now draw move = [] := by
      cases move with
      | signal signal => exact absurd rfl (still signal)
      | _ => rfl
    obtain ⟨_, _, _, passes, _⟩ := Move.unsignalled still
    simp [silent, passes, still]

/-- A drop is told once for each failure. -/
theorem told_drops {settings : Settings} {chat changes notices : Option Nat}
    (run : Told (.new settings chat changes notices) history told final) :
    told.count .disconnected = history.countP (·.move.fails) := by
  induction run with
  | start => rfl
  | @next history told before after happening run step induction =>
      obtain ⟨dropped, returned, opened, silent⟩ := step_announces (told_run run) step
      rw [List.count_append, List.countP_append, List.countP_singleton, induction]
      congr 1
      cases fails : happening.move.fails with
      | true =>
          rw [dropped fails]
          rfl
      | false =>
          by_cases opens : happening.move = .signal .opened
          · by_cases recovering : Recovering (history.map (·.move))
            · rw [returned opens recovering]
              rfl
            · rw [opened opens recovering]
              rfl
          · rw [silent fails opens]
            rfl

/-- Observers are told of each failure once, and of no other drop. An open is told as a return
exactly if the connection is recovering, and then it was dropped or closed for being idle.
Conversely a connection that was, is recovering, unless it failed for good, or was closed for
being idle and nobody looked since. Notices reach their queue in order, and one that does not
found the queue full and is counted, or found nobody to read it. -/
theorem notices_truthful (settings : Settings) (chat changes notices : Option Nat)
    {history : List Happening} {told : List Notice} {final : Dispatcher}
    (run : Told (.new settings chat changes notices) history told final) :
    (∀ (now : Nat) (draw : Float) (move : Move) (after : Dispatcher),
      Step now draw final move after →
        ((move.fails = true → final.announces now draw move = [.disconnected]) ∧
          (move = .signal .opened → Recovering (history.map (·.move)) →
            final.announces now draw move = [.reconnected]) ∧
          (move = .signal .opened → ¬Recovering (history.map (·.move)) →
            final.announces now draw move = []) ∧
          (move.fails = false → move ≠ .signal .opened →
            final.announces now draw move = [])) ∧
        (∀ notice, final.announces now draw move = [notice] → Sends notice final after) ∧
        (final.announces now draw move = [] → after.noticesLost = final.noticesLost)) ∧
    (Recovering (history.map (·.move)) → Dropped (history.map (·.move))) ∧
    (¬FailedForGood (history.map (·.move)) → ¬IdleClosed (history.map (·.move)) →
      Dropped (history.map (·.move)) → Recovering (history.map (·.move))) ∧
    told.count .disconnected = history.countP (·.move.fails) ∧
    (noticesTaken history ++ final.noticesQueued).Sublist told ∧
    (notices.isSome → (∀ happening ∈ history, happening.move ≠ .dropNotices) →
      told.length =
        (noticesTaken history).length + final.noticesQueued.length + final.noticesLost) := by
  have fresh : (Dispatcher.new settings chat changes notices).noticesQueued = [] := by
    cases notices <;> rfl
  refine ⟨?_, dropped_of_recovering, ?_, told_drops run, told_in_order run fresh, ?_⟩
  · intro now draw move after step
    have passes := step_passes step
    refine ⟨step_announces (told_run run) step, ?_, ?_⟩
    · intro notice one
      rw [one] at passes
      cases passes with
      | told _ sends => exact sends
    · intro unspoken
      rw [unspoken] at passes
      cases passes with
      | quiet _ _ lost => exact lost
      | taken _ _ _ lost => exact lost
      | gone _ lost => exact lost
  · intro passing opened dropped
    exact (recovering_of_dropped dropped passing).resolve_right opened
  · intro given lasting
    obtain ⟨capacity, rfl⟩ := Option.isSome_iff_exists.mp given
    exact (told_counted run ⟨_, rfl, rfl⟩ ⟨fresh, rfl⟩ lasting).2

/-- A queue for one notice, a failure and an open after it. -/
def crowdedNotices : Dispatcher :=
  ((((Dispatcher.new .standard none none (some 1)).afterSignal 0 0 .connect).afterSignal 1 0
    (.failed (.connect "refused"))).afterSignal 2 0 .connect).afterSignal 3 0 .opened

/-- Both are told, and the second is lost and counted. -/
theorem crowded_notices_truthful :
    ∃ history, Told (.new .standard none none (some 1)) history [.disconnected, .reconnected]
        crowdedNotices ∧
      (∀ happening ∈ history, happening.move ≠ .dropNotices) ∧
      crowdedNotices.noticesQueued = [.disconnected] ∧ crowdedNotices.noticesLost = 1 ∧
      [Notice.disconnected, .reconnected].length = (noticesTaken history).length +
        crowdedNotices.noticesQueued.length + crowdedNotices.noticesLost := by
  have connecting : Told (.new .standard none none (some 1))
      ([] ++ [⟨0, 0, .signal .connect⟩]) [] _ :=
    .next .start (.signal .connect rfl trivial)
  have dropped := @Told.next _ _ _ _ _ ⟨1, 0, .signal (.failed (.connect "refused"))⟩ connecting
    (.signal _ rfl ⟨nofun, rfl⟩)
  have again := @Told.next _ _ _ _ _ ⟨2, 0, .signal .connect⟩ dropped (.signal .connect rfl trivial)
  have opened := @Told.next _ _ _ _ _ ⟨3, 0, .signal .opened⟩ again (.signal .opened rfl rfl)
  have lasting : ∀ happening ∈ [Happening.mk 0 0 (.signal .connect),
      ⟨1, 0, .signal (.failed (.connect "refused"))⟩, ⟨2, 0, .signal .connect⟩,
      ⟨3, 0, .signal .opened⟩], happening.move ≠ .dropNotices := by
    simp
  have truthful := notices_truthful .standard none none (some 1) opened
  exact ⟨_, opened, lasting, rfl, rfl, truthful.2.2.2.2.2 rfl lasting⟩

/-- Closed for being idle and ordered to connect. -/
def orderedBack : Dispatcher := closedIdle.afterSignal 300000000003 0 .connect

/-- Failed for good and ordered to connect. -/
def orderedAnew : Dispatcher :=
  (((Dispatcher.new .standard none none none).afterSignal 0 0 .connect).afterSignal 1 0
    (.failed .closed)).afterSignal 2 0 .connect

/-- After an idle close and an order to connect the open is not told, and neither is the one
after a failure for good. -/
theorem ordered_opens_untold :
    (∃ history after, Run (.new .standard none none none) history orderedBack ∧
      Dropped (history.map (·.move)) ∧
      Step 300000000004 0 orderedBack (.signal .opened) after ∧
      orderedBack.announces 300000000004 0 (.signal .opened) = []) ∧
    (∃ history after, Run (.new .standard none none none) history orderedAnew ∧
      Dropped (history.map (·.move)) ∧ Step 3 0 orderedAnew (.signal .opened) after ∧
      orderedAnew.announces 3 0 (.signal .opened) = []) := by
  have back := @Run.next _ _ _ _ ⟨300000000003, 0, .signal .connect⟩ closed_idle_run
    (.signal _ rfl trivial)
  have connecting : Run (.new .standard none none none) ([] ++ [⟨0, 0, .signal .connect⟩]) _ :=
    .next .start (.signal .connect rfl trivial)
  have failed := @Run.next _ _ _ _ ⟨1, 0, .signal (.failed .closed)⟩ connecting
    (.signal _ rfl ⟨nofun, rfl⟩)
  have anew := @Run.next _ _ _ _ ⟨2, 0, .signal .connect⟩ failed (.signal .connect rfl trivial)
  refine ⟨⟨_, _, back, ?_, .signal .opened rfl rfl, rfl⟩,
    ⟨_, _, anew, ?_, .signal .opened rfl rfl, rfl⟩⟩
  · exact ⟨[.signal .connect, .signal .opened, .signal (.setVisibility .hidden)],
      .signal .inactivityDue, [.signal .connect], rfl, .inr rfl, by
        simp [reopened, Move.takesDown]⟩
  · exact ⟨[.signal .connect], .signal (.failed .closed), [.signal .connect], rfl, .inl rfl, by
        simp [reopened, Move.takesDown]⟩

end Dispatcher

end LiveChat.Stream
