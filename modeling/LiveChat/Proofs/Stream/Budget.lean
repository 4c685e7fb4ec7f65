import LiveChat.Proofs.Stream.Moves
import Mathlib.Data.List.DropRight
import Mathlib.Data.List.Infix

/-!
How often a connection that drops is tried again. The counter of the connection is a function of
the failures since the last open alone. What an owner orders in between, and a failure for good,
leave it as it is, and it stays where it is once no attempt is left.
-/

set_option autoImplicit false

namespace LiveChat.Stream

/-- A failure after which another attempt may succeed. -/
def lapsed : Move → Bool
  | .signal (.failed error) => error.transient
  | _ => false

def reopened : Move → Bool
  | .signal .opened => true
  | _ => false

/-- The lapses since the last open, or since the start. -/
def lapses (moves : List Move) : Nat := (moves.rtakeWhile (!reopened ·)).countP lapsed

/-- The lapses that were fewer than `limit` in a row, so that another attempt followed each. -/
def planned (limit : Nat) (moves : List Move) : Nat :=
  moves.inits.countP fun past => past.getLast?.any lapsed && lapses past < limit

theorem lapses_reopened (moves : List Move) {move : Move} (opens : reopened move = true) :
    lapses (moves ++ [move]) = 0 := by
  rw [lapses, List.rtakeWhile_concat_neg _ _ _ (by simp [opens]), List.countP_nil]

theorem lapses_unopened (moves : List Move) {move : Move} (unopened : reopened move = false) :
    lapses (moves ++ [move]) = lapses moves + if lapsed move then 1 else 0 := by
  rw [lapses, List.rtakeWhile_concat_pos _ _ _ (by simp [unopened]), List.countP_append,
    List.countP_singleton]
  rfl

theorem lapses_lapsed (moves : List Move) {error : StreamError} (lasting : error.transient = true) :
    lapses (moves ++ [.signal (.failed error)]) = lapses moves + 1 := by
  rw [lapses_unopened moves rfl, lapsed, lasting, if_pos rfl]

theorem planned_concat (limit : Nat) (moves : List Move) (move : Move) :
    planned limit (moves ++ [move]) =
      planned limit moves +
        if lapsed move = true ∧ lapses (moves ++ [move]) < limit then 1 else 0 := by
  rw [planned, List.inits_append, List.countP_append]
  simp [planned]

namespace Connection

/-- What a move does with the attempts that are left. -/
inductive Spends (settings : Settings) (now : Nat) (draw : Float) (before after : Connection) :
    Move → Prop where
  | opened (attempt : after.attempt = 0)
      (planned : after.counters.reconnectsScheduled = before.counters.reconnectsScheduled) :
      Spends settings now draw before after (.signal .opened)
  | again {error : StreamError} (lasting : error.transient = true)
      (left : before.attempt + 1 < settings.policy.maxAttempts)
      (attempt : after.attempt = before.attempt + 1) (status : after.status = .reconnecting)
      (alarm : after.reconnectAt =
        some (now + (delay settings before.attempt draw).nanoseconds))
      (planned : after.counters.reconnectsScheduled = before.counters.reconnectsScheduled + 1) :
      Spends settings now draw before after (.signal (.failed error))
  | spent {error : StreamError} (lasting : error.transient = true)
      (last : settings.policy.maxAttempts ≤ before.attempt + 1)
      (attempt : after.attempt = before.attempt) (status : after.status = .disconnected)
      (alarm : after.reconnectAt = none)
      (planned : after.counters.reconnectsScheduled = before.counters.reconnectsScheduled) :
      Spends settings now draw before after (.signal (.failed error))
  | other {move : Move} (steady : lapsed move = false) (unopened : reopened move = false)
      (attempt : after.attempt = before.attempt)
      (planned : after.counters.reconnectsScheduled = before.counters.reconnectsScheduled) :
      Spends settings now draw before after move

variable (settings : Settings) (now : Nat) (draw : Float) (connection : Connection)

theorem step_spends (signal : Signal) (alive : connection.destroyed = false) :
    Spends settings now draw connection (connection.step settings now draw signal).1
      (.signal signal) := by
  cases signal with
  | connect =>
      have same := connect_frame connection alive
      exact .other rfl rfl (by simp only [step, same]) (by simp only [step, same])
  | disconnect =>
      obtain ⟨changes, same⟩ := disconnect_frame connection
      exact .other rfl rfl (by simp only [step, same]) (by simp only [step, same])
  | destroy =>
      obtain ⟨changes, same⟩ := disconnect_frame connection
      exact .other rfl rfl (by simp [step, destroy, alive, same])
        (by simp [step, destroy, alive, same])
  | setVisibility visibility =>
      cases visibility with
      | hidden =>
          have same := set_hidden_frame settings now connection
          exact .other rfl rfl (by simp only [step, same]) (by simp only [step, same])
      | visible =>
          have same := set_visible_frame settings now connection alive
          refine .other rfl rfl ?_ ?_
          · simp only [step, same]
            split <;> rfl
          · simp only [step, same]
            split <;> rfl
  | opened =>
      obtain ⟨changes, same⟩ := opened_frame settings now connection
      exact .opened (by simp only [step, same]) (by simp only [step, same]; rfl)
  | failed error =>
      obtain ⟨changes, ⟨final, same⟩ | ⟨lasting, spent, same⟩ | ⟨lasting, left, same⟩⟩ :=
        failed_cases settings now draw connection error
      · exact .other final rfl (by simp only [step, same]) (by simp only [step, same])
      · exact .spent lasting spent (by simp only [step, same]) (by simp only [step, same])
          (by simp only [step, same]) (by simp only [step, same])
      · exact .again lasting left (by simp only [step, same]) (by simp only [step, same])
          (by simp only [step, same]) (by simp only [step, same]; rfl)
  | reconnectDue =>
      have same := reconnect_due_frame settings now draw connection alive
      rw [connect_frame connection alive] at same
      exact .other rfl rfl (by rw [same]) (by rw [same])
  | inactivityDue =>
      obtain ⟨changes, same⟩ := idle_close_frame connection
      refine .other rfl rfl ?_ ?_
      · simp only [step, same]
        split <;> rfl
      · simp only [step, same]
        split <;> rfl

end Connection

namespace Dispatcher

open Connection (Spends delay)

variable {now : Nat} {draw : Float} {before after : Dispatcher} {move : Move}

theorem deliver_connection (route : Route) (dispatcher : Dispatcher) :
    (dispatcher.deliver route).connection = dispatcher.connection := by
  obtain ⟨chats, changes, parked, same⟩ := deliver_frame route dispatcher
  rw [same]

theorem receive_spends (payload : String) (dispatcher : Dispatcher) :
    Spends dispatcher.settings now draw dispatcher.connection
      (dispatcher.receive payload).connection (.payload payload) := by
  cases parsed : Event.parse dispatcher.settings.payloadLimit payload with
  | error rejection =>
      rw [receive_rejected parsed]
      refine .other rfl rfl rfl ?_
      cases rejection <;> rfl
  | ok event =>
      rw [receive_accepted parsed, deliver_connection]
      exact .other rfl rfl rfl rfl

theorem move_spends (step : Step now draw before move after) :
    Spends before.settings now draw before.connection after.connection move := by
  cases step with
  | signal signal alive admitted =>
      obtain ⟨notices, lost, parked, same⟩ := after_signal_frame now draw signal before
      have spends := Connection.step_spends before.settings now draw before.connection signal alive
      rw [same]
      cases spends with
      | opened attempt planned => exact .opened attempt planned
      | again lasting left attempt status alarm planned =>
          exact .again lasting left attempt status alarm planned
      | spent lasting last attempt status alarm planned =>
          exact .spent lasting last attempt status alarm planned
      | other steady unopened attempt planned => exact .other steady unopened attempt planned
  | payload text => exact receive_spends text before
  | unpark =>
      obtain ⟨chats, changes, parked, same⟩ := unpark_frame before
      rw [same]
      exact .other rfl rfl rfl rfl
  | _ => exact .other rfl rfl rfl rfl

/-- The counters of attempts are functions of what happened. -/
theorem run_spent {settings : Settings} {chat changes notices : Option Nat}
    {history : List Happening} {final : Dispatcher}
    (run : Run (.new settings chat changes notices) history final) :
    final.connection.attempt =
        min (lapses (history.map (·.move))) (max settings.policy.maxAttempts 1 - 1) ∧
      final.connection.counters.reconnectsScheduled =
        planned settings.policy.maxAttempts (history.map (·.move)) := by
  induction run with
  | start => exact ⟨(Nat.zero_min _).symm, rfl⟩
  | @next history before after happening run step induction =>
      obtain ⟨attempt, scheduled⟩ := induction
      have spends := move_spends step
      have same : before.settings = settings := run_settings run
      rw [same] at spends
      rw [List.map_append, List.map_singleton, planned_concat]
      generalize happening.move = move at spends ⊢
      cases spends with
      | opened zero planned =>
          rw [lapses_reopened _ rfl, planned, scheduled, zero]
          exact ⟨(Nat.zero_min _).symm, rfl⟩
      | again lasting left counted status alarm planned =>
          rw [lapses_lapsed _ lasting, planned, counted, scheduled, if_pos ⟨lasting, by omega⟩]
          exact ⟨by omega, rfl⟩
      | spent lasting last counted status alarm planned =>
          -- The counter stays where it is from here on, and the lapses go on.
          have enough : ¬lapses (history.map (·.move)) + 1 < settings.policy.maxAttempts := by
            omega
          rw [lapses_lapsed _ lasting, planned, counted, scheduled,
            if_neg (fun more => enough more.2)]
          exact ⟨by omega, rfl⟩
      | other steady unopened counted planned =>
          rw [lapses_unopened _ unopened, steady, planned, counted, scheduled]
          exact ⟨by simpa using attempt, by simp⟩

/-- Failures in a row are counted up to the last that leaves an attempt, and only an open makes
them start anew. Each plans another attempt, after a delay that grows with their number and that
the next draw scales, until as many have come as the policy allows. -/
theorem retries_bounded (settings : Settings) (chat changes notices : Option Nat)
    (source : Nat → Float) {history : List Happening} {final : Dispatcher}
    (run : Run (.new settings chat changes notices) history final) :
    final.connection.attempt =
        min (lapses (history.map (·.move))) (max settings.policy.maxAttempts 1 - 1) ∧
      final.connection.counters.reconnectsScheduled =
        planned settings.policy.maxAttempts (history.map (·.move)) ∧
      (∀ (now number : Nat) (error : StreamError) (after : Dispatcher),
        error.transient = true → number = lapses (history.map (·.move)) + 1 →
        Step now (source (planned settings.policy.maxAttempts (history.map (·.move)))) final
          (.signal (.failed error)) after →
        (number < settings.policy.maxAttempts →
          after.connection.status = .reconnecting ∧
            ∃ due, after.connection.reconnectAt = some due ∧
              ∀ pause, settings.policy.jittered? (number - 1)
                  (source (planned settings.policy.maxAttempts (history.map (·.move)))) =
                    some pause →
                due = now + pause.nanoseconds) ∧
          (settings.policy.maxAttempts ≤ number →
            after.connection.status = .disconnected ∧ after.connection.reconnectAt = none)) ∧
      ∀ (now : Nat) (draw : Float) (move : Move) (after : Dispatcher),
        Step now draw final move after →
        (move = .signal .opened → after.connection.attempt = 0) ∧
          (final.connection.attempt ≠ 0 → after.connection.attempt = 0 →
            move = .signal .opened) := by
  obtain ⟨attempt, scheduled⟩ := run_spent run
  have same : final.settings = settings := run_settings run
  refine ⟨attempt, scheduled, ?_, ?_⟩
  · rintro now number error after lasting rfl step
    have spends := move_spends step
    rw [same] at spends
    cases spends with
    | again _ left _ status alarm _ =>
        have before : final.connection.attempt = lapses (history.map (·.move)) := by omega
        refine ⟨fun _ => ⟨status, _, alarm, ?_⟩, by omega⟩
        intro pause drawn
        rw [before, delay, Nat.add_sub_cancel] at *
        rw [drawn, Option.getD_some]
    | spent _ last _ status alarm _ => exact ⟨by omega, fun _ => ⟨status, alarm⟩⟩
    | other steady => exact absurd (steady.symm.trans lasting) Bool.false_ne_true
  · intro now draw move after step
    have spends := move_spends step
    cases spends with
    | opened zero _ => exact ⟨fun _ => zero, fun _ _ => rfl⟩
    | again _ _ counted =>
        refine ⟨?_, fun _ zero => by omega⟩
        rintro ⟨⟩
    | spent _ _ counted =>
        refine ⟨?_, fun positive zero => by omega⟩
        rintro ⟨⟩
    | other _ unopened counted =>
        refine ⟨?_, fun positive zero => by omega⟩
        rintro rfl
        cases unopened

/-- A policy with two attempts. -/
def twice : Settings :=
  { Settings.standard with policy := { ReconnectPolicy.standard with maxAttempts := 2 } }

/-- Connected again by its owner after one failure. -/
def connectedAgain : Dispatcher :=
  (((Dispatcher.new twice none none none).afterSignal 0 0 .connect).afterSignal 1 0
    (.failed (.connect "refused"))).afterSignal 2 0 .connect

/-- The second failure in a row is the last one, although the owner connected in between. -/
theorem second_failure_final :
    ∃ history after, Run (.new twice none none none) history connectedAgain ∧
      lapses (history.map (·.move)) = 1 ∧ connectedAgain.connection.attempt = 1 ∧
      Step 3 0 connectedAgain (.signal (.failed (.broken "reset"))) after ∧
      after.connection.status = .disconnected ∧ after.connection.reconnectAt = none := by
  have connecting : Run (.new twice none none none) ([] ++ [⟨0, 0, .signal .connect⟩]) _ :=
    .next .start (.signal .connect rfl trivial)
  have dropped := @Run.next _ _ _ _ ⟨1, 0, .signal (.failed (.connect "refused"))⟩ connecting
    (.signal _ rfl ⟨nofun, rfl⟩)
  have again := @Run.next _ _ _ _ ⟨2, 0, .signal .connect⟩ dropped (.signal .connect rfl trivial)
  have last : Step 3 0 connectedAgain (.signal (.failed (.broken "reset"))) _ :=
    .signal _ rfl ⟨nofun, rfl⟩
  have bounded := retries_bounded twice none none none (fun _ => 0) again
  have ended := bounded.2.2.1 3 2 (.broken "reset") _ rfl rfl last
  exact ⟨_, _, again, rfl, bounded.1, last, ended.2 (Nat.le_refl 2)⟩

end Dispatcher

end LiveChat.Stream
