import LiveChat.Proofs.Rehearsal.Turns
import LiveChat.Proofs.Stream.Teardown

/-!
The connection with the calls of its owners, of which there may be any number. Calls are taken one
at a time, oldest first, and a call comes back once it has taken effect; the end of the connection
closes those that wait and all that are made later. A connection that was
disconnected is quiet until somebody orders it to connect, and one that was destroyed for ever.
-/

set_option autoImplicit false

namespace LiveChat.Rehearsal

open LiveChat.Stream (Dispatcher Connection Happening Move)

def Order.move : Order → Move
  | .signal given => .signal given
  | .report => .report

/-- What a call comes back with that was taken. -/
def Order.result (dispatcher : Dispatcher) : Order → Answer
  | .signal _ => .done
  | .report => .report dispatcher.connection

structure Call where
  order : Order
  /-- What it came back with, if it did. -/
  answer : Option Answer

/-- A call that still waits comes back without effect. -/
def Call.close (call : Call) : Call := { call with answer := call.answer.or (some .closed) }

structure Desk where
  dispatcher : Dispatcher
  /-- Every call that was made, oldest first. -/
  calls : List Call

namespace Desk

def new (settings : Stream.Settings) (chat changes notices : Option Nat) : Desk :=
  { dispatcher := .new settings chat changes notices, calls := [] }

def call (order : Order) (desk : Desk) : Desk :=
  let answer := if desk.dispatcher.connection.destroyed then some Answer.closed else none
  { desk with calls := desk.calls ++ [⟨order, answer⟩] }

/-- The dispatcher has gone on, maybe to its end. -/
def goOn (dispatcher : Dispatcher) (calls : List Call) : Desk :=
  { dispatcher
    calls := if dispatcher.connection.destroyed then calls.map Call.close else calls }

/-- What happens without a call. The last owner's leave destroys the connection. -/
def Uncalled : Move → Prop
  | .signal .connect => False
  | .signal .disconnect => False
  | .signal (.setVisibility _) => False
  | .report => False
  | _ => True

inductive Step : Desk → Option Happening → Desk → Prop where
  | call {desk : Desk} {order : Order} (proper : order.Proper) : Step desk none (desk.call order)
  | serve {desk : Desk} {order : Order} {dispatcher : Dispatcher} {taken waiting : List Call}
      (now : Nat) (draw : Float) (calls : desk.calls = taken ++ ⟨order, none⟩ :: waiting)
      (first : ∀ call ∈ taken, call.answer.isSome)
      (step : Dispatcher.Step now draw desk.dispatcher order.move dispatcher) :
      Step desk (some ⟨now, draw, order.move⟩)
        (goOn dispatcher (taken ++ ⟨order, some (order.result dispatcher)⟩ :: waiting))
  | move {desk : Desk} {dispatcher : Dispatcher} {move : Move} (now : Nat) (draw : Float)
      (uncalled : Uncalled move) (step : Dispatcher.Step now draw desk.dispatcher move dispatcher) :
      Step desk (some ⟨now, draw, move⟩) (goOn dispatcher desk.calls)

/-- What the dispatcher asks of its surroundings meanwhile. -/
def asks (happening : Option Happening) (desk : Desk) : List Connection.Output :=
  match happening with
  | none => []
  | some happening => desk.dispatcher.asks happening.now happening.draw happening.move

/-- Any number of steps, with all that happened to the dispatcher and all that it asked for. -/
inductive Run (start : Desk) : List Happening → List Connection.Output → Desk → Prop where
  | start : Run start [] [] start
  | next {history : List Happening} {asked : List Connection.Output} {before after : Desk}
      {happening : Option Happening} (run : Run start history asked before)
      (step : Step before happening after) :
      Run start (history ++ happening.toList) (asked ++ before.asks happening) after

variable {start before after final desk : Desk} {history : List Happening}
  {asked : List Connection.Output} {happening : Option Happening}

theorem step_dispatcher (step : Step before happening after) :
    Dispatcher.Run before.dispatcher happening.toList after.dispatcher := by
  cases step with
  | call proper => exact .start
  | serve now draw calls first step => exact @Dispatcher.Run.next _ [] _ _ ⟨_, _, _⟩ .start step
  | move now draw uncalled step => exact @Dispatcher.Run.next _ [] _ _ ⟨_, _, _⟩ .start step

theorem run_dispatcher (run : Run start history asked final) :
    Dispatcher.Run start.dispatcher history final.dispatcher := by
  induction run with
  | start => exact .start
  | next run step induction => exact induction.append (step_dispatcher step)

/-- A call comes back because the connection has ended, or because it was taken. -/
theorem returned_cases {number : Nat} {order : Order} {answer : Answer}
    (step : Step before happening after)
    (returned : after.calls[number]? = some ⟨order, some answer⟩)
    (waited : before.calls[number]? ≠ after.calls[number]?) :
    after.dispatcher.connection.destroyed = true ∨
      ∃ now draw, Dispatcher.Step now draw before.dispatcher order.move after.dispatcher := by
  cases ended : after.dispatcher.connection.destroyed with
  | true => exact .inl rfl
  | false =>
      right
      -- The connection lives on, so of the calls that waited only one that was served came back.
      cases step with
      | call proper =>
          have alive : before.dispatcher.connection.destroyed = false := ended
          simp only [call, alive, Bool.false_eq_true, if_false] at returned waited
          rcases Nat.lt_or_ge number before.calls.length with old | new
          · exact absurd (List.getElem?_append_left old).symm waited
          · rw [List.getElem?_append_right new] at returned
            simpa using List.mem_of_getElem? returned
      | @serve made dispatcher taken waiting now draw calls first step =>
          have alive : dispatcher.connection.destroyed = false := ended
          simp only [goOn, alive, Bool.false_eq_true, if_false, calls] at returned waited
          rcases Nat.lt_trichotomy number taken.length with earlier | this | later
          · rw [List.getElem?_append_left earlier, List.getElem?_append_left earlier] at waited
            exact absurd rfl waited
          · rw [this, List.getElem?_append_right (Nat.le_refl _), Nat.sub_self,
              List.getElem?_cons_zero] at returned
            obtain ⟨rfl, _⟩ := Call.mk.inj (Option.some.inj returned)
            exact ⟨now, draw, step⟩
          · obtain ⟨more, rfl⟩ := Nat.exists_eq_add_of_lt later
            rw [Nat.add_assoc, List.getElem?_append_right (Nat.le_add_right _ _),
              List.getElem?_append_right (Nat.le_add_right _ _), Nat.add_sub_cancel_left] at waited
            exact absurd rfl waited
      | @move dispatcher move now draw uncalled step =>
          have alive : dispatcher.connection.destroyed = false := ended
          simp only [goOn, alive, Bool.false_eq_true, if_false] at waited
          exact absurd rfl waited

/-- When an order to disconnect comes back, the connection is dormant; when one to destroy it does,
it is gone. -/
theorem returned_dormant {settings : Stream.Settings} {chat changes notices : Option Nat}
    {number : Nat} {order : Order} {answer : Answer}
    (run : Run (.new settings chat changes notices) history asked before)
    (step : Step before happening after)
    (returned : after.calls[number]? = some ⟨order, some answer⟩)
    (waited : before.calls[number]? ≠ after.calls[number]?) :
    (order = .signal .disconnect → after.dispatcher.connection.Dormant) ∧
      (order = .signal .destroy → after.dispatcher.Gone) := by
  have gone : after.dispatcher.connection.destroyed = true → after.dispatcher.Gone :=
    Dispatcher.run_gone (run_dispatcher (run.next step))
  rcases returned_cases step returned waited with ended | ⟨now, draw, taken⟩
  · exact ⟨fun _ => (gone ended).dormant, fun _ => gone ended⟩
  · constructor
    · rintro rfl
      exact Dispatcher.step_disconnect taken
    · rintro rfl
      exact Dispatcher.step_destroy taken

theorem step_silent (step : Step before happening after)
    (dormant : before.dispatcher.connection.Dormant)
    (unconnected : ∀ each ∈ happening.toList, each.move ≠ .signal .connect) :
    before.asks happening = [] := by
  cases step with
  | call proper => rfl
  | serve now draw calls first step =>
      have other := unconnected _ (List.mem_singleton_self _)
      exact (Dispatcher.step_dormant step dormant other).2.1
  | move now draw uncalled step =>
      have other := unconnected _ (List.mem_singleton_self _)
      exact (Dispatcher.step_dormant step dormant other).2.1

/-- While a dormant connection is not ordered to connect, it asks for nothing. -/
theorem run_silent (run : Run start history asked final)
    (dormant : start.dispatcher.connection.Dormant)
    (unconnected : ∀ happening ∈ history, happening.move ≠ .signal .connect) : asked = [] := by
  induction run with
  | start => rfl
  | @next history asked before after happening run step induction =>
      have earlier := fun other member => unconnected other (List.mem_append_left _ member)
      have quiet := Dispatcher.run_quiet (run_dispatcher run) dormant earlier
      have silent := step_silent step quiet.dormant
        fun other member => unconnected other (List.mem_append_right _ member)
      rw [induction earlier, silent, List.append_nil]

/-- A desk whose calls are all closed from this number on. -/
def ClosedFrom (count : Nat) (desk : Desk) : Prop :=
  ∀ number call, count ≤ number → desk.calls[number]? = some call → call.answer = some .closed

theorem step_closed {count : Nat} (step : Step before happening after)
    (gone : before.dispatcher.Gone) (closed : before.ClosedFrom count) :
    after.ClosedFrom count := by
  intro number call later found
  cases step with
  | call proper =>
      simp only [Desk.call, gone.destroyed, if_true] at found
      rcases Nat.lt_or_ge number before.calls.length with old | new
      · rw [List.getElem?_append_left old] at found
        exact closed number call later found
      · rw [List.getElem?_append_right new] at found
        rw [List.mem_singleton.mp (List.mem_of_getElem? found)]
  | @serve order dispatcher taken waiting now draw calls first step =>
      obtain ⟨_, _, unsignalled, unreported⟩ := Dispatcher.step_destroyed step gone.destroyed
      cases order with
      | signal signal => exact absurd rfl (unsignalled signal)
      | report => exact absurd rfl unreported
  | @move dispatcher move now draw uncalled step =>
      simp only [goOn] at found
      split at found
      · rw [List.getElem?_map, Option.map_eq_some_iff] at found
        obtain ⟨earlier, present, rfl⟩ := found
        simp [Call.close, closed number earlier later present]
      · exact closed number call later found

/-- What is asked of a connection that is gone comes back at once, and without effect. -/
theorem run_closed (run : Run start history asked final) (gone : start.dispatcher.Gone) :
    final.ClosedFrom start.calls.length := by
  induction run with
  | start =>
      intro number call later found
      rw [List.getElem?_eq_none later] at found
      cases found
  | next run step induction =>
      exact step_closed step (Dispatcher.run_unordered (run_dispatcher run) gone).1 induction

/-- When an order to disconnect has come back, the connection is quiet until it is ordered to
connect: no link is asked for, nobody is told anything, no alarm is set, nothing is read, and of
all events only the one that was parked can still arrive. When an order to destroy it has come
back, it is quiet whatever is asked of it, nothing is parked, and every later call comes back
closed. -/
theorem teardown_quiet (settings : Stream.Settings) (chat changes notices : Option Nat)
    {earlier later : List Happening} {asked asks : List Connection.Output}
    {happening : Option Happening} {before after final : Desk} {number : Nat} {order : Order}
    {answer : Answer} (run : Run (.new settings chat changes notices) earlier asked before)
    (step : Step before happening after)
    (returned : after.calls[number]? = some ⟨order, some answer⟩)
    (waited : before.calls[number]? ≠ after.calls[number]?)
    (rest : Run after later asks final) :
    (order = .signal .disconnect →
      (∀ happening ∈ later, happening.move ≠ .signal .connect) →
        asks = [] ∧ after.dispatcher.Quiet later final.dispatcher) ∧
    (order = .signal .destroy →
      asks = [] ∧ after.dispatcher.Quiet later final.dispatcher ∧ after.dispatcher.parked = none ∧
        final.ClosedFrom after.calls.length) := by
  obtain ⟨dormant, gone⟩ := returned_dormant run step returned waited
  have resting := run_dispatcher rest
  constructor
  · intro disconnect unconnected
    exact ⟨run_silent rest (dormant disconnect) unconnected,
      Dispatcher.run_quiet resting (dormant disconnect) unconnected⟩
  · intro destroy
    have ended := gone destroy
    have unconnected : ∀ happening ∈ later, happening.move ≠ .signal .connect :=
      fun happening member => (Dispatcher.run_unordered resting ended).2 happening member _
    exact ⟨run_silent rest ended.dormant unconnected,
      Dispatcher.run_quiet resting ended.dormant unconnected, ended.free, run_closed rest ended⟩

/-! Two chat events for a queue with one place, of which the second is parked. -/

theorem Run.on {dispatcher next : Dispatcher} {calls : List Call} {move : Move}
    (run : Run start history asked ⟨dispatcher, calls⟩) (now : Nat) (draw : Float)
    (uncalled : Uncalled move) (step : Dispatcher.Step now draw dispatcher move next)
    (alive : next.connection.destroyed = false) :
    Run start (history ++ [⟨now, draw, move⟩]) (asked ++ dispatcher.asks now draw move)
      ⟨next, calls⟩ := by
  have gone := run.next (.move now draw uncalled step)
  rwa [goOn, alive, if_neg Bool.false_ne_true] at gone

def connected : Call := ⟨.signal .connect, some .done⟩

def full : Desk := ⟨.crowded 2 [.token "a"] (some (.chat 0 (.token "b"))), [connected]⟩

theorem full_run :
    Run (.new .standard (some 1) (some 1) none) (Dispatcher.crowdedHistory.take 4) [.openLink]
      full := by
  obtain ⟨first, second⟩ := Dispatcher.crowded_receives
  have called : Run (.new .standard (some 1) (some 1) none) [] []
      (.call (.signal .connect) (.new .standard (some 1) (some 1) none)) :=
    .next .start (@Step.call _ (.signal .connect) trivial)
  have connecting := called.next
    (@Step.serve _ _ _ [] [] 0 0 rfl (by simp) (.signal .connect rfl trivial))
  have opened : Run _ (Dispatcher.crowdedHistory.take 2) [.openLink]
      ⟨.crowded 0 [] none, [connected]⟩ :=
    connecting.on 1 0 trivial (.signal .opened rfl rfl) rfl
  have queued : Run _ (Dispatcher.crowdedHistory.take 3) [.openLink]
      ⟨.crowded 1 [.token "a"] none, [connected]⟩ :=
    opened.on 2 0 trivial (first ▸ .payload _ rfl rfl rfl) rfl
  exact queued.on 3 0 trivial (second ▸ .payload _ rfl rfl rfl) rfl

/-- That desk after an order that was served in its state. -/
def torn (signal : Connection.Signal) : Desk :=
  ⟨full.dispatcher.afterSignal 4 0 signal, [connected, ⟨.signal signal, some .done⟩]⟩

/-- After the disconnection the event that was parked is still had; after the destruction a call
for a report comes back closed. -/
theorem full_teardown_quiet :
    (∃ final, Run (torn .disconnect) [⟨5, 0, .takeChat 0 (.token "a")⟩, ⟨6, 0, .unpark⟩] [] final ∧
      final.dispatcher.chatsQueued 0 = [.token "b"] ∧ (torn .disconnect).dispatcher.Quiet
        [⟨5, 0, .takeChat 0 (.token "a")⟩, ⟨6, 0, .unpark⟩] final.dispatcher) ∧
    Run (torn .destroy) [] [] ((torn .destroy).call .report) ∧
      ((torn .destroy).call .report).calls[2]? = some ⟨.report, some .closed⟩ ∧
      ((torn .destroy).call .report).ClosedFrom 2 := by
  have earlier : ∀ call ∈ [connected], call.answer.isSome := by simp [connected]
  constructor
  · have called := full_run.next (@Step.call _ (.signal .disconnect) trivial)
    have served : Step _ (some ⟨4, 0, .signal .disconnect⟩) (torn .disconnect) :=
      @Step.serve (full.call (.signal .disconnect)) (.signal .disconnect) _ [connected] [] 4 0 rfl
        earlier (.signal .disconnect rfl trivial)
    have taken : Run (torn .disconnect) [⟨5, 0, .takeChat 0 (.token "a")⟩] [] _ :=
      Run.start.on 5 0 trivial (.takeChat rfl rfl) rfl
    have moved : Run (torn .disconnect) [⟨5, 0, .takeChat 0 (.token "a")⟩, ⟨6, 0, .unpark⟩] [] _ :=
      taken.on 6 0 trivial (.unpark rfl rfl) rfl
    have quiet := teardown_quiet .standard (some 1) (some 1) none called served
      (show (torn .disconnect).calls[1]? = _ from rfl) nofun moved
    exact ⟨_, moved, rfl, (quiet.1 rfl (by simp)).2⟩
  · have called := full_run.next (@Step.call _ (.signal .destroy) trivial)
    have served : Step _ (some ⟨4, 0, .signal .destroy⟩) (torn .destroy) :=
      @Step.serve (full.call (.signal .destroy)) (.signal .destroy) _ [connected] [] 4 0 rfl
        earlier (.signal .destroy rfl trivial)
    have reported : Run (torn .destroy) [] [] ((torn .destroy).call .report) :=
      .next .start (@Step.call _ .report trivial)
    have quiet := teardown_quiet .standard (some 1) (some 1) none called served
      (show (torn .destroy).calls[1]? = _ from rfl) nofun reported
    exact ⟨reported, rfl, (quiet.2 rfl).2.2.2⟩

end Desk

end LiveChat.Rehearsal
