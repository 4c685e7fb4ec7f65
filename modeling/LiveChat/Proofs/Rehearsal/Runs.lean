import LiveChat.Proofs.Rehearsal.Desk
import LiveChat.Proofs.Rehearsal.Wires
import LiveChat.Proofs.Stream.Bridge
import LiveChat.Rehearsal.Operator
import Mathlib.Logic.Relation

/-!
A turn of a task is a few things that happen to the connection, its line and its orders, and to the
changes that are kept, one after another, and each of them moves the dispatcher along its runs. What
is shown of every run therefore holds while all tasks go on and while the clock moves.
-/

set_option autoImplicit false

namespace LiveChat.Rehearsal

open LiveChat.Stream (Dispatcher Connection Bridge Change RecentChanges)
open LiveChat.Stream.Dispatcher (Run Step)

namespace World

variable {world after : World}

/-- What can happen at once to the connection, its line and its orders, and to the changes that are
kept. -/
inductive Stirs (world : World) : World → Prop where
  | still {after : World} (same : after.wires = world.wires)
      (kept : after.recent = world.recent) : Stirs world after
  /-- Others read the changes only where none are kept. -/
  | move {after : World} {dispatcher : Dispatcher} {move : Stream.Move} {line : Option Line}
      (step : Step world.nanoseconds world.draw world.dispatcher move dispatcher)
      (uncalled : Desk.Uncalled move) (unsignalled : ∀ signal, move ≠ .signal signal)
      (aside : Bridge.Aside move ∨ world.recent = none)
      (same : after.wires = (dispatcher, line, world.orders))
      (lined : line.map Line.link = world.line.map Line.link)
      (kept : after.recent = world.recent) : Stirs world after
  | take {after : World} {dispatcher : Dispatcher} {change : Change} {recent : RecentChanges}
      (step : Step world.nanoseconds world.draw world.dispatcher (.takeChange change) dispatcher)
      (held : world.recent = some recent)
      (same : after.wires = (dispatcher, world.line, world.orders))
      (kept : after.recent = some (recent.add change)) : Stirs world after
  /-- A line that opens is ahead of the link. -/
  | signal {signal : Connection.Signal} {line : Option Line} {server : Server}
      (uncalled : Desk.Uncalled (.signal signal)) (alive : world.ended = false)
      (admitted : world.dispatcher.Admits world.nanoseconds signal)
      (opened : signal = .opened → line.map Line.link = some .live)
      (other : signal ≠ .opened → line.map Line.link = world.line.map Line.link) :
      Stirs world ({ world with line, server }.signal signal)
  | serve {caller : Caller} {order : Order} {rest : List (Caller × Order)}
      (alive : world.ended = false) (waiting : world.orders = (caller, order) :: rest) :
      Stirs world (({ world with orders := rest }.carryOut order).1.setAnswer caller
        ({ world with orders := rest }.carryOut order).2)
  | order (caller : Caller) {order : Order} (proper : order.Proper) :
      Stirs world (world.order caller order)

theorem proper_admitted {signal : Connection.Signal} (now : Nat) (dispatcher : Dispatcher)
    (proper : (Order.signal signal).Proper) :
    signal ≠ .opened ∧ dispatcher.Admits now signal := by
  cases signal with
  | connect => exact ⟨nofun, trivial⟩
  | disconnect => exact ⟨nofun, trivial⟩
  | destroy => exact ⟨nofun, trivial⟩
  | setVisibility visibility => exact ⟨nofun, trivial⟩
  | _ => exact proper.elim

theorem carry_out_follows {caller : Caller} {order : Order} {rest : List (Caller × Order)}
    (alive : world.ended = false) (waiting : world.orders = (caller, order) :: rest) :
    Follows world (({ world with orders := rest }.carryOut order).1.setAnswer caller
      ({ world with orders := rest }.carryOut order).2) := by
  have started : Follows world { world with orders := rest } := by
    rintro ⟨wiredLine, proper⟩
    refine ⟨⟨wiredLine, ?_⟩, [], .start⟩
    intro entry member
    apply proper entry
    rw [waiting]
    exact List.mem_cons_of_mem _ member
  refine follows_trans ?_ (follows_of_alike (set_answer_alike _ _ _))
  intro wired
  have proper := wired.orders (caller, order) (by rw [waiting]; exact List.mem_cons_self)
  refine follows_trans started ?_ wired
  cases order with
  | report => exact follows_of_wires rfl
  | signal signal =>
      obtain ⟨steady, admitted⟩ := proper_admitted world.nanoseconds world.dispatcher proper
      exact @signal_follows { world with orders := rest } signal alive steady fun _ => admitted

theorem order_follows (caller : Caller) {order : Order} (proper : order.Proper) :
    Follows world (world.order caller order) := by
  unfold World.order
  split
  · exact follows_of_alike (set_answer_alike _ _ _)
  · refine follows_trans ?_ (follows_of_alike (wake_alike _ _))
    rintro ⟨wiredLine, earlier⟩
    refine ⟨⟨wiredLine, ?_⟩, [], .start⟩
    intro entry member
    rcases List.mem_append.mp member with before | last
    · exact earlier entry before
    · rw [List.mem_singleton.mp last]
      exact proper

theorem unsignalled_follows {dispatcher : Dispatcher} {move : Stream.Move} {line : Option Line}
    (step : Step world.nanoseconds world.draw world.dispatcher move dispatcher)
    (unsignalled : ∀ signal, move ≠ .signal signal)
    (same : after.wires = (dispatcher, line, world.orders))
    (lined : line.map Line.link = world.line.map Line.link) : Follows world after := by
  refine move_follows step same lined ?_
  rcases Dispatcher.step_cases step with ⟨signal, signalled, _⟩ | ⟨_, counters, counted⟩
  · exact absurd signalled (unsignalled signal)
  · rw [counted]

theorem stirs_follows (stirs : Stirs world after) : Follows world after := by
  cases stirs with
  | still same => exact follows_of_wires same
  | move step uncalled unsignalled aside same lined =>
      exact unsignalled_follows step unsignalled same lined
  | take step held same => exact unsignalled_follows step nofun same rfl
  | @signal signal line server uncalled alive admitted opened other =>
      intro wired
      obtain ⟨dispatcher, wiredAfter⟩ := @signal_wired { world with line, server } signal alive
        wired.orders opened fun steady => wired.line.trans (other steady).symm
      refine ⟨wiredAfter, [⟨world.nanoseconds, world.draw, .signal signal⟩], ?_⟩
      rw [dispatcher]
      exact .next .start (.signal signal alive admitted)
  | serve alive waiting => exact carry_out_follows alive waiting
  | order caller proper => exact order_follows caller proper

/-- One thing happened after another. -/
def Stirred (before after : World) : Prop :=
  before.Wired → Relation.ReflTransGen Stirs before after

theorem stirred_follows (stirred : Stirred world after) : Follows world after := by
  intro wired
  have path := stirred wired
  clear stirred
  induction path with
  | refl => exact follows_of_wires rfl wired
  | tail _ stirs induction => exact follows_trans (fun _ => induction) (stirs_follows stirs) wired

theorem stirred_trans {before middle : World} (first : Stirred before middle)
    (second : Stirred middle after) : Stirred before after :=
  fun wired => (first wired).trans (second (stirred_follows first wired).1)

theorem stirred_of_stirs (stirs : Stirs world after) : Stirred world after :=
  fun _ => .single stirs

/-- A move of the dispatcher with the line and the orders left alone. -/
theorem stirred_of_step {dispatcher : Dispatcher} {move : Stream.Move}
    (step : Step world.nanoseconds world.draw world.dispatcher move dispatcher)
    (uncalled : Desk.Uncalled move) (unsignalled : ∀ signal, move ≠ .signal signal)
    (aside : Bridge.Aside move ∨ world.recent = none)
    (same : after.wires = (dispatcher, world.line, world.orders))
    (kept : after.recent = world.recent) : Stirred world after :=
  stirred_of_stirs (.move step uncalled unsignalled aside same rfl kept)

theorem stirred_of_still (same : after.wires = world.wires) (kept : after.recent = world.recent) :
    Stirred world after :=
  stirred_of_stirs (.still same kept)

theorem recent_of_alike {before : World} (alike : Alike before after) :
    after.recent = before.recent := by
  obtain ⟨_, _, _, rfl⟩ := alike
  rfl

theorem stirred_of_alike (alike : Alike world after) : Stirred world after :=
  stirred_of_still (wires_of_alike alike) (recent_of_alike alike)

theorem wake_recent (task : Task) (world : World) : (world.wake task).recent = world.recent :=
  recent_of_alike (wake_alike task world)

/-- A task is woken after something that leaves the connection alone. -/
theorem woken_stirred {middle : World} (task : Task) (same : middle.wires = world.wires)
    (kept : middle.recent = world.recent) : Stirred world (middle.wake task) :=
  stirred_of_still ((wake_wires task middle).trans same) ((wake_recent task middle).trans kept)

theorem rouse_recent (world : World) : world.rouse.recent = world.recent :=
  recent_of_alike (rouse_alike world)

theorem rouse_parked_recent (world : World) : world.rouseParked.recent = world.recent :=
  recent_of_alike (rouse_parked_alike world)

/-! The changes that are kept. -/

theorem drop_line_recent (world : World) : world.dropLine.recent = world.recent := by
  unfold dropLine
  split <;> rfl

theorem close_recent (world : World) : world.close.recent = world.recent := by
  rw [close, recent_of_alike (fold_alike _ (fun _ _ => set_answer_alike _ _ _) _ _)]
  exact world.drop_line_recent

theorem follow_recent (outputs : List Connection.Output) (world : World) :
    (world.follow outputs).recent = world.recent := by
  unfold follow
  split
  · exact world.drop_line_recent
  · split
    · exact world.drop_line_recent
    · rfl

theorem finish_recent (world : World) :
    ((if world.ended then world.close else world).rouse).recent = world.recent := by
  rw [rouse_recent]
  split
  · exact world.close_recent
  · rfl

theorem signal_recent (signal : Connection.Signal) (world : World) :
    (world.signal signal).recent = world.recent :=
  (finish_recent _).trans (follow_recent _ _)

theorem carry_out_recent (order : Order) (world : World) :
    (world.carryOut order).1.recent = world.recent := by
  cases order with
  | signal signal => exact signal_recent signal world
  | report => rfl

theorem order_recent (caller : Caller) (order : Order) (world : World) :
    (world.order caller order).recent = world.recent := by
  unfold World.order
  split
  · exact recent_of_alike (set_answer_alike _ _ _)
  · exact wake_recent _ _

theorem serve_recent (caller : Caller) (order : Order) (world : World) :
    ((world.carryOut order).1.setAnswer caller (world.carryOut order).2).recent = world.recent :=
  (recent_of_alike (set_answer_alike _ _ _)).trans (carry_out_recent order world)

/-- Where no changes are kept, none are later. -/
theorem stirs_unkept (stirs : Stirs world after) (unkept : world.recent = none) :
    after.recent = none := by
  cases stirs with
  | still _ kept => exact kept.trans unkept
  | move _ _ _ _ _ _ kept => exact kept.trans unkept
  | take _ held =>
      rw [held] at unkept
      cases unkept
  | signal => exact (signal_recent _ _).trans unkept
  | serve => exact (serve_recent _ _ _).trans unkept
  | order caller => exact (order_recent _ _ _).trans unkept

theorem stirred_unkept (stirred : Stirred world after) (wired : world.Wired)
    (unkept : world.recent = none) : after.recent = none := by
  have path := stirred wired
  clear stirred
  induction path with
  | refl => exact unkept
  | tail _ stirs induction => exact stirs_unkept stirs induction

/-! The connection. -/

theorem connection_turn_stirred (turned : world.connectionTurn = some after) :
    Stirred world after := by
  obtain ⟨alive, serves⟩ := connection_turn_cases turned
  intro wired
  apply Relation.ReflTransGen.single
  cases serves with
  | order waiting => exact .serve alive waiting
  | @signal signal own admitted =>
      have uncalled : Desk.Uncalled (.signal signal) := by
        cases signal <;> trivial
      have steady : signal ≠ .opened := by
        rintro rfl
        exact own
      exact @Stirs.signal world signal world.line world.server uncalled alive admitted
        (fun opened => absurd opened steady) fun _ => rfl
  | unpark ready =>
      exact .move (.unpark alive ready) trivial nofun (.inl trivial)
        (wires_of_alike (rouse_alike _)) rfl (rouse_recent _)
  | @payload line next server text lined listening live nextLive =>
      have agrees := wired.line
      rw [lined, Option.map_some, live] at agrees
      refine .move (.payload text alive agrees listening) trivial nofun (.inl trivial)
        (wires_of_alike (rouse_alike _)) ?_ (rouse_recent _)
      rw [lined, Option.map_some, Option.map_some, live, nextLive]
  | @opened line next server lined opening live =>
      have agrees := wired.line
      rw [lined, Option.map_some, opening] at agrees
      exact .signal trivial alive agrees (fun _ => congrArg some live)
        fun steady => absurd rfl steady
  | @failed line next server error lined listening same =>
      have agrees := wired.line
      rw [lined, Option.map_some] at agrees
      refine .signal trivial alive ⟨by simp [agrees], listening⟩ nofun fun _ => ?_
      rw [lined, Option.map_some, Option.map_some, same]

/-! The turns of the others. -/

theorem take_event_stirred (queue : Option Nat) (world : World) :
    Stirred world (world.takeEvent queue) := by
  unfold takeEvent
  split
  · exact stirred_of_still rfl rfl
  · next place =>
    cases found : world.dispatcher.chat? place with
    | none => exact stirred_of_still rfl rfl
    | some channel =>
        cases taken : channel.take? with
        | none =>
            simp only [Option.bind_some, taken]
            exact stirred_of_still rfl rfl
        | some outcome =>
            obtain ⟨event, rest⟩ := outcome
            simp only [Option.bind_some, taken]
            exact stirred_of_step (.takeChat found taken) trivial nofun (.inl trivial)
              (wires_of_alike (rouse_parked_alike _)) (rouse_parked_recent _)

theorem drop_queue_stirred (queue : Option Nat) (world : World) :
    Stirred world (world.dropQueue queue) := by
  unfold dropQueue
  split
  · exact stirred_of_still rfl rfl
  · next place =>
    cases found : world.dispatcher.chat? place with
    | none => exact stirred_of_still rfl rfl
    | some channel =>
        exact stirred_of_step (.dropChat found) trivial nofun (.inl trivial)
          (wires_of_alike (rouse_parked_alike _)) (rouse_parked_recent _)

theorem submit_still (submission : Option Conversation.Submission) (world : World) :
    (world.submit submission).wires = world.wires ∧
      (world.submit submission).recent = world.recent := by
  cases submission with
  | none => exact ⟨rfl, rfl⟩
  | some submission => exact ⟨wake_wires _ _, wake_recent _ _⟩

theorem carry_on_stirred (turn : Session.Turn Caller) (world : World) :
    Stirred world (world.carryOn turn) := by
  have told : ∀ (answer : Answer) (callers : List Caller) (world : World),
      Alike world (callers.foldl (fun world caller => world.setAnswer caller answer) world) :=
    fun _ _ _ => fold_alike _ (fun _ _ => set_answer_alike _ _ _) _ _
  refine stirred_trans (drop_queue_stirred turn.left world) (stirred_of_still ?_ ?_)
  · simp only [carryOn]
    rw [wires_of_alike (told _ _ _), wires_of_alike (told _ _ _), (submit_still _ _).1,
      wires_of_alike (wake_if_alike _ _ _)]
    rfl
  · simp only [carryOn]
    rw [recent_of_alike (told _ _ _), recent_of_alike (told _ _ _), (submit_still _ _).2,
      recent_of_alike (wake_if_alike _ _ _)]
    rfl

theorem session_turn_stirred (turned : world.sessionTurn = some after) :
    Stirred world after := by
  simp only [sessionTurn, Option.bind_eq_bind, Option.bind_eq_some_iff, Option.some.injEq] at turned
  obtain ⟨session, _, ⟨input, next⟩, _, rfl⟩ := turned
  refine stirred_trans ?_ (carry_on_stirred _ _)
  split
  · exact take_event_stirred _ world
  · exact stirred_of_still rfl rfl

theorem job_turn_stirred {index : Nat} (turned : world.jobTurn index = some after) :
    Stirred world after := by
  have reported : ∀ (world : World) (action : Option Conversation.Action),
      ((action.map world.report).getD world).wires = world.wires ∧
        ((action.map world.report).getD world).recent = world.recent := by
    intro world action
    cases action with
    | none => exact ⟨rfl, rfl⟩
    | some action =>
        simp only [Option.map_some, Option.getD_some, report]
        split
        · exact ⟨rfl, rfl⟩
        · exact ⟨wake_wires _ _, wake_recent _ _⟩
  unfold jobTurn at turned
  split at turned
  · cases turned
  · split at turned
    · cases turned
    · cases turned
      exact stirred_of_still (reported _ _).1 (reported _ _).2

theorem changes_turn_stirred (turned : world.changesTurn = some after) :
    Stirred world after := by
  unfold changesTurn at turned
  split at turned
  · next recent change rest held found =>
    cases turned
    obtain ⟨channel, present, taken⟩ := Option.bind_eq_some_iff.mp found
    exact stirred_of_stirs (.take (.takeChange present taken) held
      (wires_of_alike (rouse_parked_alike _)) (rouse_parked_recent _))
  · cases turned

/-! The terminal. -/

theorem request_stirred (caller : Caller) (command : Session.Command) (world : World) :
    Stirred world (world.request caller command) := by
  unfold request
  split
  · exact stirred_of_alike (set_answer_alike _ _ _)
  · exact woken_stirred _ rfl rfl

theorem finish_console_stirred (failure : Option String) (console : Console) (world : World) :
    Stirred world (world.finishConsole failure console) :=
  stirred_of_step .dropNotices trivial nofun (.inl trivial) (wake_wires _ _) (wake_recent _ _)

theorem stirred_of_beside (beside : Beside world after) : Stirred world after := by
  obtain ⟨_, _, _, _, _, rfl⟩ := beside
  exact stirred_of_still rfl rfl

theorem console_turn_stirred (turned : world.consoleTurn = some after) :
    Stirred world after := by
  cases console_turn_cases turned with
  | quiet beside => exact stirred_of_beside beside
  | asks beside command =>
      exact stirred_trans (stirred_of_beside beside) (request_stirred _ _ _)
  | orders beside proper =>
      exact stirred_trans (stirred_of_beside beside) (stirred_of_stirs (.order .console proper))
  | reads console present taken =>
      exact stirred_of_step (.takeNotice present taken) trivial nofun (.inl trivial) rfl rfl
  | leaves failure console => exact finish_console_stirred failure console world

theorem turn_stirred {task : Task} (turned : world.turn task = some after) :
    Stirred world after := by
  cases task with
  | connection => exact connection_turn_stirred turned
  | session => exact session_turn_stirred turned
  | changes => exact changes_turn_stirred turned
  | console => exact console_turn_stirred turned
  | job index => exact job_turn_stirred turned

theorem stirred_kept : Kept Stirred where
  alike := stirred_of_alike
  clock _ _ := stirred_of_still rfl rfl
  trans := stirred_trans
  turn := turn_stirred

theorem setup_wired (setup : Operator.Setup) : setup.world.Wired :=
  ⟨rfl, nofun⟩

/-- While the tasks take turns and the clock moves, the fields of the connection agree. -/
theorem advance_consistent (now target : Nat) (wired : world.Wired)
    (consistent : world.dispatcher.connection.Consistent) :
    (world.advanceFrom now target).dispatcher.connection.Consistent := by
  obtain ⟨_, _, run⟩ := stirred_follows (stirred_kept.advance now target world) wired
  exact Dispatcher.run_consistent run consistent

end World

end LiveChat.Rehearsal
