import LiveChat.Proofs.Rehearsal.Runs

/-!
The desk of a world. Orders that wait for the connection are the calls that have not come back, in
the same order. Whatever the tasks do is a run of the desk, so what is shown of desks is true of the
connection among all other tasks.
-/

set_option autoImplicit false

namespace LiveChat.Rehearsal

open LiveChat.Stream (Dispatcher Connection Happening Move)

namespace Desk

/-- What was ordered and has not come back, oldest first. -/
def waiting (calls : List Call) : List Order :=
  (calls.filter (·.answer.isNone)).map Call.order

theorem Run.append {start middle final : Desk} {earlier later : List Happening}
    {asked asks : List Connection.Output} (first : Run start earlier asked middle)
    (second : Run middle later asks final) :
    Run start (earlier ++ later) (asked ++ asks) final := by
  induction second with
  | start => rwa [List.append_nil, List.append_nil]
  | next _ step induction =>
      rw [← List.append_assoc, ← List.append_assoc]
      exact .next induction step

theorem waiting_close (calls : List Call) : waiting (calls.map Call.close) = [] := by
  have closed : ∀ call : Call, call.close.answer.isNone = false := by
    intro call
    cases call.answer with
    | none => simp [Call.close]
    | some answer => simp [Call.close]
  rw [waiting, List.map_eq_nil_iff, List.filter_eq_nil_iff]
  intro call member
  obtain ⟨earlier, _, rfl⟩ := List.mem_map.mp member
  simp [closed]

/-- Nothing waits for a connection that has ended. -/
theorem waiting_go_on (dispatcher : Dispatcher) (calls : List Call) :
    waiting (goOn dispatcher calls).calls =
      if dispatcher.connection.destroyed then [] else waiting calls := by
  unfold goOn
  split
  · exact waiting_close calls
  · rfl

/-- Who is served next stands behind those that have come back. -/
theorem waiting_cons {calls : List Call} {order : Order} {rest : List Order}
    (waits : waiting calls = order :: rest) :
    ∃ taken behind, calls = taken ++ ⟨order, none⟩ :: behind ∧
      (∀ call ∈ taken, call.answer.isSome) ∧ waiting behind = rest := by
  obtain ⟨first, others, filtered, rfl, rfl⟩ := List.map_eq_cons_iff.mp waits
  obtain ⟨taken, behind, rfl, returned, unanswered, rfl⟩ := List.filter_eq_cons_iff.mp filtered
  refine ⟨taken, behind, ?_, ?_, rfl⟩
  · rw [show first = ⟨first.order, none⟩ from
      congrArg (Call.mk first.order) (Option.isNone_iff_eq_none.mp unanswered)]
  · intro call member
    simpa [Option.isSome_iff_ne_none] using returned call member

theorem waiting_taken {taken behind : List Call} {order : Order} {answer : Answer}
    (returned : ∀ call ∈ taken, call.answer.isSome) :
    waiting (taken ++ ⟨order, some answer⟩ :: behind) = waiting behind := by
  have returnedAll : taken.filter (·.answer.isNone) = [] := by
    rw [List.filter_eq_nil_iff]
    intro call member
    simpa [Option.isSome_iff_ne_none] using returned call member
  simp [waiting, returnedAll]

end Desk

namespace World

variable {world before after : World} {desk : Desk}

/-- The desk stands for the connection and its orders. -/
structure Hosts (world : World) (desk : Desk) : Prop where
  dispatcher : desk.dispatcher = world.dispatcher
  waiting : Desk.waiting desk.calls = world.orders.map Prod.snd
  ended : world.ended = true → world.orders = []

theorem hosts_of_wires (same : after.wires = world.wires) (hosts : world.Hosts desk) :
    after.Hosts desk := by
  obtain ⟨dispatcher, rest⟩ := Prod.mk.inj same
  obtain ⟨_, orders⟩ := Prod.mk.inj rest
  refine ⟨hosts.dispatcher.trans dispatcher.symm, ?_, ?_⟩
  · rw [orders]
    exact hosts.waiting
  · rw [ended, dispatcher, orders]
    exact hosts.ended

theorem follow_kept (outputs : List Connection.Output) (world : World) :
    (world.follow outputs).dispatcher = world.dispatcher ∧
      (world.follow outputs).orders = world.orders := by
  have dropped := Prod.mk.inj world.drop_line_wires
  obtain ⟨line, _, same⟩ := world.open_line_wires
  have opened := Prod.mk.inj same
  unfold follow
  split
  · exact ⟨opened.1, (Prod.mk.inj opened.2).2⟩
  · split
    · exact ⟨dropped.1, (Prod.mk.inj dropped.2).2⟩
    · exact ⟨rfl, rfl⟩

/-- A signal that ends the connection sends all orders back. -/
theorem signal_orders (signal : Connection.Signal) (world : World) :
    (world.signal signal).dispatcher =
        world.dispatcher.afterSignal world.nanoseconds world.draw signal ∧
      (world.signal signal).orders =
        if (world.signal signal).dispatcher.connection.destroyed then [] else world.orders := by
  have kept := (world.notified signal).follow_kept
    (world.dispatcher.signal world.nanoseconds world.draw signal).2
  have wires := world.signal_wires signal
  simp only [kept.1] at wires
  by_cases closed : (world.notified signal).dispatcher.connection.destroyed = true
  · rw [if_pos closed] at wires
    obtain ⟨dispatcher, rest⟩ := Prod.mk.inj wires
    have destroyed : (world.signal signal).dispatcher.connection.destroyed = true := by
      rw [dispatcher]
      exact closed
    rw [if_pos destroyed]
    exact ⟨dispatcher.trans (if_pos closed).symm, (Prod.mk.inj rest).2⟩
  · rw [if_neg closed] at wires
    obtain ⟨dispatcher, rest⟩ := Prod.mk.inj wires
    have alive : ¬ (world.signal signal).dispatcher.connection.destroyed = true := by
      rw [dispatcher, kept.1]
      exact closed
    rw [if_neg alive]
    refine ⟨?_, (Prod.mk.inj rest).2.trans kept.2⟩
    rw [dispatcher, kept.1]
    exact (if_neg closed).symm

/-- Where the desk goes on, the world does that went the same way. -/
theorem hosts_go_on {dispatcher : Dispatcher} {calls : List Call}
    (moved : after.dispatcher = dispatcher)
    (orders : after.orders = if dispatcher.connection.destroyed then [] else world.orders)
    (waits : Desk.waiting calls = world.orders.map Prod.snd) :
    after.Hosts (Desk.goOn dispatcher calls) := by
  refine ⟨moved.symm, ?_, ?_⟩
  · rw [Desk.waiting_go_on, orders, waits]
    split <;> rfl
  · intro ended
    rw [orders, if_pos (moved ▸ ended)]

/-- Every desk of the one world becomes a desk of the other by a run of its own. -/
def Attends (before after : World) : Prop :=
  before.Wired → ∀ desk, before.Hosts desk →
    ∃ history asked next, Desk.Run desk history asked next ∧ after.Hosts next

theorem attends_of_wires (same : after.wires = before.wires) : Attends before after :=
  fun _ desk hosts => ⟨[], [], desk, .start, hosts_of_wires same hosts⟩

theorem attends_of_step {next : Desk} {happening : Option Happening}
    (step : Desk.Step desk happening next) (hosts : after.Hosts next) :
    ∃ history asked next, Desk.Run desk history asked next ∧ after.Hosts next :=
  ⟨_, _, next, .next .start step, hosts⟩

/-- What a caller is told of an order is what the call for it comes back with. -/
theorem carry_out_result (order : Order) (world : World) :
    (world.carryOut order).2 = order.result (world.carryOut order).1.dispatcher := by
  cases order <;> rfl

theorem carry_out_step {order : Order} (alive : world.ended = false) (proper : order.Proper) :
    Dispatcher.Step world.nanoseconds world.draw world.dispatcher order.move
        (world.carryOut order).1.dispatcher ∧
      (world.carryOut order).1.orders =
        if (world.carryOut order).1.dispatcher.connection.destroyed then [] else world.orders := by
  cases order with
  | report =>
      refine ⟨.report alive, ?_⟩
      exact (if_neg (Bool.eq_false_iff.mp alive)).symm
  | signal signal =>
      obtain ⟨_, admitted⟩ := proper_admitted world.nanoseconds world.dispatcher proper
      obtain ⟨moved, orders⟩ := signal_orders signal world
      refine ⟨?_, orders⟩
      rw [carryOut, moved]
      exact .signal signal alive admitted

theorem carry_out_attends {caller : Caller} {order : Order} {rest : List (Caller × Order)}
    (alive : world.ended = false) (waiting : world.orders = (caller, order) :: rest) :
    Attends world (({ world with orders := rest }.carryOut order).1.setAnswer caller
      ({ world with orders := rest }.carryOut order).2) := by
  rintro wired ⟨_, calls⟩ ⟨rfl, waits, _⟩
  have proper : order.Proper :=
    wired.orders (caller, order) (by rw [waiting]; exact List.mem_cons_self)
  rw [waiting] at waits
  obtain ⟨taken, behind, split, returned, left⟩ := Desk.waiting_cons waits
  obtain ⟨step, orders⟩ := @carry_out_step { world with orders := rest } order alive proper
  refine attends_of_step (.serve world.nanoseconds world.draw split returned step) ?_
  refine hosts_of_wires (wires_of_alike (set_answer_alike _ _ _)) ?_
  exact @hosts_go_on { world with orders := rest } _ _ _ rfl orders
    ((Desk.waiting_taken returned).trans left)

theorem order_attends (caller : Caller) {order : Order} (proper : order.Proper) :
    Attends world (world.order caller order) := by
  intro _ desk hosts
  refine attends_of_step (.call proper) ?_
  have ended : desk.dispatcher.connection.destroyed = world.ended := by
    rw [hosts.dispatcher, World.ended]
  unfold World.order Desk.call
  rw [ended]
  split
  · refine hosts_of_wires (wires_of_alike (set_answer_alike _ _ _))
      ⟨hosts.dispatcher, ?_, hosts.ended⟩
    simpa [Desk.waiting] using hosts.waiting
  · next alive =>
    refine hosts_of_wires (wake_wires _ _) ⟨hosts.dispatcher, ?_, fun gone => absurd gone alive⟩
    simpa [Desk.waiting] using hosts.waiting

theorem unsignalled_attends {dispatcher : Dispatcher} {move : Move} {line : Option Line}
    (step : Dispatcher.Step world.nanoseconds world.draw world.dispatcher move dispatcher)
    (uncalled : Desk.Uncalled move) (unsignalled : ∀ signal, move ≠ .signal signal)
    (same : after.wires = (dispatcher, line, world.orders)) : Attends world after := by
  rintro _ ⟨_, calls⟩ ⟨rfl, waits, settled⟩
  obtain ⟨moved, rest⟩ := Prod.mk.inj same
  have orders : after.orders = world.orders := (Prod.mk.inj rest).2
  -- Only a signal ends a connection, so what waited still does.
  have ended : dispatcher.connection.destroyed = world.ended := by
    rcases Dispatcher.step_cases step with ⟨signal, signalled, _⟩ | ⟨_, counters, counted⟩
    · exact absurd signalled (unsignalled signal)
    · rw [counted, World.ended]
  refine attends_of_step (.move world.nanoseconds world.draw uncalled step)
    (hosts_go_on moved ?_ waits)
  rw [orders, ended]
  split
  · next gone => exact settled gone
  · rfl

theorem stirs_attends (stirs : Stirs world after) : Attends world after := by
  cases stirs with
  | still same => exact attends_of_wires same
  | move step uncalled unsignalled aside same lined =>
      exact unsignalled_attends step uncalled unsignalled same
  | take step held same => exact unsignalled_attends step trivial nofun same
  | @signal signal line server uncalled alive admitted opened other =>
      rintro _ ⟨_, calls⟩ ⟨rfl, waits, _⟩
      obtain ⟨moved, orders⟩ := signal_orders signal { world with line, server }
      exact attends_of_step
        (.move world.nanoseconds world.draw uncalled (.signal signal alive admitted))
        (hosts_go_on moved (moved ▸ orders) waits)
  | serve alive waiting => exact carry_out_attends alive waiting
  | order caller proper => exact order_attends caller proper

/-- Whatever the tasks do, a desk of the world does as well. -/
theorem stirred_attends (stirred : Stirred world after) : Attends world after := by
  intro wired
  have path := stirred wired
  clear stirred
  induction path with
  | refl => exact attends_of_wires rfl wired
  | @tail middle after path stirs induction =>
      intro desk hosts
      obtain ⟨earlier, asked, between, run, met⟩ := induction desk hosts
      have wiredMiddle : middle.Wired := (stirred_follows (fun _ => path) wired).1
      obtain ⟨later, asks, next, more, hosted⟩ := stirs_attends stirs wiredMiddle between met
      exact ⟨earlier ++ later, asked ++ asks, next, run.append more, hosted⟩

theorem setup_hosts (setup : Operator.Setup) :
    setup.world.Hosts (.new setup.settings setup.chat setup.changes setup.notices) :=
  ⟨rfl, rfl, nofun⟩

end World

end LiveChat.Rehearsal
