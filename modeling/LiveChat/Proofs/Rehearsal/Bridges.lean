import LiveChat.Proofs.Rehearsal.Plays

/-!
The bridge of a world. Of all tasks only one takes changes, and it keeps each of them; the others
leave what is kept alone. So the dispatcher of a rehearsal and what is kept of its changes go along
a run of the bridge, and what was shown of every such run is true of the rehearsal.
-/

set_option autoImplicit false

namespace LiveChat.Rehearsal

open LiveChat.Stream (Dispatcher Bridge)

namespace World

variable {world before after : World}

/-- The bridge is the dispatcher of the world with the changes that it keeps. -/
structure Bears (world : World) (bridge : Bridge) : Prop where
  dispatcher : bridge.dispatcher = world.dispatcher
  recent : world.recent = some bridge.recent

/-- Where changes are kept, what happened was a run of the bridge. -/
def Bridged (before after : World) : Prop :=
  before.Wired → ∀ bridge, before.Bears bridge →
    ∃ history next, Bridge.Run bridge history next ∧ after.Bears next

theorem bridged_of_same (dispatcher : after.dispatcher = before.dispatcher)
    (recent : after.recent = before.recent) : Bridged before after := by
  intro _ bridge bears
  exact ⟨[], bridge, .start, bears.dispatcher.trans dispatcher.symm, recent.trans bears.recent⟩

theorem dispatcher_of_wires (same : after.wires = before.wires) :
    after.dispatcher = before.dispatcher :=
  (Prod.mk.inj same).1

/-- The dispatcher moved, and nobody took a change. -/
theorem bridged_of_aside {dispatcher : Dispatcher} {move : Stream.Move}
    (aside : Bridge.Aside move)
    (step : Dispatcher.Step world.nanoseconds world.draw world.dispatcher move dispatcher)
    (moved : after.dispatcher = dispatcher) (recent : after.recent = world.recent) :
    Bridged world after := by
  rintro _ ⟨_, kept⟩ ⟨rfl, held⟩
  have run : Bridge.Run ⟨world.dispatcher, kept⟩
      ([] ++ [⟨world.nanoseconds, world.draw, move⟩]) ⟨dispatcher, kept⟩ :=
    .next .start (.aside aside step)
  exact ⟨_, _, run, moved.symm, recent.trans held⟩

theorem order_dispatcher (caller : Caller) (order : Order) (world : World) :
    (world.order caller order).dispatcher = world.dispatcher := by
  unfold World.order
  split
  · exact dispatcher_of_wires (wires_of_alike (set_answer_alike _ _ _))
  · exact (dispatcher_of_wires (wires_of_alike (wake_alike _ _))).trans rfl

theorem stirs_bridged (stirs : Stirs world after) : Bridged world after := by
  cases stirs with
  | still same kept => exact bridged_of_same (dispatcher_of_wires same) kept
  | @move _ dispatcher move line step _ _ aside same _ kept =>
      rcases aside with aside | unkept
      · exact bridged_of_aside aside step (Prod.mk.inj same).1 kept
      · intro _ bridge bears
        rw [bears.recent] at unkept
        cases unkept
  | @take _ dispatcher change recent step held same kept =>
      rintro _ ⟨_, entries⟩ ⟨rfl, bears⟩
      obtain rfl : recent = entries := Option.some.inj (held.symm.trans bears)
      have run : Bridge.Run ⟨world.dispatcher, recent⟩
          ([] ++ [⟨world.nanoseconds, world.draw, .takeChange change⟩])
          ⟨dispatcher, recent.add change⟩ := .next .start (.take step)
      exact ⟨_, _, run, (Prod.mk.inj same).1.symm, kept⟩
  | @signal signal line server _ alive admitted =>
      exact @bridged_of_aside world _ _ (.signal signal) trivial (.signal signal alive admitted)
        (signal_orders signal { world with line, server }).1 (signal_recent _ _)
  | @serve caller order rest alive waiting =>
      intro wired
      have proper : order.Proper :=
        wired.orders (caller, order) (by rw [waiting]; exact List.mem_cons_self)
      have aside : Bridge.Aside order.move := by cases order <;> trivial
      have step := (@carry_out_step { world with orders := rest } order alive proper).1
      exact bridged_of_aside aside step
        (dispatcher_of_wires (wires_of_alike (set_answer_alike _ _ _))) (serve_recent _ _ _) wired
  | order caller => exact bridged_of_same (order_dispatcher _ _ _) (order_recent _ _ _)

/-- Whatever the tasks do, a bridge of the world does as well. -/
theorem stirred_bridged (stirred : Stirred world after) : Bridged world after := by
  intro wired
  have path := stirred wired
  clear stirred
  induction path with
  | refl => exact bridged_of_same rfl rfl wired
  | @tail middle after path stirs induction =>
      intro bridge bears
      obtain ⟨earlier, between, run, met⟩ := induction bridge bears
      have wiredMiddle : middle.Wired := (stirred_follows (fun _ => path) wired).1
      obtain ⟨later, next, more, borne⟩ := stirs_bridged stirs wiredMiddle between met
      exact ⟨earlier ++ later, next, run.append more, borne⟩

theorem setup_bears (setup : Operator.Setup) {changes limit : Nat}
    (queued : setup.changes = some changes) (kept : setup.recent = some limit) :
    setup.world.Bears (.new setup.settings setup.chat changes setup.notices limit) := by
  refine ⟨?_, ?_⟩
  · rw [Operator.Setup.world, queued]
    rfl
  · rw [Operator.Setup.world, kept]
    rfl

end World

namespace Play

/-- What was shown of every run of a bridge is true of a rehearsal of any steps that keeps changes:
its dispatcher and what it keeps are those of a bridge after some run from the start. -/
theorem rehearse_bridged (setup : Operator.Setup) {changes limit : Nat}
    (queued : setup.changes = some changes) (kept : setup.recent = some limit)
    {steps : List Step} (proper : ∀ step ∈ steps, step.Proper) :
    ∃ history bridge,
      Bridge.Run (.new setup.settings setup.chat changes setup.notices limit) history bridge ∧
        ((begin setup).rehearse steps).operator.world.Bears bridge :=
  World.stirred_bridged (setup_stirred setup proper) (World.setup_wired setup) _
    (World.setup_bears setup queued kept)

end Play

end LiveChat.Rehearsal
