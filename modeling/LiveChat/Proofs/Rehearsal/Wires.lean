import LiveChat.Proofs.Rehearsal.Turns
import LiveChat.Proofs.Stream.Consistency

/-!
How a signal of the connection shows in the world around it. The dispatcher moves as it does by
itself. The line to the server and the link that the connection believes in are kept apart, and
agree afterwards.
-/

set_option autoImplicit false

namespace LiveChat.Rehearsal

open LiveChat.Stream (Dispatcher Connection Happening)
open LiveChat.Stream.Dispatcher (Run Step)

namespace World

variable {world before after : World}

/-- All that the connection has to do with. -/
def wires (world : World) : Dispatcher × Option Line × List (Caller × Order) :=
  (world.dispatcher, world.line, world.orders)

/-- The connection knows the state of its line, and its orders are proper. -/
structure Wired (world : World) : Prop where
  line : world.dispatcher.connection.link = world.line.map Line.link
  orders : ∀ entry ∈ world.orders, entry.2.Proper

/-- The dispatcher went along a run, and the line went with it. -/
def Follows (before after : World) : Prop :=
  before.Wired → after.Wired ∧ ∃ history, Run before.dispatcher history after.dispatcher

theorem follows_trans {middle : World} (first : Follows before middle)
    (second : Follows middle after) : Follows before after := by
  intro wired
  obtain ⟨wiredMiddle, earlier, run⟩ := first wired
  obtain ⟨wiredAfter, later, more⟩ := second wiredMiddle
  exact ⟨wiredAfter, earlier ++ later, run.append more⟩

theorem follows_of_wires (same : after.wires = before.wires) : Follows before after := by
  obtain ⟨dispatcher, rest⟩ := Prod.mk.inj same
  obtain ⟨line, orders⟩ := Prod.mk.inj rest
  rintro ⟨wiredLine, proper⟩
  refine ⟨⟨?_, ?_⟩, [], ?_⟩
  · rw [dispatcher, line]
    exact wiredLine
  · rw [orders]
    exact proper
  · rw [dispatcher]
    exact .start

theorem wires_of_alike (alike : Alike before after) : after.wires = before.wires := by
  obtain ⟨_, _, _, rfl⟩ := alike
  rfl

theorem wake_wires (task : Task) (world : World) : (world.wake task).wires = world.wires :=
  wires_of_alike (wake_alike task world)

theorem follows_of_alike (alike : Alike before after) : Follows before after :=
  follows_of_wires (wires_of_alike alike)

/-! A signal and the line. -/

theorem drop_line_wires (world : World) :
    world.dropLine.wires = (world.dispatcher, none, world.orders) := by
  unfold dropLine
  split
  · next none => rw [wires, none]
  · rfl

theorem server_opens (server : Server) (now : Nat) (endpoint : Stream.Endpoint) :
    (server.openLine now endpoint).1.link = .opening := by
  have taken : ∀ (server : Server) (request : Option Http.Request),
      (server.take now request).1.link = .opening := by
    intro server request
    unfold Server.take
    split <;> rfl
  simp only [Server.openLine]
  split
  · exact taken _ _
  · split
    · rfl
    · exact taken _ _

theorem open_line_wires (world : World) :
    ∃ line, line.link = .opening ∧
      world.openLine.wires = (world.dispatcher, some line, world.orders) := by
  obtain ⟨dispatcher, rest⟩ := Prod.mk.inj world.drop_line_wires
  obtain ⟨_, orders⟩ := Prod.mk.inj rest
  exact ⟨_, server_opens _ _ _, Prod.ext dispatcher (Prod.ext rfl orders)⟩

theorem close_wires (world : World) :
    world.close.wires = ({ world.dispatcher with parked := none }, none, []) := by
  obtain ⟨_, rest⟩ := Prod.mk.inj world.drop_line_wires
  rw [close, wires_of_alike (fold_alike _ (fun _ _ => set_answer_alike _ _ _) _ _)]
  exact Prod.ext rfl (Prod.ext (Prod.mk.inj rest).1 rfl)

/-- The line after a signal that the dispatcher has taken in. -/
def follow (outputs : List Connection.Output) (world : World) : World :=
  if outputs.contains .openLink then world.openLine
  else if world.dispatcher.connection.link.isNone then world.dropLine
  else world

theorem follow_wired {outputs : List Connection.Output}
    (asked : .openLink ∈ outputs → world.dispatcher.connection.link = some .opening)
    (other : .openLink ∉ outputs → world.dispatcher.connection.link = none ∨
      world.dispatcher.connection.link = world.line.map Line.link) :
    ∃ line, world.dispatcher.connection.link = line.map Line.link ∧
      (world.follow outputs).wires = (world.dispatcher, line, world.orders) := by
  unfold follow
  split
  · next contained =>
    obtain ⟨line, opening, same⟩ := world.open_line_wires
    refine ⟨some line, ?_, same⟩
    rw [asked (by simpa using contained), Option.map_some, opening]
  · next absent =>
    split
    · next gone =>
      exact ⟨none, Option.isNone_iff_eq_none.mp gone, world.drop_line_wires⟩
    · next lasting =>
      refine ⟨world.line, ?_, rfl⟩
      rcases other (by simpa using absent) with gone | agrees
      · simp [gone] at lasting
      · exact agrees

theorem finish_wires (world : World) :
    ((if world.ended then world.close else world).rouse).wires =
      if world.dispatcher.connection.destroyed then
        ({ world.dispatcher with parked := none }, none, [])
      else world.wires := by
  rw [wires_of_alike (rouse_alike _), ended]
  split
  · exact world.close_wires
  · rfl

/-- The world when the dispatcher has taken in a signal and nothing else has happened. -/
def notified (signal : Connection.Signal) (world : World) : World :=
  { world with dispatcher := (world.dispatcher.signal world.nanoseconds world.draw signal).1 }

theorem signal_wires (signal : Connection.Signal) (world : World) :
    (world.signal signal).wires =
      let outputs := (world.dispatcher.signal world.nanoseconds world.draw signal).2
      let followed := (world.notified signal).follow outputs
      if followed.dispatcher.connection.destroyed then
        ({ followed.dispatcher with parked := none }, none, [])
      else followed.wires :=
  finish_wires _

theorem notified_link {signal : Connection.Signal} (world : World) :
    (world.notified signal).dispatcher.connection.link =
        (world.dispatcher.connection.step world.dispatcher.settings world.nanoseconds world.draw
          signal).1.link ∧
      (world.notified signal).dispatcher.connection.destroyed =
        (world.dispatcher.connection.step world.dispatcher.settings world.nanoseconds world.draw
          signal).1.destroyed := by
  obtain ⟨notices, lost, same⟩ :=
    Dispatcher.signal_frame world.nanoseconds world.draw signal world.dispatcher
  exact ⟨congrArg (·.connection.link) same, congrArg (·.connection.destroyed) same⟩

theorem notified_wired {signal : Connection.Signal} (alive : world.ended = false)
    (opened : signal = .opened → world.line.map Line.link = some .live)
    (other : signal ≠ .opened →
      world.dispatcher.connection.link = world.line.map Line.link) :
    ∃ line, (world.notified signal).dispatcher.connection.link = line.map Line.link ∧
      ((world.notified signal).follow
          (world.dispatcher.signal world.nanoseconds world.draw signal).2).wires =
        ((world.notified signal).dispatcher, line, world.orders) := by
  have cases := Connection.step_link world.dispatcher.settings world.nanoseconds world.draw
    world.dispatcher.connection signal alive
  rw [← world.notified_link.1] at cases
  apply follow_wired
  · intro asked
    rcases cases with ⟨_, opening⟩ | ⟨quiet, _⟩
    · exact opening
    · exact absurd asked quiet
  · intro quiet
    rcases cases with ⟨asked, _⟩ | ⟨_, gone | ⟨up, live⟩ | ⟨steady, kept⟩⟩
    · exact absurd asked quiet
    · exact .inl gone
    · exact .inr (live.trans (opened up).symm)
    · exact .inr (kept.trans (other steady))

/-- A signal moves the dispatcher as it does without a world around it, and the line goes with the
link. A line that has just opened is ahead of the link. -/
theorem signal_wired {signal : Connection.Signal} (alive : world.ended = false)
    (proper : ∀ entry ∈ world.orders, entry.2.Proper)
    (opened : signal = .opened → world.line.map Line.link = some .live)
    (other : signal ≠ .opened →
      world.dispatcher.connection.link = world.line.map Line.link) :
    (world.signal signal).dispatcher =
        world.dispatcher.afterSignal world.nanoseconds world.draw signal ∧
      (world.signal signal).Wired := by
  obtain ⟨lined, agrees, followed⟩ := notified_wired alive opened other
  have wires := world.signal_wires signal
  simp only [(Prod.mk.inj followed).1, followed] at wires
  by_cases closed : (world.notified signal).dispatcher.connection.destroyed = true
  · rw [if_pos closed] at wires
    obtain ⟨dispatcher, rest⟩ := Prod.mk.inj wires
    obtain ⟨line, orders⟩ := Prod.mk.inj rest
    refine ⟨dispatcher.trans (if_pos closed).symm, ?_, ?_⟩
    · rw [dispatcher, line]
      rw [world.notified_link.2] at closed
      exact world.notified_link.1.trans (Connection.destroyed_link _ _ _ _ signal alive closed)
    · rw [orders]
      exact nofun
  · rw [if_neg closed] at wires
    obtain ⟨dispatcher, rest⟩ := Prod.mk.inj wires
    obtain ⟨line, orders⟩ := Prod.mk.inj rest
    refine ⟨dispatcher.trans (if_neg closed).symm, ?_, ?_⟩
    · rw [dispatcher, line]
      exact agrees
    · rw [orders]
      exact proper

theorem signal_follows {signal : Connection.Signal} (alive : world.ended = false)
    (steady : signal ≠ .opened)
    (admitted : world.Wired → world.dispatcher.Admits world.nanoseconds signal) :
    Follows world (world.signal signal) := by
  intro wired
  obtain ⟨dispatcher, wiredAfter⟩ := signal_wired alive wired.orders
    (fun opened => absurd opened steady) fun _ => wired.line
  refine ⟨wiredAfter, [⟨world.nanoseconds, world.draw, .signal signal⟩], ?_⟩
  rw [dispatcher]
  exact .next .start (.signal signal alive (admitted wired))

/-- One move of the dispatcher, with all else left alone that it has to do with. -/
theorem move_follows {dispatcher : Dispatcher} {move : Stream.Move} {line : Option Line}
    (step : Step world.nanoseconds world.draw world.dispatcher move dispatcher)
    (same : after.wires = (dispatcher, line, world.orders))
    (lined : line.map Line.link = world.line.map Line.link)
    (kept : dispatcher.connection.link = world.dispatcher.connection.link) :
    Follows world after := by
  obtain ⟨moved, rest⟩ := Prod.mk.inj same
  obtain ⟨lineAfter, orders⟩ := Prod.mk.inj rest
  rintro ⟨wiredLine, proper⟩
  refine ⟨⟨?_, ?_⟩, [⟨world.nanoseconds, world.draw, move⟩], ?_⟩
  · rw [moved, lineAfter, lined, kept]
    exact wiredLine
  · rw [orders]
    exact proper
  · rw [moved]
    exact .next .start step

end World

end LiveChat.Rehearsal
