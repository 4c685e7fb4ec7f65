import LiveChat.Proofs.Rehearsal.Loop
import LiveChat.Proofs.Stream.Moves

/-!
What the connection and the terminal can do in one turn, each turn as one of a few kinds.
-/

set_option autoImplicit false

namespace LiveChat.Rehearsal

open LiveChat.Stream (Connection Channel Notice)

/-- The link that a line amounts to. -/
def Line.link : Line → Stream.Link
  | .opening _ _ _ => .opening
  | .payloads _ => .live
  | .body _ _ _ => .live

/-- What an owner can order. The other signals come from the line and the alarms. -/
def Order.Proper : Order → Prop
  | .signal .connect => True
  | .signal .disconnect => True
  | .signal .destroy => True
  | .signal (.setVisibility _) => True
  | .signal _ => False
  | .report => True

/-- What the connection signals to itself: nobody can reach it any more, or an alarm is due. -/
def Own : Connection.Signal → Prop
  | .destroy => True
  | .reconnectDue => True
  | .inactivityDue => True
  | _ => False

namespace World

variable {world after : World}

/-! The connection. -/

/-- What is heard fits the line it is heard on. -/
theorem heard_cases (server : Server) (now : Nat) (line : Line) :
    (server.hear now line).1 = .nothing ∨
      (∃ text, (server.hear now line).1 = .payload text ∧ line.link = .live ∧
        (server.hear now line).2.1.link = .live) ∨
      ((server.hear now line).1 = .signal .opened ∧ line.link = .opening ∧
        (server.hear now line).2.1.link = .live) ∨
      (∃ error, (server.hear now line).1 = .signal (.failed error) ∧
        (server.hear now line).2.1.link = line.link) := by
  cases line with
  | opening due plan request =>
      simp only [Server.hear]
      split
      · exact .inl rfl
      · cases plan with
        | failure error => exact .inr (.inr (.inr ⟨error, rfl, rfl⟩))
        | payloads feed => exact .inr (.inr (.inl ⟨rfl, rfl, rfl⟩))
        | reply reply feed =>
            simp only [Server.begin]
            split
            · next error _ => exact .inr (.inr (.inr ⟨error, rfl, rfl⟩))
            · exact .inr (.inr (.inl ⟨rfl, rfl, rfl⟩))
  | payloads place =>
      simp only [Server.hear]
      split
      · split
        · exact .inr (.inr (.inr ⟨_, rfl, rfl⟩))
        · exact .inl rfl
      · next arrival _ _ =>
        cases arrival with
        | payload text => exact .inr (.inl ⟨text, rfl, rfl, rfl⟩)
        | part octets => exact .inl rfl
        | failure error => exact .inr (.inr (.inr ⟨error, rfl, rfl⟩))
  | body framer ready place =>
      cases ready with
      | cons payload ready => exact .inr (.inl ⟨payload, rfl, rfl, rfl⟩)
      | nil =>
          simp only [Server.hear]
          split
          · exact .inr (.inl ⟨_, rfl, rfl, rfl⟩)
          · exact .inr (.inr (.inr ⟨_, rfl, rfl⟩))
          · split
            · exact .inr (.inr (.inr ⟨_, rfl, rfl⟩))
            · exact .inl rfl

/-- A turn of the connection: an order, the parked event, what is heard on the line, or a signal
of its own. -/
inductive Serves (world : World) : World → Prop where
  | order {caller : Caller} {order : Order} {rest : List (Caller × Order)}
      (waiting : world.orders = (caller, order) :: rest) :
      Serves world (({ world with orders := rest }.carryOut order).1.setAnswer caller
        ({ world with orders := rest }.carryOut order).2)
  | signal {signal : Connection.Signal} (own : Own signal)
      (admitted : world.dispatcher.Admits world.nanoseconds signal) :
      Serves world (world.signal signal)
  | unpark (ready : world.dispatcher.parkedReady) :
      Serves world { world with dispatcher := world.dispatcher.unpark }.rouse
  | payload {line next : Line} {server : Server} {text : String} (lined : world.line = some line)
      (listening : world.dispatcher.listening) (live : line.link = .live)
      (nextLive : next.link = .live) :
      Serves world { world with
        line := some next, server, dispatcher := world.dispatcher.receive text }.rouse
  | opened {line next : Line} {server : Server} (lined : world.line = some line)
      (opening : line.link = .opening) (live : next.link = .live) :
      Serves world ({ world with line := some next, server }.signal .opened)
  | failed {line next : Line} {server : Server} (error : Stream.StreamError)
      (lined : world.line = some line) (listening : world.dispatcher.listening)
      (same : next.link = line.link) :
      Serves world ({ world with line := some next, server }.signal (.failed error))

theorem hear_serves (listening : world.dispatcher.listening) (heard : world.hear? = some after) :
    Serves world after := by
  unfold hear? at heard
  cases lined : world.line with
  | none =>
      rw [lined] at heard
      cases heard
  | some line =>
      simp only [lined] at heard
      have fits := heard_cases world.server world.now line
      generalize world.server.hear world.now line = outcome at heard fits
      obtain ⟨what, next, server⟩ := outcome
      simp only at fits
      rcases fits with rfl | ⟨text, rfl, live, nextLive⟩ | ⟨rfl, opening, live⟩ | ⟨error, rfl, same⟩
      · cases heard
      · cases heard
        exact .payload lined listening live nextLive
      · cases heard
        exact .opened lined opening live
      · cases heard
        exact .failed error lined listening same

theorem due_of_is_due {alarm : Option Nat} (due : world.isDue alarm = true) :
    ∃ nanoseconds ≤ world.nanoseconds, alarm = some nanoseconds := by
  cases alarm with
  | none => cases due
  | some nanoseconds =>
      have passed : tick nanoseconds ≤ world.now := by simpa [isDue] using due
      refine ⟨nanoseconds, ?_, rfl⟩
      unfold tick at passed
      unfold World.nanoseconds
      omega

theorem alarm_serves (rang : world.alarm? = some after) : Serves world after := by
  unfold alarm? at rang
  simp only at rang
  split at rang
  · next reconnect =>
    cases rang
    exact .signal trivial (due_of_is_due reconnect)
  · split at rang
    · next inactivity =>
      cases rang
      exact .signal trivial (due_of_is_due inactivity)
    · cases rang

theorem connection_turn_cases (turned : world.connectionTurn = some after) :
    world.ended = false ∧ Serves world after := by
  unfold connectionTurn at turned
  split at turned
  · cases turned
  · next living =>
    refine ⟨by simpa using living, ?_⟩
    split at turned
    · next waiting =>
      cases turned
      exact .order waiting
    · split at turned
      · cases turned
        exact .signal trivial trivial
      · split at turned
        · next ready =>
          cases turned
          exact .unpark ready
        · split at turned
          · next heard =>
            cases turned
            unfold hearIfListening? at heard
            split at heard
            · next listening => exact hear_serves listening heard
            · cases heard
          · exact alarm_serves turned

/-! The terminal. -/

/-- Only the terminal, the service and what `Alike` leaves open may be different. -/
def Beside (before after : World) : Prop :=
  ∃ console service ready answer consoleAnswer,
    after = { before with console, service, ready, answer, consoleAnswer }

/-- A turn of the terminal: it asks the session or orders from the connection, it reads a notice,
or it leaves. Else it keeps to itself. -/
inductive Watches (world : World) : World → Prop where
  | quiet {after : World} (beside : Beside world after) : Watches world after
  | asks {prepared : World} (beside : Beside world prepared) (command : Session.Command) :
      Watches world (prepared.request .console command)
  | orders {prepared : World} (beside : Beside world prepared) {order : Order}
      (proper : order.Proper) : Watches world (prepared.order .console order)
  | reads {notice : Notice} {channel rest : Channel Notice} (console : Console)
      (present : world.dispatcher.notices = some channel)
      (taken : channel.take? = some (notice, rest)) :
      Watches world ({ world with
        dispatcher := { world.dispatcher with notices := some rest } }.setConsole console)
  | leaves (failure : Option String) (console : Console) :
      Watches world (world.finishConsole failure console)

theorem beside_wake {prepared : World} (task : Task) (beside : Beside world prepared) :
    Beside world (prepared.wake task) := by
  obtain ⟨_, _, _, _, _, rfl⟩ := beside
  obtain ⟨_, _, _, same⟩ := wake_alike task _
  exact ⟨_, _, _, _, _, same⟩

theorem run_command_cases (command : Terminal.Command) (console : Console) (world : World) :
    Watches world (world.runCommand command console) := by
  cases command with
  | send text => exact .asks ⟨_, _, _, _, _, rfl⟩ _
  | clear => exact .asks ⟨_, _, _, _, _, rfl⟩ _
  | history => exact .quiet (beside_wake .console ⟨_, _, _, _, _, rfl⟩)
  | hide => exact .orders ⟨_, _, _, _, _, rfl⟩ trivial
  | «show» => exact .orders ⟨_, _, _, _, _, rfl⟩ trivial
  | status => exact .orders ⟨_, _, _, _, _, rfl⟩ trivial
  | changes => exact .quiet ⟨_, _, _, _, _, rfl⟩
  | help => exact .quiet ⟨_, _, _, _, _, rfl⟩
  | quit => exact .leaves _ _
  | unknown name => exact .quiet ⟨_, _, _, _, _, rfl⟩

theorem watch_turn_cases {console : Console} (turned : world.watchTurn console = some after) :
    Watches world after := by
  unfold watchTurn at turned
  simp only at turned
  split at turned
  · cases turned
    exact .quiet ⟨_, _, _, _, _, rfl⟩
  · split at turned
    · cases turned
      exact .leaves _ _
    · split at turned
      · next found =>
        cases turned
        split at found
        · obtain ⟨channel, present, taken⟩ := Option.bind_eq_some_iff.mp found
          exact .reads _ present taken
        · cases found
      · split at turned
        · cases turned
          exact .quiet ⟨_, _, _, _, _, rfl⟩
        · split at turned
          · cases turned
            exact .leaves _ _
          · cases turned

theorem listen_turn_cases {console : Console} (turned : world.listenTurn console = some after) :
    Watches world after := by
  unfold listenTurn at turned
  split at turned
  · split at turned
    · cases turned
      exact run_command_cases _ _ _
    · cases turned
      exact .leaves _ _
  · cases turned
    exact .leaves _ _
  · exact watch_turn_cases turned

/-- However much the service was asked before, the result is handled alike. -/
theorem fetched_cases {prepared : World} (beside : Beside world prepared)
    (result : Except Session.ServiceError (List Json)) (console : Console) :
    Watches world (prepared.fetched result console) := by
  obtain ⟨_, _, _, _, _, rfl⟩ := beside
  unfold fetched
  split
  · exact .asks ⟨_, _, _, _, _, rfl⟩ _
  · exact .quiet ⟨_, _, _, _, _, rfl⟩

theorem fetch_turn_cases {retries due : Nat} {console : Console}
    (turned : world.fetchTurn retries due console = some after) : Watches world after := by
  unfold fetchTurn at turned
  split at turned
  · cases turned
  · split at turned
    · cases turned
      exact fetched_cases ⟨_, _, _, _, _, rfl⟩ _ _
    · split at turned
      · cases turned
        exact .quiet ⟨_, _, _, _, _, rfl⟩
      · cases turned
        exact fetched_cases ⟨_, _, _, _, _, rfl⟩ _ _

theorem answered_cases (answer : Answer) (console : Console) (world : World) :
    Watches world ({ world with consoleAnswer := none }.answered answer console) := by
  unfold answered
  split <;> exact .quiet ⟨_, _, _, _, _, rfl⟩

theorem console_turn_cases (turned : world.consoleTurn = some after) : Watches world after := by
  unfold consoleTurn at turned
  split at turned
  · cases turned
  · split at turned
    · cases turned
    · cases turned
      exact .quiet ⟨_, _, _, _, _, rfl⟩
    · exact listen_turn_cases turned
    · exact fetch_turn_cases turned
    · split at turned
      · cases turned
      · cases turned
        exact answered_cases _ _ _

end World

end LiveChat.Rehearsal
