import LiveChat.Proofs.Rehearsal.Hosts
import LiveChat.Rehearsal.Step

/-!
A rehearsal of any steps. Whatever its operator does, and whatever the tasks do of it, is a run of
the desk that it began with.
-/

set_option autoImplicit false

namespace LiveChat.Rehearsal

open LiveChat.Stream (Dispatcher Connection Channel)

namespace World

theorem settle_stirred (world : World) : Stirred world world.settle :=
  stirred_kept.settle_within maxTurns world

theorem advance_stirred (time : Nat) (world : World) : Stirred world (world.advanceTo time) :=
  stirred_kept.advance world.now time world

/-- Where every item can be taken on its own, any number of them can. -/
theorem keep_from_stirred {Item : Type} (put : Channel Item → World)
    (taken : ∀ {channel rest : Channel Item} {item : Item},
      channel.take? = some (item, rest) → Stirred (put channel) (put rest))
    (count : Nat) (channel : Channel Item) :
    Stirred (put channel) (put (Operator.keepFrom count channel)) := by
  induction count generalizing channel with
  | zero => exact stirred_of_still rfl rfl
  | succ count induction =>
      cases items : channel.items with
      | nil =>
          have same : Operator.keepFrom (count + 1) channel = channel := by
            rw [Operator.keepFrom, items, List.drop_nil, ← items]
          rw [same]
          exact stirred_of_still rfl rfl
      | cons item rest =>
          have first : channel.take? = some (item, { channel with items := rest }) := by
            rw [Channel.take?, items]
          have same : Operator.keepFrom (count + 1) channel =
              Operator.keepFrom count { channel with items := rest } := by
            rw [Operator.keepFrom, items, List.drop_succ_cons]
            rfl
          rw [same]
          exact stirred_trans (taken first) (induction _)

theorem keep_map_stirred {Item : Type} (put : Option (Channel Item) → World)
    (taken : ∀ {channel rest : Channel Item} {item : Item},
      channel.take? = some (item, rest) → Stirred (put (some channel)) (put (some rest)))
    (count : Nat) (channel : Option (Channel Item)) :
    Stirred (put channel) (put (channel.map (Operator.keepFrom count))) := by
  cases channel with
  | none => exact stirred_of_still rfl rfl
  | some channel => exact keep_from_stirred (fun channel => put (some channel)) taken count _

end World

namespace Operator

open World (Stirred stirred_of_still stirred_of_step stirred_of_stirs stirred_trans)

/-! Reading. -/

theorem drop_chats_stirred (place count : Nat) (world : World) :
    Stirred world { world with dispatcher := { world.dispatcher with
      chats := world.dispatcher.chats.modify place (keepFrom count) } } := by
  rw [List.modify_eq_set_getElem?]
  cases found : world.dispatcher.chats[place]? with
  | none => exact stirred_of_still rfl rfl
  | some channel =>
      let put := fun channel => { world with dispatcher := world.dispatcher.setChat place channel }
      have same : put channel = world := by
        obtain ⟨bound, rfl⟩ := List.getElem?_eq_some_iff.mp found
        simp [put, Dispatcher.setChat]
      have kept : Stirred (put channel) (put (keepFrom count channel)) := by
        refine World.keep_from_stirred put (fun {channel rest item} taken => ?_) count channel
        have present := Dispatcher.set_chat_self channel found
        have moved : (put rest).wires =
            (((put channel).dispatcher.setChat place rest), world.line, world.orders) := by
          simp [put, World.wires, Dispatcher.setChat]
        exact stirred_of_step (.takeChat present taken) trivial (fun _ => Stream.Move.noConfusion)
          (.inl trivial) moved rfl
      rw [same] at kept
      exact kept

/-- The changes are read here only where none are kept. -/
def Fair (operator : Operator) : Prop := operator.changes = true → operator.world.recent = none

theorem drop_stirred (family : Family) (count : Nat) (operator : Operator)
    (fair : family = .changes → operator.world.recent = none) :
    Stirred operator.world (operator.drop family count).world := by
  refine stirred_trans ?_ (World.stirred_of_alike (World.rouse_parked_alike _))
  cases family with
  | chat =>
      cases operator.chat with
      | none => exact stirred_of_still rfl rfl
      | some place => exact drop_chats_stirred place count operator.world
  | changes =>
      exact World.keep_map_stirred
        (fun changes =>
          { operator.world with dispatcher := { operator.world.dispatcher with changes } })
        (fun taken => stirred_of_step (.takeChange rfl taken) trivial nofun (.inr (fair rfl)) rfl
          rfl) count _
  | notices =>
      exact World.keep_map_stirred
        (fun notices =>
          { operator.world with dispatcher := { operator.world.dispatcher with notices } })
        (fun taken => stirred_of_step (.takeNotice rfl taken) trivial nofun (.inl trivial) rfl rfl)
        count _

theorem leave_world (family : Family) (operator : Operator) :
    (operator.leave family).world = operator.world := by
  cases family <;> rfl

theorem receive_stirred (family : Family) (allowed : Nat) {operator : Operator}
    (fair : operator.Fair) : Stirred operator.world (operator.receive family allowed).2.world := by
  unfold receive
  split
  · exact stirred_of_still rfl rfl
  · next count waits =>
    have unkept : family = .changes → operator.world.recent = none := by
      rintro rfl
      exact fair (Option.ite_none_right_eq_some.mp waits).1
    simp only
    split
    · rw [leave_world]
      exact drop_stirred family _ operator unkept
    · exact drop_stirred family _ operator unkept

theorem drop_receiver_stirred (family : Family) (operator : Operator)
    (fair : family = .changes → operator.Fair) :
    Stirred operator.world (operator.dropReceiver family).world := by
  unfold dropReceiver
  rw [leave_world]
  cases family with
  | chat => exact World.drop_queue_stirred operator.chat operator.world
  | changes =>
      simp only
      split
      · next reads =>
        exact stirred_of_step .dropChanges trivial nofun (.inr (fair rfl reads))
          (World.wires_of_alike (World.rouse_parked_alike _)) (World.rouse_parked_recent _)
      · exact stirred_of_still rfl rfl
  | notices =>
      simp only
      split
      · exact stirred_of_step .dropNotices trivial nofun (.inl trivial) rfl rfl
      · exact stirred_of_still rfl rfl

/-! The connection. -/

theorem signal_stirred {signal : Connection.Signal} (proper : (Order.signal signal).Proper)
    (operator : Operator) : Stirred operator.world (operator.signal signal).world :=
  stirred_trans (stirred_of_stirs (.order .operator proper)) (World.settle_stirred _)

theorem set_handler_stirred (handler : Option Nat) (world : World) :
    Stirred world { world with dispatcher := world.dispatcher.setHandler handler }.rouse :=
  stirred_of_step (.setHandler handler) trivial nofun (.inl trivial)
    (World.wires_of_alike (World.rouse_alike _)) (World.rouse_recent _)

theorem add_chat_stirred (capacity : Nat) (offered : Option Nat) (world : World) :
    Stirred world
      { world with dispatcher := (world.dispatcher.addChat capacity).1, offered } :=
  stirred_of_step (.addChat capacity) trivial nofun (.inl trivial) rfl rfl

theorem set_chat_stirred (capacity : Option Nat) (operator : Operator) :
    Stirred operator.world (operator.setChat capacity).world := by
  refine stirred_trans (drop_receiver_stirred .chat operator nofun) ?_
  cases capacity with
  | none => exact set_handler_stirred none _
  | some capacity =>
      exact stirred_trans (add_chat_stirred capacity _ _) (set_handler_stirred (some _) _)

/-! The session. -/

theorem ask_stirred (command : Session.Command) (operator : Operator) :
    Stirred operator.world (operator.ask command).2.world := by
  have asked : (operator.ask command).2.world =
      (({ operator.world with answer := none }).request .operator command).settle := by
    unfold ask
    simp only
    split <;> rfl
  rw [asked]
  have cleared : Stirred operator.world { operator.world with answer := none } :=
    stirred_of_still rfl rfl
  exact stirred_trans cleared
    (stirred_trans (World.request_stirred _ _ _) (World.settle_stirred _))

theorem attach_stirred (operator : Operator) :
    Stirred operator.world operator.attach.2.world := by
  let offered := operator.onWorld fun world =>
    { world with
      dispatcher := (world.dispatcher.addChat world.eventCapacity).1
      offered := some world.dispatcher.chats.length }
  let asked := (offered.ask (.attach operator.world.dispatcher.chats.length)).2
  have prepared : Stirred operator.world { asked.world with offered := none } :=
    stirred_trans (add_chat_stirred _ _ _)
      (stirred_trans (ask_stirred _ offered) (stirred_of_still rfl rfl))
  unfold attach
  simp only
  split
  · exact stirred_trans prepared (set_handler_stirred (some _) _)
  · exact prepared

theorem detach_stirred (operator : Operator) :
    Stirred operator.world operator.detach.2.world :=
  stirred_trans (set_handler_stirred none _) (ask_stirred .detach (operator.setHandler none))

theorem fetch_stirred (count retries : Nat) (operator : Operator) :
    Stirred operator.world (operator.fetch count retries).2.world := by
  induction count generalizing retries operator with
  | zero => exact stirred_of_still rfl rfl
  | succ count induction =>
      unfold fetch
      simp only
      split
      · exact stirred_of_still rfl rfl
      · split
        · next retries due service _ =>
          let waited := { operator.world with service }.advanceTo due
          have served : Stirred operator.world { operator.world with service } :=
            stirred_of_still rfl rfl
          exact stirred_trans served (stirred_trans (World.advance_stirred due _)
            (induction retries { operator with world := waited }))
        · exact stirred_of_still rfl rfl

theorem refresh_stirred (operator : Operator) :
    Stirred operator.world operator.refresh.2.world := by
  have fetched := operator.fetch_stirred (Http.maxRetries + 1) 0
  unfold refresh
  split
  · next same =>
    rw [same] at fetched
    exact fetched
  · next records fetching same =>
    rw [same] at fetched
    have asked := ask_stirred (.dispatch (.loadHistory records)) fetching
    split
    · next told =>
      rw [told] at asked
      exact stirred_trans fetched asked
    · next told =>
      rw [told] at asked
      exact stirred_trans fetched asked

/-! The server, the service and the terminal. -/

theorem plan_stirred (plan : Plan) (delay : Nat) (operator : Operator) :
    Stirred operator.world (operator.plan plan delay).world :=
  stirred_of_still rfl rfl

theorem plan_failures_stirred (count delay : Nat) (operator : Operator) :
    Stirred operator.world (operator.planFailures count delay).world := by
  unfold planFailures
  generalize List.range count = indices
  induction indices generalizing operator with
  | nil => exact stirred_of_still rfl rfl
  | cons index rest induction =>
      exact stirred_trans (plan_stirred _ delay operator) (induction (operator.plan _ delay))

theorem send_stirred (place : Nat) (arrivals : List Arrival) (operator : Operator) :
    Stirred operator.world (operator.send place arrivals).2.world := by
  unfold send
  split
  · exact stirred_of_still rfl rfl
  · exact World.woken_stirred _ rfl rfl

theorem release_stirred (operator : Operator) :
    Stirred operator.world operator.release.world := by
  let free := { operator.world with service := { operator.world.service with held := false } }
  have freed : Stirred operator.world free := stirred_of_still rfl rfl
  exact stirred_trans freed (World.stirred_of_alike
    (World.fold_alike _ (fun _ _ => World.wake_if_alike _ _ _) _ free))

theorem on_console_stirred (change : Console → Console) (operator : Operator) :
    Stirred operator.world (operator.onConsole change).world :=
  World.woken_stirred _ rfl rfl

theorem type_stirred (octets : List UInt8) (operator : Operator) :
    Stirred operator.world (operator.type octets).2.world := by
  unfold type
  split
  · exact stirred_of_still rfl rfl
  · split
    · exact stirred_of_still rfl rfl
    · exact on_console_stirred _ operator

theorem begin_stirred (setup : Setup) : Stirred setup.world (begin setup).world := by
  unfold begin
  generalize attaching : Operator.mk setup.world _ _ _ = operator
  have same : operator.world = setup.world := by rw [← attaching]
  rw [← same]
  split
  · have woken : Stirred operator.attach.2.world
        ({ operator.attach.2.world with console := some .new }.wake .console) :=
      World.woken_stirred _ rfl rfl
    exact stirred_trans operator.attach_stirred (stirred_trans woken (World.settle_stirred _))
  · exact World.settle_stirred _

end Operator

/-! Reading the changes is given up at most. -/

namespace Operator

variable {operator : Operator}

theorem leave_reads {family : Family} (reads : (operator.leave family).changes = true) :
    operator.changes = true := by
  cases family with
  | changes => cases reads
  | _ => exact reads

theorem receive_reads {family : Family} {allowed : Nat}
    (reads : (operator.receive family allowed).2.changes = true) : operator.changes = true := by
  unfold receive at reads
  split at reads
  · exact reads
  · simp only at reads
    split at reads
    · have left := leave_reads reads
      exact left
    · exact reads

theorem drop_receiver_reads {family : Family}
    (reads : (operator.dropReceiver family).changes = true) : operator.changes = true := by
  have left := leave_reads reads
  cases family with
  | chat => exact left
  | _ =>
      simp only at left
      split at left <;> exact left

theorem set_chat_changes (capacity : Option Nat) (operator : Operator) :
    (operator.setChat capacity).changes = operator.changes := by
  cases capacity <;> rfl

theorem ask_changes (command : Session.Command) (operator : Operator) :
    (operator.ask command).2.changes = operator.changes := by
  unfold ask
  simp only
  split <;> rfl

theorem attach_changes (operator : Operator) : operator.attach.2.changes = operator.changes := by
  unfold attach
  simp only
  split <;> exact ask_changes _ _

theorem fetch_changes (count retries : Nat) (operator : Operator) :
    (operator.fetch count retries).2.changes = operator.changes := by
  induction count generalizing retries operator with
  | zero => rfl
  | succ count induction =>
      unfold fetch
      simp only
      split
      · rfl
      · split
        · exact induction _ _
        · rfl

theorem refresh_changes (operator : Operator) :
    operator.refresh.2.changes = operator.changes := by
  have fetched := fetch_changes (Http.maxRetries + 1) 0 operator
  unfold refresh
  split
  · next same =>
    rw [same] at fetched
    exact fetched
  · next records fetching same =>
    rw [same] at fetched
    have asked := ask_changes (.dispatch (.loadHistory records)) fetching
    split
    · next told =>
      rw [told] at asked
      exact asked.trans fetched
    · next told =>
      rw [told] at asked
      exact asked.trans fetched

theorem plan_failures_changes (count delay : Nat) (operator : Operator) :
    (operator.planFailures count delay).changes = operator.changes := by
  unfold planFailures
  generalize List.range count = indices
  induction indices generalizing operator with
  | nil => rfl
  | cons index rest induction => exact induction (operator.plan _ delay)

theorem send_changes (place : Nat) (arrivals : List Arrival) (operator : Operator) :
    (operator.send place arrivals).2.changes = operator.changes := by
  unfold send
  split <;> rfl

theorem type_changes (octets : List UInt8) (operator : Operator) :
    (operator.type octets).2.changes = operator.changes := by
  unfold type
  split
  · rfl
  · split <;> rfl

theorem begin_changes (setup : Setup) :
    (begin setup).changes = (setup.changes.isSome && setup.recent.isNone) := by
  unfold begin
  simp only
  split
  · exact attach_changes _
  · rfl

end Operator

/-! Steps of a rehearsal. -/

/-- A step that orders something from the connection orders what an owner can. -/
def Step.Proper : Step → Prop
  | .signal given => (Order.signal given).Proper
  | _ => True

namespace Play

open World (Stirred stirred_of_still stirred_trans)

theorem by_handle_stirred {act : Operator → Result × Operator} (play : Play)
    (acted : Stirred play.operator.world (act play.operator).2.world) :
    Stirred play.operator.world (play.byHandle act).1.operator.world := by
  unfold byHandle
  split
  · exact acted
  · exact stirred_of_still rfl rfl

theorem send_stirred (play : Play) (name : String) (arrivals : List Arrival)
    (result : Bool → Result) :
    Stirred play.operator.world (play.send name arrivals result).1.operator.world := by
  unfold send
  split
  · exact stirred_of_still rfl rfl
  · exact Operator.send_stirred _ arrivals play.operator

theorem close_feed_stirred (play : Play) (name : String) :
    Stirred play.operator.world (play.closeFeed name).1.operator.world := by
  unfold closeFeed
  split
  · exact stirred_of_still rfl rfl
  · exact World.woken_stirred _ rfl rfl

theorem plan_stirred (play : Play) (step : Step) :
    Stirred play.operator.world (play.plan step).1.operator.world := by
  cases step with
  | planFailures count delay => exact Operator.plan_failures_stirred count delay play.operator
  | planReply reply feed delay =>
      unfold plan
      cases feed <;> exact stirred_of_still rfl rfl
  | _ => exact stirred_of_still rfl rfl

theorem perform_stirred (play : Play) {step : Step} (fair : play.operator.Fair)
    (proper : step.Proper) :
    Stirred play.operator.world (play.perform step).1.operator.world := by
  cases step with
  | push name payloads => exact play.send_stirred name _ _
  | fail name reason => exact play.send_stirred name _ _
  | close name => exact play.close_feed_stirred name
  | sendPart name octets => exact play.send_stirred name _ _
  | breakBody name => exact play.send_stirred name _ _
  | signal signal => exact play.by_handle_stirred (Operator.signal_stirred proper _)
  | dropHandle =>
      exact play.by_handle_stirred (World.woken_stirred .connection rfl rfl)
  | setChat capacity => exact play.by_handle_stirred (Operator.set_chat_stirred capacity _)
  | advance millis => exact World.advance_stirred _ play.operator.world
  | receive family allowed => exact Operator.receive_stirred family allowed fair
  | dropReceiver family => exact Operator.drop_receiver_stirred family play.operator fun _ => fair
  | ask command => exact Operator.ask_stirred command play.operator
  | attach => exact play.by_handle_stirred (Operator.attach_stirred _)
  | detach => exact play.by_handle_stirred (Operator.detach_stirred _)
  | refresh => exact Operator.refresh_stirred play.operator
  | release => exact Operator.release_stirred play.operator
  | typeLine octets =>
      unfold perform
      simp only
      split
      · exact stirred_of_still rfl rfl
      · exact Operator.type_stirred octets play.operator
  | endInput => exact Operator.on_console_stirred _ play.operator
  | interrupt => exact Operator.on_console_stirred _ play.operator
  | hold => exact stirred_of_still rfl rfl
  | reply reply => exact stirred_of_still rfl rfl
  | history history => exact stirred_of_still rfl rfl
  | respond reply => exact stirred_of_still rfl rfl
  | planFeed name delay => exact play.plan_stirred _
  | planFailures count delay => exact play.plan_stirred _
  | planFailure error delay => exact play.plan_stirred _
  | planReply reply feed delay => exact play.plan_stirred _

theorem step_stirred (play : Play) {step : Step} (fair : play.operator.Fair)
    (proper : step.Proper) : Stirred play.operator.world (play.step step).1.operator.world :=
  stirred_trans (play.perform_stirred fair proper) (World.settle_stirred _)

/-- No step makes its operator read the changes. -/
theorem perform_reads (play : Play) (step : Step)
    (reads : (play.perform step).1.operator.changes = true) : play.operator.changes = true := by
  have handled : ∀ {act : Operator → Result × Operator},
      (act play.operator).2.changes = play.operator.changes →
      (play.byHandle act).1.operator.changes = play.operator.changes := by
    intro act acted
    unfold byHandle
    split
    · exact acted
    · rfl
  have sent : ∀ {name : String} {arrivals : List Arrival} {result : Bool → Result},
      (play.send name arrivals result).1.operator.changes = play.operator.changes := by
    intro name arrivals result
    unfold send
    split
    · rfl
    · exact Operator.send_changes _ _ _
  cases step with
  | receive family allowed => exact Operator.receive_reads reads
  | dropReceiver family => exact Operator.drop_receiver_reads reads
  | push name payloads => exact sent.symm.trans reads
  | fail name reason => exact sent.symm.trans reads
  | sendPart name octets => exact sent.symm.trans reads
  | breakBody name => exact sent.symm.trans reads
  | close name =>
      simp only [perform, closeFeed] at reads
      split at reads <;> exact reads
  | signal signal => exact (handled rfl).symm.trans reads
  | dropHandle => exact (handled rfl).symm.trans reads
  | setChat capacity => exact (handled (Operator.set_chat_changes _ _)).symm.trans reads
  | ask command => exact (Operator.ask_changes _ _).symm.trans reads
  | attach => exact (handled (Operator.attach_changes _)).symm.trans reads
  | detach => exact (handled (Operator.ask_changes _ _)).symm.trans reads
  | refresh => exact (Operator.refresh_changes _).symm.trans reads
  | typeLine octets =>
      simp only [perform] at reads
      split at reads
      · exact reads
      · exact (Operator.type_changes _ _).symm.trans reads
  | planFailures count delay => exact (Operator.plan_failures_changes _ _ _).symm.trans reads
  | planReply reply feed delay => cases feed <;> exact reads
  | _ => exact reads

theorem step_fair {play : Play} {step : Step} (fair : play.operator.Fair) (proper : step.Proper)
    (wired : play.operator.world.Wired) : (play.step step).1.operator.Fair := by
  intro reads
  exact World.stirred_unkept (play.step_stirred fair proper) wired
    (fair (play.perform_reads step reads))

/-- A rehearsal of these steps, one after another. -/
def rehearse (play : Play) (steps : List Step) : Play :=
  steps.foldl (fun play step => (play.step step).1) play

theorem rehearse_stirred (play : Play) {steps : List Step} (fair : play.operator.Fair)
    (proper : ∀ step ∈ steps, step.Proper) :
    Stirred play.operator.world (play.rehearse steps).operator.world := by
  intro wired
  induction steps generalizing play with
  | nil => exact .refl
  | cons step rest induction =>
      have properFirst := proper step List.mem_cons_self
      have first := play.step_stirred fair properFirst
      have wiredNext := (World.stirred_follows first wired).1
      refine (first wired).trans (induction _ (step_fair fair properFirst wired) ?_ wiredNext)
      exact fun other member => proper other (List.mem_cons_of_mem _ member)

theorem begin_fair (setup : Operator.Setup) : (begin setup).operator.Fair := by
  intro reads
  have unkept : setup.recent = none := by
    rw [begin, Operator.begin_changes, Bool.and_eq_true, Option.isNone_iff_eq_none] at reads
    exact reads.2
  exact World.stirred_unkept (Operator.begin_stirred setup) (World.setup_wired setup)
    (by rw [Operator.Setup.world, unkept, Option.map_none])

theorem setup_stirred (setup : Operator.Setup) {steps : List Step}
    (proper : ∀ step ∈ steps, step.Proper) :
    Stirred setup.world ((begin setup).rehearse steps).operator.world :=
  stirred_trans (Operator.begin_stirred setup)
    ((begin setup).rehearse_stirred (begin_fair setup) proper)

/-- What was shown of every desk is true of a rehearsal of any steps: its connection, its queues
and the orders that wait are those of a desk after some run from the start. -/
theorem rehearse_hosts (setup : Operator.Setup) {steps : List Step}
    (proper : ∀ step ∈ steps, step.Proper) :
    ∃ history asked desk,
      Desk.Run (.new setup.settings setup.chat setup.changes setup.notices) history asked desk ∧
        ((begin setup).rehearse steps).operator.world.Hosts desk := by
  exact World.stirred_attends (setup_stirred setup proper) (World.setup_wired setup) _
    (World.setup_hosts setup)

/-- Likewise for what was shown of every run of a dispatcher. -/
theorem rehearse_runs (setup : Operator.Setup) {steps : List Step}
    (proper : ∀ step ∈ steps, step.Proper) :
    ∃ history, Dispatcher.Run (.new setup.settings setup.chat setup.changes setup.notices) history
      ((begin setup).rehearse steps).operator.world.dispatcher := by
  obtain ⟨history, _, desk, run, hosts⟩ := rehearse_hosts setup proper
  exact ⟨history, hosts.dispatcher ▸ Desk.run_dispatcher run⟩

end Play

end LiveChat.Rehearsal
