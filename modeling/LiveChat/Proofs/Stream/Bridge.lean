import LiveChat.Proofs.Stream.Delivery
import LiveChat.Stream.RecentChanges
import Mathlib.Data.List.DropRight

/-!
Changes on their way from the link to those that are kept for display. A bridge takes them from
their queue, one at a time, and keeps the most recent. Whatever else happens meanwhile, what is kept
is the end of what was taken. Once no change is on its way any more it is the end of what was read
and accepted, and the bridge and the parked event can always get there by themselves.
-/

set_option autoImplicit false

namespace LiveChat.Stream

namespace RecentChanges

/-- What is kept is the end of what was added. At least one change is kept. -/
structure Holds (limit : Nat) (added : List Change) (recent : RecentChanges) : Prop where
  capacity : recent.capacity = max limit 1
  entries : recent.entries = added.rtake (max limit 1)

theorem rtake_all {Item : Type} {items : List Item} {count : Nat} (few : items.length ≤ count) :
    items.rtake count = items := by
  rw [List.rtake, Nat.sub_eq_zero_of_le few, List.drop_zero]

/-- One less at the end of a list is all but the first of them. -/
theorem rtake_tail {Item : Type} {items : List Item} {count : Nat} (enough : count < items.length) :
    (items.rtake (count + 1)).drop 1 = items.rtake count := by
  have next : items.length - (count + 1) + 1 = items.length - count := by omega
  rw [List.rtake, List.rtake, List.drop_drop, next]

theorem new_holds (limit : Nat) : (new limit).Holds limit [] := ⟨rfl, (List.rtake_nil _).symm⟩

/-- The oldest change goes exactly if the room is used up. The room is never exceeded, so it is
enough to look whether it is used up exactly. -/
theorem add_holds {limit : Nat} {added : List Change} {recent : RecentChanges} (change : Change)
    (holds : recent.Holds limit added) : (recent.add change).Holds limit (added ++ [change]) := by
  obtain ⟨count, room⟩ : ∃ count, max limit 1 = count + 1 := ⟨max limit 1 - 1, by omega⟩
  obtain ⟨capacity, entries⟩ := holds
  refine ⟨capacity, ?_⟩
  rw [room] at capacity entries ⊢
  have held : recent.entries.length = min (count + 1) added.length := by
    rw [entries, List.rtake, List.length_drop]
    omega
  rw [List.rtake_concat_succ]
  simp only [add, capacity]
  congr 1
  split
  · next full =>
    have enough : count < added.length := by omega
    rw [entries, rtake_tail enough]
  · next free =>
    have few : added.length ≤ count := by omega
    rw [entries, rtake_all few, rtake_all (Nat.le_succ_of_le few)]

end RecentChanges

theorem Channel.take_capacity {Item : Type} {channel rest : Channel Item} {item : Item}
    (taken : channel.take? = some (item, rest)) : rest.capacity = channel.capacity := by
  unfold take? at taken
  split at taken
  · cases taken
  · cases taken
    rfl

namespace Dispatcher

variable {now : Nat} {draw : Float} {dispatcher before after : Dispatcher} {move : Move}

/-! The queue of changes has the same room all the time. -/

def changesRoom (dispatcher : Dispatcher) : Option Nat := dispatcher.changes.map (·.capacity)

theorem deliver_change_room (change : Change) :
    (dispatcher.deliverChange change).changesRoom = dispatcher.changesRoom := by
  unfold deliverChange
  split
  · rfl
  · next queue found =>
    cases receiving : queue.receiving with
    | false => simp [Channel.offer, receiving]
    | true =>
        rcases Channel.offer_receiving change receiving with ⟨_, sent⟩ | ⟨_, full⟩
        · rw [sent, changesRoom, changesRoom, found]
          rfl
        · rw [full]
          rfl

theorem receive_room (payload : String) :
    (dispatcher.receive payload).changesRoom = dispatcher.changesRoom := by
  cases parsed : Event.parse dispatcher.settings.payloadLimit payload with
  | error rejection =>
      rw [receive_rejected parsed]
      rfl
  | ok event =>
      rw [receive_accepted parsed]
      cases event.route with
      | change change => exact deliver_change_room change
      | keepalive => rfl
      | chat event =>
          simp only [deliver]
          split
          · rfl
          · next queue _ =>
            obtain ⟨chats, parked, same⟩ := deliver_chat_frame queue event
              { dispatcher with
                connection :=
                  { dispatcher.connection with
                    counters := dispatcher.connection.counters.payload.dispatch } }
            rw [same]
            rfl

theorem unpark_room : dispatcher.unpark.changesRoom = dispatcher.changesRoom := by
  unfold unpark
  split
  · split
    · rfl
    · next queue event _ =>
      obtain ⟨chats, parked, same⟩ :=
        deliver_chat_frame queue event { dispatcher with parked := none }
      rw [same]
      rfl
    · exact deliver_change_room _
  · rfl

theorem step_room (step : Step now draw before move after) :
    after.changesRoom = before.changesRoom := by
  cases step with
  | signal signal =>
      obtain ⟨notices, lost, parked, same⟩ := after_signal_frame now draw signal before
      rw [same]
      rfl
  | payload text => exact receive_room text
  | unpark => exact unpark_room
  | takeChange found taken =>
      rw [changesRoom, changesRoom, found, Option.map_some, Option.map_some,
        Channel.take_capacity taken]
  | dropChanges =>
      simp only [changesRoom, Option.map_map]
      rfl
  | _ => rfl

/-- Only its owner's order ends a connection. -/
theorem step_alive (step : Step now draw before move after) (lasting : move ≠ .signal .destroy)
    (alive : before.connection.destroyed = false) : after.connection.destroyed = false := by
  obtain ⟨counters, same | ⟨signal, rfl, _, _, same⟩⟩ := step_connection step
  · rw [same]
    exact alive
  · have steady : signal ≠ .destroy := fun ends => lasting (congrArg Move.signal ends)
    have kept :=
      (Connection.step_keeps before.settings now draw before.connection signal).1 steady
    rw [same]
    exact kept.trans alive

end Dispatcher

/-- A dispatcher, and what is kept of the changes that were taken from it. -/
structure Bridge where
  dispatcher : Dispatcher
  recent : RecentChanges

namespace Bridge

def new (settings : Settings) (chat : Option Nat) (changes : Nat) (notices : Option Nat)
    (limit : Nat) : Bridge :=
  { dispatcher := .new settings chat (some changes) notices, recent := .new limit }

/-- Nobody but the bridge reads the changes, so nobody else takes them or stops reading. -/
def Aside : Move → Prop
  | .takeChange _ => False
  | .dropChanges => False
  | _ => True

/-- The bridge takes a change and keeps it, or something else happens to the dispatcher. -/
inductive Step (now : Nat) (draw : Float) : Bridge → Move → Bridge → Prop where
  | take {bridge : Bridge} {change : Change} {dispatcher : Dispatcher}
      (step : Dispatcher.Step now draw bridge.dispatcher (.takeChange change) dispatcher) :
      Step now draw bridge (.takeChange change) ⟨dispatcher, bridge.recent.add change⟩
  | aside {bridge : Bridge} {move : Move} {dispatcher : Dispatcher} (aside : Aside move)
      (step : Dispatcher.Step now draw bridge.dispatcher move dispatcher) :
      Step now draw bridge move ⟨dispatcher, bridge.recent⟩

/-- Any number of steps, with all that happened, oldest first. -/
inductive Run (start : Bridge) : List Happening → Bridge → Prop where
  | start : Run start [] start
  | next {history : List Happening} {before after : Bridge} {happening : Happening}
      (run : Run start history before)
      (step : Step happening.now happening.draw before happening.move after) :
      Run start (history ++ [happening]) after

variable {now : Nat} {draw : Float} {start middle final before after : Bridge} {move : Move}
  {history earlier later : List Happening} {limit : Nat} {added : List Change}

theorem Run.append (first : Run start earlier middle) (second : Run middle later final) :
    Run start (earlier ++ later) final := by
  induction second with
  | start => rwa [List.append_nil]
  | next _ step induction =>
      rw [← List.append_assoc]
      exact .next induction step

theorem step_dispatcher (step : Step now draw before move after) :
    Dispatcher.Step now draw before.dispatcher move after.dispatcher := by
  cases step with
  | take step => exact step
  | aside _ step => exact step

theorem run_dispatcher (run : Run start history final) :
    Dispatcher.Run start.dispatcher history final.dispatcher := by
  induction run with
  | start => exact .start
  | next _ step induction => exact .next induction (step_dispatcher step)

/-- As long as nobody destroys the connection, no move loses a change. -/
theorem step_keeps_changes (step : Step now draw before move after)
    (lasting : move ≠ .signal .destroy) : move.KeepsChanges := by
  cases step with
  | take step => trivial
  | aside aside step =>
      cases move with
      | signal signal => exact fun ends => lasting (congrArg Move.signal ends)
      | dropChanges => exact aside.elim
      | _ => trivial

theorem run_keeps_changes (run : Run start history final)
    (lasting : ∀ happening ∈ history, happening.move ≠ .signal .destroy) :
    ∀ happening ∈ history, happening.move.KeepsChanges := by
  induction run with
  | start => simp
  | @next history before after happening run step induction =>
      intro other member
      rcases List.mem_append.mp member with old | new
      · exact induction (fun each among => lasting each (List.mem_append_left _ among)) other old
      · rw [List.mem_singleton.mp new]
        exact step_keeps_changes step (lasting happening (by simp))

/-! What is kept. -/

theorem step_holds (step : Step now draw before move after)
    (holds : before.recent.Holds limit added) :
    after.recent.Holds limit (added ++ move.takenChange?.toList) := by
  cases step with
  | take step => exact RecentChanges.add_holds _ holds
  | aside aside step =>
      have untaken : move.takenChange? = none := by
        cases move with
        | takeChange change => exact aside.elim
        | _ => rfl
      rw [untaken, Option.toList_none, List.append_nil]
      exact holds

/-- At every moment the end of what the bridge has taken is kept. -/
theorem run_holds (run : Run start history final) (holds : start.recent.Holds limit added) :
    final.recent.Holds limit (added ++ changesTaken history) := by
  induction run with
  | start => simpa [changesTaken] using holds
  | next run step induction =>
      rw [changesTaken, Dispatcher.filter_map_next, ← List.append_assoc]
      exact step_holds step induction

/-! Getting everything through. -/

/-- The connection lives, and there is room for a change when none waits. -/
structure Open (bridge : Bridge) : Prop where
  alive : bridge.dispatcher.connection.destroyed = false
  room : ∃ count, bridge.dispatcher.changesRoom = some (count + 1)

theorem run_open (run : Run start history final) (opened : start.Open)
    (lasting : ∀ happening ∈ history, happening.move ≠ .signal .destroy) : final.Open := by
  induction run with
  | start => exact opened
  | @next history before after happening run step induction =>
      obtain ⟨alive, count, room⟩ :=
        induction fun other member => lasting other (List.mem_append_left _ member)
      have step := step_dispatcher step
      refine ⟨Dispatcher.step_alive step (lasting happening (by simp)) alive, count, ?_⟩
      rw [Dispatcher.step_room step, room]

/-- What the bridge and the parked event do by themselves. -/
def Drains : Move → Prop
  | .takeChange _ => True
  | .unpark => True
  | _ => False

/-- The bridge can take all that waits, one change after another. -/
theorem takes_all (bridge : Bridge) {queue : Channel Change}
    (found : bridge.dispatcher.changes = some queue) :
    ∃ later drained, Run bridge later drained ∧ (∀ happening ∈ later, Drains happening.move) ∧
      drained.dispatcher =
        { bridge.dispatcher with changes := some { queue with items := [] } } := by
  obtain ⟨dispatcher, recent⟩ := bridge
  obtain ⟨capacity, items, receiving⟩ := queue
  induction items generalizing dispatcher recent with
  | nil =>
      refine ⟨[], _, .start, by simp, ?_⟩
      rw [← found]
  | cons change rest induction =>
      let left : Channel Change := ⟨capacity, rest, receiving⟩
      have taken : Dispatcher.Step 0 0 dispatcher (.takeChange change)
          { dispatcher with changes := some left } := .takeChange found rfl
      obtain ⟨later, drained, run, drains, same⟩ :=
        induction { dispatcher with changes := some left } (recent.add change) rfl
      have first : Run ⟨dispatcher, recent⟩ ([] ++ [⟨0, 0, .takeChange change⟩]) _ :=
        .next .start (.take taken)
      refine ⟨_, drained, first.append run, ?_, same⟩
      intro happening member
      rcases List.mem_cons.mp member with rfl | others
      · trivial
      · exact drains happening others

theorem parked_change {parked : Option Parked} {change : Change}
    (waits : parked.bind Parked.change? = some change) : parked = some (.change change) := by
  cases parked with
  | none => cases waits
  | some event =>
      cases event with
      | chat place event => cases waits
      | change other => exact congrArg (some ∘ Parked.change) (Option.some.inj waits)

/-- With its queue empty a parked change can move. -/
theorem unparks {queue : Channel Change} {change : Change} (opened : before.Open)
    (found : before.dispatcher.changes = some queue) (empty : queue.items = [])
    (waits : before.dispatcher.parked = some (.change change)) :
    ∃ next, Step 0 0 before .unpark ⟨before.dispatcher.unpark, before.recent⟩ ∧
      before.dispatcher.unpark.parked = none ∧
      before.dispatcher.unpark.changes = some next := by
  obtain ⟨alive, count, room⟩ := opened
  have capacity : queue.capacity = count + 1 := by
    simpa [Dispatcher.changesRoom, found] using room
  have ready : before.dispatcher.parkedReady = true := by
    simp [Dispatcher.parkedReady, waits, found, Channel.hasRoom, empty, capacity]
  have kept := Dispatcher.unpark_room.trans room
  obtain ⟨next, present, _⟩ := Option.map_eq_some_iff.mp kept
  exact ⟨next, .aside trivial (.unpark alive ready), Dispatcher.unpark_frees ready, present⟩

/-- The bridge and the parked event can always bring every change through. -/
theorem drains_all (opened : before.Open) :
    ∃ later drained, Run before later drained ∧ (∀ happening ∈ later, Drains happening.move) ∧
      drained.dispatcher.changesUnderWay = [] := by
  obtain ⟨alive, count, room⟩ := opened
  obtain ⟨queue, found, capacity⟩ := Option.map_eq_some_iff.mp room
  obtain ⟨later, emptied, run, drains, same⟩ := takes_all before found
  have parked : emptied.dispatcher.parked = before.dispatcher.parked := by rw [same]
  have present : emptied.dispatcher.changes = some { queue with items := [] } := by rw [same]
  cases waiting : before.dispatcher.parked.bind Parked.change? with
  | none =>
      refine ⟨later, emptied, run, drains, ?_⟩
      rw [Dispatcher.changes_under_way_eq present, parked, waiting]
      rfl
  | some change =>
      have still : emptied.Open := by
        refine ⟨?_, count, ?_⟩
        · rw [same]
          exact alive
        · rw [Dispatcher.changesRoom, present, Option.map_some, capacity]
      have waits := parked.trans (parked_change waiting)
      obtain ⟨next, step, freed, here⟩ := unparks still present rfl waits
      obtain ⟨last, drained, more, final, left⟩ :=
        takes_all ⟨emptied.dispatcher.unpark, emptied.recent⟩ here
      have between : Run before (later ++ [⟨0, 0, .unpark⟩]) _ := .next run step
      refine ⟨_, drained, between.append more, ?_, ?_⟩
      · intro happening member
        simp only [List.append_assoc, List.mem_append, List.mem_singleton] at member
        rcases member with first | rfl | others
        · exact drains happening first
        · trivial
        · exact final happening others
      · have empty : drained.dispatcher.changes = some { next with items := [] } := by rw [left]
        have nothing : drained.dispatcher.parked = none := by
          rw [left]
          exact freed
        rw [Dispatcher.changes_under_way_eq empty, nothing]
        rfl

theorem drains_unread (limit : Nat) (drains : ∀ happening ∈ later, Drains happening.move) :
    changesRead limit later = [] := by
  rw [changesRead, List.filterMap_eq_nil_iff]
  intro happening member
  have drain := drains happening member
  cases moved : happening.move with
  | payload text =>
      rw [moved] at drain
      exact drain.elim
  | _ => rfl

theorem drains_lasting (drains : ∀ happening ∈ later, Drains happening.move) :
    ∀ happening ∈ later, happening.move ≠ .signal .destroy := by
  intro happening member ends
  have drain := drains happening member
  rw [ends] at drain
  exact drain

/-- With nothing on its way, the bridge has taken all that was read and accepted, in its order. -/
theorem drained_taken {settings : Settings} {chat notices : Option Nat} {changes : Nat}
    (run : Run (.new settings chat changes notices limit) history final)
    (lasting : ∀ happening ∈ history, happening.move ≠ .signal .destroy)
    (drained : final.dispatcher.changesUnderWay = []) :
    changesTaken history = changesRead settings.payloadLimit history := by
  have through := Dispatcher.run_changes (run_dispatcher run) (run_keeps_changes run lasting)
    ⟨.new changes, rfl, rfl⟩
  rw [drained, List.append_nil] at through
  exact through

/-- The snapshot is the end of what the bridge has taken, at every moment and under every order of
moves. If nobody destroys the connection, it is the end of all changes that were read and accepted
once none of them is on its way, and that always can be reached without anything else happening. -/
theorem snapshots_recent (settings : Settings) (chat notices : Option Nat) {changes : Nat}
    (limit : Nat) (room : 0 < changes) {history : List Happening} {final : Bridge}
    (run : Run (.new settings chat changes notices limit) history final) :
    final.recent.entries = (changesTaken history).rtake (max limit 1) ∧
      ((∀ happening ∈ history, happening.move ≠ .signal .destroy) →
        (final.dispatcher.changesUnderWay = [] →
          final.recent.entries =
            (changesRead settings.payloadLimit history).rtake (max limit 1)) ∧
        ∃ later drained, Run final later drained ∧
          (∀ happening ∈ later, Drains happening.move) ∧
          drained.dispatcher.changesUnderWay = [] ∧
          drained.recent.entries =
            (changesRead settings.payloadLimit history).rtake (max limit 1)) := by
  have taken : ∀ {moves last}, Run (.new settings chat changes notices limit) moves last →
      last.recent.entries = (changesTaken moves).rtake (max limit 1) := by
    intro moves last run
    exact (run_holds run (RecentChanges.new_holds limit)).entries
  refine ⟨taken run, fun lasting => ⟨?_, ?_⟩⟩
  · intro drained
    rw [taken run, drained_taken run lasting drained]
  · have opened : (Bridge.new settings chat changes notices limit).Open :=
      ⟨rfl, changes - 1, by simp [new, Dispatcher.changesRoom, Dispatcher.new, Channel.new]; omega⟩
    obtain ⟨later, drained, more, drains, nothing⟩ := drains_all (run_open run opened lasting)
    have whole := run.append more
    have steady : ∀ happening ∈ history ++ later, happening.move ≠ .signal .destroy := by
      intro happening member
      rcases List.mem_append.mp member with old | new
      · exact lasting happening old
      · exact drains_lasting drains happening new
    have read : changesRead settings.payloadLimit (history ++ later) =
        changesRead settings.payloadLimit history := by
      rw [changesRead, List.filterMap_append, ← changesRead, ← changesRead,
        drains_unread _ drains, List.append_nil]
    refine ⟨later, drained, more, drains, nothing, ?_⟩
    rw [taken whole, drained_taken whole steady nothing, read]

def older : Change := ⟨"job", "1", "new"⟩

def newer : Change := ⟨"job", "2", "new"⟩

def olderText : String :=
  "\x7b\"type\":\"data_changed\",\"resource\":\"job\",\"id\":\"1\",\"action\":\"new\"\x7d"

def newerText : String :=
  "\x7b\"type\":\"data_changed\",\"resource\":\"job\",\"id\":\"2\",\"action\":\"new\"\x7d"

/-- Two changes for a queue with one place and a cache that keeps one. The second is parked until
the first is taken, and takes its place in the end. -/
def narrowHistory : List Happening :=
  [⟨0, 0, .signal .connect⟩, ⟨1, 0, .signal .opened⟩, ⟨2, 0, .payload olderText⟩,
    ⟨3, 0, .payload newerText⟩, ⟨4, 0, .takeChange older⟩, ⟨5, 0, .unpark⟩,
    ⟨6, 0, .takeChange newer⟩]

/-- The states of a bridge in that history, once the link is live. -/
def narrow (read : Nat) (items : List Change) (parked : Option Parked) (entries : List Change) :
    Bridge :=
  { dispatcher :=
      { Dispatcher.new .standard none (some 1) none with
        connection :=
          { Connection.initial with
            status := .connected, statusChanges := 1, link := some .live
            counters := ⟨read, read, 0, 0, 0, 1, 0, 0⟩ }
        changes := some ⟨1, items, true⟩
        parked }
    recent := ⟨1, entries⟩ }

theorem narrow_receives :
    (narrow 0 [] none []).dispatcher.receive olderText =
        (narrow 1 [older] none []).dispatcher ∧
      (narrow 1 [older] none []).dispatcher.receive newerText =
        (narrow 2 [older] (some (.change newer)) []).dispatcher := by
  constructor
  · exact @Dispatcher.receive_accepted (narrow 0 [] none []).dispatcher _ (.dataChanged older)
      (Event.parse_written (by decide +kernel) rfl trivial (by decide))
  · exact @Dispatcher.receive_accepted (narrow 1 [older] none []).dispatcher _ (.dataChanged newer)
      (Event.parse_written (by decide +kernel) rfl trivial (by decide))

theorem narrow_snapshot :
    Run (.new .standard none 1 none 0) narrowHistory (narrow 2 [] none [newer]) ∧
      (∀ happening ∈ narrowHistory, happening.move ≠ .signal .destroy) ∧
      (narrow 2 [] none [newer]).dispatcher.changesUnderWay = [] ∧
      [newer] = (changesTaken narrowHistory).rtake (max 0 1) ∧
      [newer] = (changesRead maxPayload narrowHistory).rtake (max 0 1) := by
  have connecting : Run (.new .standard none 1 none 0) (narrowHistory.take 1) _ :=
    .next .start (.aside trivial (.signal .connect rfl trivial))
  have opened : Run (.new .standard none 1 none 0) (narrowHistory.take 2)
      (narrow 0 [] none []) := .next connecting (.aside trivial (.signal .opened rfl rfl))
  obtain ⟨first, second⟩ := narrow_receives
  have one : Dispatcher.Step 2 0 (narrow 0 [] none []).dispatcher (.payload olderText)
      (narrow 1 [older] none []).dispatcher := by
    rw [← first]
    exact .payload _ rfl rfl rfl
  have two : Dispatcher.Step 3 0 (narrow 1 [older] none []).dispatcher
      (.payload newerText)
      (narrow 2 [older] (some (.change newer)) []).dispatcher := by
    rw [← second]
    exact .payload _ rfl rfl rfl
  have queued : Run (.new .standard none 1 none 0) (narrowHistory.take 3)
      (narrow 1 [older] none []) := .next opened (.aside trivial one)
  have parked : Run (.new .standard none 1 none 0) (narrowHistory.take 4)
      (narrow 2 [older] (some (.change newer)) []) :=
    .next queued (.aside trivial two)
  have taken : Run (.new .standard none 1 none 0) (narrowHistory.take 5)
      (narrow 2 [] (some (.change newer)) [older]) :=
    .next parked (.take (.takeChange rfl rfl))
  have moved : Run (.new .standard none 1 none 0) (narrowHistory.take 6)
      (narrow 2 [newer] none [older]) := .next taken (.aside trivial (.unpark rfl rfl))
  have run : Run (.new .standard none 1 none 0) narrowHistory
      (narrow 2 [] none [newer]) := .next moved (.take (.takeChange rfl rfl))
  have lasting : ∀ happening ∈ narrowHistory, happening.move ≠ .signal .destroy := by
    simp [narrowHistory]
  have recent := snapshots_recent .standard none none 0 Nat.one_pos run
  exact ⟨run, lasting, rfl, recent.1, (recent.2 lasting).1 rfl⟩

end Bridge

end LiveChat.Stream
