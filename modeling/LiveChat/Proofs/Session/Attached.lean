import LiveChat.Conversation.Payload
import LiveChat.Proofs.Conversation.Twins
import LiveChat.Proofs.Session.Runs
import LiveChat.Proofs.Stream.Delivery

/-!
A session that listens to a connection through a queue. Payloads arrive, the connection reads them
and the session hears them, each in its own time, and what does not fit in the queue is parked
meanwhile. Nothing of this can be seen in the conversation once both are done.
-/

set_option autoImplicit false

namespace LiveChat.Stream.Dispatcher

/-! The room in a queue. -/

theorem set_chat_capacities {place : Nat} {dispatcher : Dispatcher}
    {channel next : Channel ChatEvent} (found : dispatcher.chat? place = some channel)
    (same : next.capacity = channel.capacity) :
    (dispatcher.setChat place next).chats.map (·.capacity) = dispatcher.chats.map (·.capacity) := by
  obtain ⟨bound, rfl⟩ := List.getElem?_eq_some_iff.mp found
  simp only [setChat, List.map_set, same]
  apply List.ext_getElem?
  intro index
  by_cases own : place = index
  · subst own
    simp [bound]
  · simp [own]

theorem deliver_chat_capacities (place : Nat) (event : ChatEvent) (dispatcher : Dispatcher) :
    (dispatcher.deliverChat place event).chats.map (·.capacity) =
      dispatcher.chats.map (·.capacity) := by
  unfold deliverChat
  split
  · rfl
  · next channel found =>
    split
    · next next sent =>
      apply set_chat_capacities found
      unfold Channel.offer at sent
      split at sent
      · cases sent
      · split at sent
        · cases sent
          rfl
        · cases sent
    · rfl
    · rfl

theorem deliver_change_chats_same (change : Change) (dispatcher : Dispatcher) :
    (dispatcher.deliverChange change).chats = dispatcher.chats := by
  unfold deliverChange
  split
  · rfl
  · split <;> rfl

theorem receive_capacities (payload : String) (dispatcher : Dispatcher) :
    (dispatcher.receive payload).chats.map (·.capacity) = dispatcher.chats.map (·.capacity) := by
  cases parsed : Event.parse dispatcher.settings.payloadLimit payload with
  | error rejection => rw [receive_rejected parsed]
  | ok event =>
      rw [receive_accepted parsed]
      cases event.route with
      | chat chat =>
          simp only [deliver]
          split
          · rfl
          · exact deliver_chat_capacities _ chat _
      | change change => rw [deliver, deliver_change_chats_same]
      | keepalive => rfl

theorem unpark_capacities (dispatcher : Dispatcher) :
    dispatcher.unpark.chats.map (·.capacity) = dispatcher.chats.map (·.capacity) := by
  unfold unpark
  split
  · split
    · rfl
    · exact deliver_chat_capacities _ _ _
    · rw [deliver_change_chats_same]
  · rfl

/-- Queues are added, but none changes its size. -/
theorem step_capacities {now : Nat} {draw : Float} {before after : Dispatcher} {move : Move}
    (step : Step now draw before move after) :
    before.chats.map (·.capacity) <+: after.chats.map (·.capacity) := by
  cases step with
  | signal signal =>
      obtain ⟨notices, lost, parked, same⟩ := after_signal_frame now draw signal before
      have kept : (before.afterSignal now draw signal).chats = before.chats := by rw [same]
      exact kept.symm ▸ List.prefix_rfl
  | payload text => exact (receive_capacities text before).symm ▸ List.prefix_rfl
  | unpark => exact (unpark_capacities before).symm ▸ List.prefix_rfl
  | @takeChat place event channel rest found taken =>
      have same : rest.capacity = channel.capacity := by
        unfold Channel.take? at taken
        split at taken
        · cases taken
        · cases taken
          rfl
      exact (set_chat_capacities found same).symm ▸ List.prefix_rfl
  | addChat capacity =>
      rw [addChat, List.map_append]
      exact List.prefix_append _ _
  | @dropChat place channel found =>
      have dropped := @set_chat_capacities _ _ _ channel.drop found rfl
      exact dropped.symm ▸ List.prefix_rfl
  | _ => exact List.prefix_rfl

/-- There is a queue at this place that can hold something. -/
def Roomy (queue : Nat) (dispatcher : Dispatcher) : Prop :=
  ∃ channel, dispatcher.chat? queue = some channel ∧ 0 < channel.capacity

theorem step_roomy {now : Nat} {draw : Float} {before after : Dispatcher} {move : Move}
    {queue : Nat} (step : Step now draw before move after) (roomy : before.Roomy queue) :
    after.Roomy queue := by
  obtain ⟨channel, found, room⟩ := roomy
  have sized : (before.chats.map (·.capacity))[queue]? = some channel.capacity := by
    rw [List.getElem?_map, show before.chats[queue]? = some channel from found]
    rfl
  obtain ⟨bound, _⟩ := List.getElem?_eq_some_iff.mp sized
  obtain ⟨more, whole⟩ := step_capacities step
  have kept : (after.chats.map (·.capacity))[queue]? = some channel.capacity := by
    rw [← whole, List.getElem?_append_left bound]
    exact sized
  rw [List.getElem?_map] at kept
  obtain ⟨next, present, same⟩ := Option.map_eq_some_iff.mp kept
  exact ⟨next, present, same ▸ room⟩

end LiveChat.Stream.Dispatcher

namespace LiveChat.Session

open Conversation (Action Message State)
open LiveChat.Stream (Dispatcher Move Event Route ChatEvent Channel Parked)
open LiveChat.Stream.Dispatcher (Step)

/-- What happens beside payloads and the queue: nothing of it is a command or a failure. -/
def Beside (queue : Nat) (move : Move) : Prop :=
  move.KeepsChats queue ∧ move.payload? = none ∧ move.takenChat? queue = none ∧
    ∀ signal, move ≠ .signal signal

/-- The session listens to this queue of an open connection, and is asked for nothing else. -/
structure Attached {Caller : Type} (queue : Nat) (dispatcher : Dispatcher)
    (session : Session Caller) : Prop where
  live : dispatcher.connection.link = some .live
  alive : dispatcher.connection.destroyed = false
  handled : dispatcher.ChatsHandled queue
  roomy : dispatcher.Roomy queue
  listening : session.events = some queue
  running : session.stopped = false
  unasked : session.requests = []
  unreported : session.outcomes = []

/-- A connection and a session, with the payloads that arrived and were not read yet. -/
structure Coupling (Caller : Type) where
  dispatcher : Dispatcher
  session : Session Caller
  unread : List String

namespace Coupling

variable {Caller : Type} {queue : Nat}

/-- The chat event that a payload is accepted for. -/
def chatOf? (limit : Nat) (payload : String) : Option ChatEvent :=
  ((Move.payload payload).route? limit).bind Route.chat?

def chatsOf (limit : Nat) (payloads : List String) : List ChatEvent :=
  payloads.filterMap (chatOf? limit)

/-- The actions that payloads give, in order. -/
def actionsOf (limit : Nat) (payloads : List String) : List Action :=
  payloads.filterMap fun payload => (Action.ofPayload limit payload).toOption

theorem actions_of_chats (limit : Nat) (payloads : List String) :
    actionsOf limit payloads = (chatsOf limit payloads).map .ofChat := by
  rw [actionsOf, chatsOf, List.map_filterMap]
  congr 1
  funext payload
  cases parsed : Event.parse limit payload with
  | error rejection => simp [Action.ofPayload, chatOf?, Move.route?, parsed, Except.toOption]
  | ok event =>
      cases routed : event.route <;>
        simp [Action.ofPayload, chatOf?, Move.route?, parsed, routed, Route.chat?, Except.toOption]

/-- What the session may hear from the connection's queues. -/
def offer (coupling : Coupling Caller) : Offer :=
  match coupling.session.events with
  | none => .nothing
  | some place =>
      match (coupling.dispatcher.chatsQueued place).head? with
      | some event => .event event
      | none => if coupling.dispatcher.chatSending place then .nothing else .ended

/-- The connection without the event that the session heard. -/
def withoutHeard (input : Input Caller) (coupling : Coupling Caller) : Dispatcher :=
  match input, coupling.session.events with
  | .event _, some place =>
      match (coupling.dispatcher.chat? place).bind Channel.take? with
      | none => coupling.dispatcher
      | some (_, rest) => coupling.dispatcher.setChat place rest
  | _, _ => coupling.dispatcher

def turn (stamp : Message.Stamp) (input : Input Caller) (session : Session Caller)
    (coupling : Coupling Caller) : Coupling Caller :=
  { coupling with
    dispatcher := coupling.withoutHeard input, session := (session.take stamp input).session }

/-- Both go on, each in its own time, while payloads arrive. All payloads that arrived and the
stamps of all turns of the session are kept. -/
inductive Coupled (queue : Nat) (start : Coupling Caller) :
    List String → List Message.Stamp → Coupling Caller → Prop where
  | start : Coupled queue start [] [] start
  | arrive {pushed : List String} {stamps : List Message.Stamp} {coupling : Coupling Caller}
      (before : Coupled queue start pushed stamps coupling) (payload : String) :
      Coupled queue start (pushed ++ [payload]) stamps
        { coupling with unread := coupling.unread ++ [payload] }
  | read {pushed later : List String} {stamps : List Message.Stamp} {coupling : Coupling Caller}
      {now : Nat} {draw : Float} {payload : String} {dispatcher : Dispatcher}
      (before : Coupled queue start pushed stamps coupling)
      (first : coupling.unread = payload :: later)
      (step : Step now draw coupling.dispatcher (.payload payload) dispatcher) :
      Coupled queue start pushed stamps { coupling with dispatcher, unread := later }
  | beside {pushed : List String} {stamps : List Message.Stamp} {coupling : Coupling Caller}
      {now : Nat} {draw : Float} {move : Move} {dispatcher : Dispatcher}
      (before : Coupled queue start pushed stamps coupling) (aside : Beside queue move)
      (step : Step now draw coupling.dispatcher move dispatcher) :
      Coupled queue start pushed stamps { coupling with dispatcher }
  | turn {pushed : List String} {stamps : List Message.Stamp} {coupling : Coupling Caller}
      {input : Input Caller} {session : Session Caller}
      (before : Coupled queue start pushed stamps coupling) (stamp : Message.Stamp)
      (next : coupling.session.next? coupling.offer = some (input, session)) :
      Coupled queue start pushed (stamps ++ [stamp]) (coupling.turn stamp input session)

/-- Nothing has arrived yet. -/
structure Fresh (queue : Nat) (coupling : Coupling Caller) : Prop where
  attached : Attached queue coupling.dispatcher coupling.session
  empty : coupling.dispatcher.chatsUnderWay queue = []
  unread : coupling.unread = []

/-- There is nothing left to do. -/
structure Idle (coupling : Coupling Caller) : Prop where
  unread : coupling.unread = []
  parked : coupling.dispatcher.parked = none
  session : coupling.session.next? coupling.offer = none

/-- Neither can go on. -/
structure Resting (coupling : Coupling Caller) : Prop where
  unread : coupling.unread = [] ∨ coupling.dispatcher.listening = false
  parked : coupling.dispatcher.parkedReady = false
  session : coupling.session.next? coupling.offer = none

/-- With an event in its queue, that is what the session hears. -/
theorem attached_offered {coupling : Coupling Caller}
    (attached : Attached queue coupling.dispatcher coupling.session) :
    coupling.session.next? coupling.offer =
      (coupling.dispatcher.chatsQueued queue).head?.map fun event =>
        (.event event, coupling.session) := by
  have sending : coupling.dispatcher.chatSending queue = true := by
    simp [Dispatcher.chatSending, attached.handled.1]
  simp only [offer, attached.listening, next?, attached.running, attached.unasked,
    attached.unreported, Bool.false_eq_true, if_false]
  cases (coupling.dispatcher.chatsQueued queue).head? with
  | none => simp [sending]
  | some event => rfl

theorem attached_hears {coupling : Coupling Caller} {input : Input Caller}
    {session : Session Caller} (attached : Attached queue coupling.dispatcher coupling.session)
    (next : coupling.session.next? coupling.offer = some (input, session)) :
    ∃ event channel rest, input = .event event ∧ session = coupling.session ∧
      coupling.dispatcher.chat? queue = some channel ∧ channel.take? = some (event, rest) ∧
      coupling.withoutHeard input = coupling.dispatcher.setChat queue rest := by
  rw [attached_offered attached] at next
  obtain ⟨event, first, same⟩ := Option.map_eq_some_iff.mp next
  cases same
  obtain ⟨_, channel, found, _⟩ := attached.handled
  have queued : coupling.dispatcher.chatsQueued queue = channel.items := by
    simp [Dispatcher.chatsQueued, found]
  obtain ⟨later, items⟩ := List.head?_eq_some_iff.mp (queued ▸ first)
  have taken : channel.take? = some (event, { channel with items := later }) := by
    simp [Channel.take?, items]
  refine ⟨event, channel, _, rfl, rfl, found, taken, ?_⟩
  simp only [withoutHeard, attached.listening, found, Option.bind_some, taken]

theorem attached_silent {coupling : Coupling Caller}
    (attached : Attached queue coupling.dispatcher coupling.session)
    (silent : coupling.session.next? coupling.offer = none) :
    coupling.dispatcher.chatsQueued queue = [] := by
  rw [attached_offered attached] at silent
  simpa using silent

/-! The run. -/

/-- How a coupling stands in a run: what the session heard, what is on its way to it and what is
not read yet are together what the payloads hold. -/
structure Along (queue : Nat) (start : Coupling Caller) (pushed : List String)
    (stamps : List Message.Stamp) (coupling : Coupling Caller) (heard : List ChatEvent) : Prop where
  attached : Attached queue coupling.dispatcher coupling.session
  settings : coupling.dispatcher.settings = start.dispatcher.settings
  order : heard ++ coupling.dispatcher.chatsUnderWay queue ++
      chatsOf start.dispatcher.settings.payloadLimit coupling.unread =
    chatsOf start.dispatcher.settings.payloadLimit pushed
  count : stamps.length = heard.length
  state : coupling.session.state =
    (stamps.zip (heard.map .ofChat)).foldl State.after start.session.state

/-- A step that is no signal leaves the connection as it is. -/
theorem step_attached {before after : Dispatcher} {session : Session Caller} {now : Nat}
    {draw : Float} {move : Move} (step : Step now draw before move after)
    (steady : ∀ signal, move ≠ .signal signal) (keeps : move.KeepsChats queue)
    (attached : Attached queue before session) : Attached queue after session := by
  have linked : after.connection.link = some .live ∧ after.connection.destroyed = false := by
    obtain ⟨counters, same | ⟨signal, order, _⟩⟩ := Dispatcher.step_connection step
    · rw [same]
      exact ⟨attached.live, attached.alive⟩
    · exact absurd order (steady signal)
  exact ⟨linked.1, linked.2, (Dispatcher.step_chats step keeps attached.handled).1,
    Dispatcher.step_roomy step attached.roomy, attached.listening, attached.running,
    attached.unasked, attached.unreported⟩

theorem chats_concat (limit : Nat) (payloads : List String) (payload : String) :
    chatsOf limit (payloads ++ [payload]) =
      chatsOf limit payloads ++ (chatOf? limit payload).toList := by
  rw [chatsOf, List.filterMap_append]
  cases read : chatOf? limit payload <;> simp [chatsOf, read]

theorem chats_cons (limit : Nat) (payload : String) (payloads : List String) :
    chatsOf limit (payload :: payloads) =
      (chatOf? limit payload).toList ++ chatsOf limit payloads := by
  rw [chatsOf, List.filterMap_cons]
  cases read : chatOf? limit payload <;> simp [chatsOf]

theorem route_of_unread {move : Move} (limit : Nat) (unread : move.payload? = none) :
    move.route? limit = none := by
  cases move with
  | payload text => cases unread
  | _ => rfl

theorem coupled_along {start coupling : Coupling Caller} {pushed : List String}
    {stamps : List Message.Stamp} (fresh : start.Fresh queue)
    (run : Coupled queue start pushed stamps coupling) :
    ∃ heard, Along queue start pushed stamps coupling heard := by
  induction run with
  | start =>
      refine ⟨[], fresh.attached, rfl, ?_, rfl, rfl⟩
      rw [fresh.empty, fresh.unread]
      rfl
  | arrive before payload induction =>
      obtain ⟨heard, attached, settings, order, count, state⟩ := induction
      refine ⟨heard, attached, settings, ?_, count, state⟩
      rw [chats_concat, chats_concat, ← order]
      simp only [List.append_assoc]
  | read before first step induction =>
      obtain ⟨heard, attached, settings, order, count, state⟩ := induction
      have flows := (Dispatcher.step_chats step trivial attached.handled).2
      refine ⟨heard, step_attached step (by rintro _ ⟨⟩) trivial attached,
        (Dispatcher.step_settings step).trans settings, ?_, count, state⟩
      rw [settings] at flows
      rw [first, chats_cons, chatOf?] at order
      simp only [Move.takenChat?, Option.toList_none, List.nil_append] at flows
      rw [flows, ← order]
      simp only [List.append_assoc]
  | beside before aside step induction =>
      obtain ⟨heard, attached, settings, order, count, state⟩ := induction
      obtain ⟨keeps, unread, untaken, steady⟩ := aside
      have flows := (Dispatcher.step_chats step keeps attached.handled).2
      refine ⟨heard, step_attached step steady keeps attached,
        (Dispatcher.step_settings step).trans settings, ?_, count, state⟩
      rw [untaken, route_of_unread _ unread] at flows
      simp only [Option.toList_none, List.nil_append, Option.bind_none, List.append_nil] at flows
      rw [flows]
      exact order
  | @turn pushed stamps coupling input session before stamp next induction =>
      obtain ⟨heard, attached, settings, order, count, state⟩ := induction
      obtain ⟨event, channel, rest, rfl, rfl, found, taken, without⟩ := attached_hears attached next
      -- What the session hears is what the connection's queue gives away.
      have step := @Step.takeChat 0 0 _ _ _ _ _ found taken
      have flows := (Dispatcher.step_chats step trivial attached.handled).2
      have advanced : [event] ++
          (coupling.dispatcher.setChat queue rest).chatsUnderWay queue =
        coupling.dispatcher.chatsUnderWay queue := by
        simpa [Move.takenChat?, Move.route?] using flows
      have still := step_attached step (by rintro _ ⟨⟩) trivial attached
      refine ⟨heard ++ [event], ?_, ?_, ?_, ?_, ?_⟩
      · simp only [turn, without, Session.take, apply_session]
        exact ⟨still.live, still.alive, still.handled, still.roomy, still.listening,
          still.running, still.unasked, still.unreported⟩
      · simp only [turn, without]
        exact settings
      · simp only [turn, without]
        rw [← order, ← advanced]
        simp only [List.append_assoc]
      · simp [count]
      · simp only [turn, Session.take, apply_session]
        rw [List.map_append, List.zip_append (by simp [count]), List.foldl_append, ← state]
        rfl

/-! What comes of it. -/

def limit (coupling : Coupling Caller) : Nat := coupling.dispatcher.settings.payloadLimit

variable {start final : Coupling Caller} {pushed : List String} {stamps : List Message.Stamp}

/-- At the end all events were heard. -/
theorem idle_heard (fresh : start.Fresh queue) (run : Coupled queue start pushed stamps final)
    (idle : final.Idle) :
    stamps.length = (chatsOf start.limit pushed).length ∧
      final.session.state =
        (stamps.zip ((chatsOf start.limit pushed).map .ofChat)).foldl State.after
          start.session.state := by
  obtain ⟨heard, along⟩ := coupled_along fresh run
  have order := along.order
  have parked : final.dispatcher.chatsParked queue = [] := by
    simp [Dispatcher.chatsParked, idle.parked]
  rw [Dispatcher.chatsUnderWay, attached_silent along.attached idle.session, parked,
    idle.unread] at order
  have all : heard = chatsOf start.limit pushed := by
    simpa only [chatsOf, limit, List.filterMap_nil, List.append_nil] using order
  rw [← all]
  exact ⟨along.count, along.state⟩

/-- With room in its queue, an event for the session never waits beside it. -/
theorem resting_idle (fresh : start.Fresh queue) (run : Coupled queue start pushed stamps final)
    (resting : final.Resting) :
    final.Idle ∨ ∃ parked, final.dispatcher.parked = some parked ∧ parked.chat? queue = none := by
  obtain ⟨heard, along⟩ := coupled_along fresh run
  have attached := along.attached
  cases parked : final.dispatcher.parked with
  | none =>
      have listening : final.dispatcher.listening = true := by
        simp [Dispatcher.listening, parked]
      rcases resting.unread with done | deaf
      · exact .inl ⟨done, parked, resting.session⟩
      · rw [listening] at deaf
        cases deaf
  | some waiting =>
      cases own : waiting.chat? queue with
      | none => exact .inr ⟨waiting, rfl, own⟩
      | some event =>
          -- The session heard all that was queued, so the queue has room and nothing can wait.
          obtain ⟨channel, found, room⟩ := attached.roomy
          have empty : channel.items = [] := by
            simpa [Dispatcher.chatsQueued, found] using attached_silent attached resting.session
          have mine : waiting = .chat queue event := by
            cases waiting with
            | change made => cases own
            | chat place parkedEvent =>
                simp only [Parked.chat?] at own
                split at own
                · next same =>
                  cases own
                  rw [same]
                · cases own
          have ready : final.dispatcher.parkedReady = true := by
            simp [Dispatcher.parkedReady, parked, mine, found, Channel.hasRoom, empty, room]
          rw [resting.parked] at ready
          cases ready

/-- When all is done, the conversation is what the accepted payloads make of it in their order.
Another run over the same payloads, with queues of other sizes and in other turns, makes a twin of
it. And as long as anything is left to do for the session, one of the two can go on. -/
theorem coupled_result (fresh : start.Fresh queue)
    (run : Coupled queue start pushed stamps final) :
    (final.Idle →
      (stamps.length = (actionsOf start.limit pushed).length ∧
        final.session.state =
          (stamps.zip (actionsOf start.limit pushed)).foldl State.after start.session.state) ∧
      ∀ (otherQueue : Nat) (otherStart otherFinal : Coupling Caller) (others : List Message.Stamp),
        otherStart.Fresh otherQueue → otherStart.limit = start.limit →
        otherStart.session.state = start.session.state →
        Coupled otherQueue otherStart pushed others otherFinal → otherFinal.Idle →
        State.Twins (stamps.zip others) final.session.state otherFinal.session.state) ∧
      (final.Resting → final.Idle ∨
        ∃ parked, final.dispatcher.parked = some parked ∧ parked.chat? queue = none) := by
  refine ⟨fun idle => ⟨?_, ?_⟩, resting_idle fresh run⟩
  · rw [actions_of_chats, List.length_map]
    exact idle_heard fresh run idle
  · intro otherQueue otherStart otherFinal others otherFresh limits states otherRun otherIdle
    obtain ⟨count, state⟩ := idle_heard fresh run idle
    obtain ⟨otherCount, otherState⟩ := idle_heard otherFresh otherRun otherIdle
    rw [limits] at otherCount otherState
    rw [state, otherState, states]
    exact State.fold_twins _ _ count otherCount

/-! Two events for a queue with one place. -/

def tokenA : String := "\x7b\"type\":\"chat_token\",\"text\":\"a\"\x7d"

def tokenB : String := "\x7b\"type\":\"chat_token\",\"text\":\"b\"\x7d"

theorem tokens_parsed :
    Event.parse Stream.maxPayload tokenA = .ok (.chatToken "a") ∧
      Event.parse Stream.maxPayload tokenB = .ok (.chatToken "b") :=
  ⟨Event.parse_written (by decide +kernel) rfl trivial (by decide),
    Event.parse_written (by decide +kernel) rfl trivial (by decide)⟩

theorem tokens_act :
    actionsOf Stream.maxPayload [tokenA, tokenB] = [.token "a", .token "b"] := by
  obtain ⟨parsedA, parsedB⟩ := tokens_parsed
  have chatA : chatOf? Stream.maxPayload tokenA = some (.token "a") := by
    simp only [chatOf?, Move.route?, parsedA]
    rfl
  have chatB : chatOf? Stream.maxPayload tokenB = some (.token "b") := by
    simp only [chatOf?, Move.route?, parsedB]
    rfl
  rw [actions_of_chats, chatsOf, List.filterMap_cons_some chatA, List.filterMap_cons_some chatB]
  rfl

/-- A session that listens to a connection whose queue has one place. -/
def crowd : Coupling Unit :=
  ⟨Dispatcher.crowded 0 [] none, { Session.new with events := some 0 }, []⟩

theorem crowd_fresh : crowd.Fresh 0 :=
  ⟨⟨rfl, rfl, ⟨rfl, _, rfl, rfl⟩, ⟨_, rfl, Nat.one_pos⟩, rfl, rfl, rfl, rfl⟩, rfl, rfl⟩

/-- The second event waits beside the queue until the first is heard, and nothing shows of it. -/
theorem crowded_result :
    ∃ stamps final, Coupled 0 crowd [tokenA, tokenB] stamps final ∧ final.Idle ∧
      final.session.state =
        (stamps.zip [.token "a", .token "b"]).foldl State.after .empty := by
  let stamp : Message.Stamp := { id := "1", time := default }
  obtain ⟨readA, readB⟩ := Dispatcher.crowded_receives
  have arrived : Coupled 0 crowd [tokenA, tokenB] [] { crowd with unread := [tokenA, tokenB] } :=
    .arrive (.arrive .start tokenA) tokenB
  have first := Coupled.read arrived rfl (@Step.payload 0 0 _ tokenA rfl rfl rfl)
  rw [show crowd.dispatcher.receive tokenA = _ from readA] at first
  have second := Coupled.read first rfl (@Step.payload 0 0 _ tokenB rfl rfl rfl)
  rw [show (Dispatcher.crowded 1 [.token "a"] none).receive tokenB = _ from readB] at second
  have heard := Coupled.turn second stamp rfl
  have aside : Beside 0 .unpark := ⟨trivial, rfl, rfl, by rintro _ ⟨⟩⟩
  have moved := Coupled.beside heard aside (@Step.unpark 0 0 _ rfl rfl)
  have last : Coupled 0 crowd [tokenA, tokenB] [stamp, stamp] _ := Coupled.turn moved stamp rfl
  have state := ((coupled_result crowd_fresh last).1 ⟨rfl, rfl, rfl⟩).1.2
  rw [show actionsOf crowd.limit [tokenA, tokenB] = _ from tokens_act] at state
  exact ⟨_, _, last, ⟨rfl, rfl, rfl⟩, state⟩

end Coupling

end LiveChat.Session
