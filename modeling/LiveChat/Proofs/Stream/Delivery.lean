import LiveChat.Proofs.Stream.Moves
import LiveChat.Proofs.Stream.Wire

/-!
What is read from the link and accepted reaches its handler once and in the order of reading,
however slowly the handler reads. An event is taken, or it waits in the queue, or it is parked
behind the queue, and those three in a row are all that was accepted. The chat events and the
changes share the one place where an event is parked, and are followed one by one.
-/

set_option autoImplicit false

namespace LiveChat.Stream

/-! What a move says of the events that were read and of those that were taken. -/

def Route.chat? : Route → Option ChatEvent
  | .chat event => some event
  | _ => none

def Route.change? : Route → Option Change
  | .change made => some made
  | _ => none

namespace Move

def payload? : Move → Option String
  | .payload text => some text
  | _ => none

/-- Where the event that was read goes, if a payload was read and accepted. -/
def route? (limit : Nat) : Move → Option Route
  | .payload text => (Event.parse limit text).toOption.map Event.route
  | _ => none

def takenChat? (queue : Nat) : Move → Option ChatEvent
  | .takeChat place event => if place = queue then some event else none
  | _ => none

def takenChange? : Move → Option Change
  | .takeChange change => some change
  | _ => none

/-- The handler of chat events and its queue are left in place. -/
def KeepsChats (queue : Nat) : Move → Prop
  | .signal given => given ≠ .destroy
  | .setHandler _ => False
  | .dropChat place => place ≠ queue
  | _ => True

def KeepsChanges : Move → Prop
  | .signal given => given ≠ .destroy
  | .dropChanges => False
  | _ => True

end Move

def payloadsRead (history : List Happening) : List String :=
  history.filterMap fun happening => happening.move.payload?

/-- The accepted chat events, in the order of reading. -/
def chatsRead (limit : Nat) (history : List Happening) : List ChatEvent :=
  history.filterMap fun happening => (happening.move.route? limit).bind Route.chat?

def changesRead (limit : Nat) (history : List Happening) : List Change :=
  history.filterMap fun happening => (happening.move.route? limit).bind Route.change?

def chatsTaken (queue : Nat) (history : List Happening) : List ChatEvent :=
  history.filterMap fun happening => happening.move.takenChat? queue

def changesTaken (history : List Happening) : List Change :=
  history.filterMap fun happening => happening.move.takenChange?

def Parked.chat? (queue : Nat) : Parked → Option ChatEvent
  | .chat place event => if place = queue then some event else none
  | .change _ => none

def Parked.change? : Parked → Option Change
  | .chat _ _ => none
  | .change made => some made

namespace Counters

/-- So many payloads were received, and each was dispatched or dropped. -/
def Accounts (count : Nat) (counters : Counters) : Prop :=
  counters.payloadsReceived = count ∧
    counters.eventsDispatched + counters.droppedTotal = count

theorem accounts_dispatch {count : Nat} {counters : Counters} (accounts : counters.Accounts count) :
    counters.payload.dispatch.Accounts (count + 1) := by
  simp only [Accounts, payload, dispatch, droppedTotal] at accounts ⊢
  omega

theorem accounts_reject {count : Nat} {counters : Counters} (rejection : Rejection)
    (accounts : counters.Accounts count) :
    (counters.payload.reject rejection).Accounts (count + 1) := by
  have dropped := dropped_total_reject counters.payload rejection
  have total : counters.payload.droppedTotal = counters.droppedTotal := rfl
  have kept : (counters.payload.reject rejection).payloadsReceived =
        counters.payloadsReceived + 1 ∧
      (counters.payload.reject rejection).eventsDispatched = counters.eventsDispatched := by
    cases rejection <;> exact ⟨rfl, rfl⟩
  unfold Accounts at accounts ⊢
  omega

end Counters

/-- A queue that is read takes an item at its end, or it has no room. -/
theorem Channel.offer_receiving {Item : Type} {channel : Channel Item} (item : Item)
    (receiving : channel.receiving = true) :
    (channel.hasRoom = true ∧ channel.offer item =
        .sent { channel with items := channel.items ++ [item] }) ∨
      (channel.hasRoom = false ∧ channel.offer item = .full) := by
  cases room : channel.hasRoom <;> simp [offer, receiving, room]

theorem Channel.offer_ready {Item : Type} {channel : Channel Item} (item : Item)
    (ready : !channel.receiving || channel.hasRoom) :
    (∃ next, channel.offer item = .sent next) ∨ channel.offer item = .gone := by
  cases receiving : channel.receiving with
  | false => simp [offer, receiving]
  | true =>
      have room : channel.hasRoom = true := by simpa [receiving] using ready
      simp [offer, receiving, room]

namespace Dispatcher

def chatsQueued (queue : Nat) (dispatcher : Dispatcher) : List ChatEvent :=
  ((dispatcher.chat? queue).map (·.items)).getD []

def chatsParked (queue : Nat) (dispatcher : Dispatcher) : List ChatEvent :=
  (dispatcher.parked.bind (Parked.chat? queue)).toList

def changesQueued (dispatcher : Dispatcher) : List Change :=
  (dispatcher.changes.map (·.items)).getD []

def changesParked (dispatcher : Dispatcher) : List Change :=
  (dispatcher.parked.bind Parked.change?).toList

/-- The handler of chat events reads from this queue. -/
def ChatsHandled (queue : Nat) (dispatcher : Dispatcher) : Prop :=
  dispatcher.handler = some queue ∧
    ∃ channel, dispatcher.chat? queue = some channel ∧ channel.receiving = true

def ChangesHandled (dispatcher : Dispatcher) : Prop :=
  ∃ channel, dispatcher.changes = some channel ∧ channel.receiving = true

/-- The chat events on their way to the queue's reader, in order. -/
def chatsUnderWay (queue : Nat) (dispatcher : Dispatcher) : List ChatEvent :=
  dispatcher.chatsQueued queue ++ dispatcher.chatsParked queue

def changesUnderWay (dispatcher : Dispatcher) : List Change :=
  dispatcher.changesQueued ++ dispatcher.changesParked

variable {queue : Nat} {dispatcher : Dispatcher}

@[simp] theorem set_chat_parked (place : Nat) (channel : Channel ChatEvent) :
    (dispatcher.setChat place channel).parked = dispatcher.parked := rfl

theorem set_chat_self {channel : Channel ChatEvent} (next : Channel ChatEvent)
    (found : dispatcher.chat? queue = some channel) :
    (dispatcher.setChat queue next).chat? queue = some next := by
  obtain ⟨bound, _⟩ := List.getElem?_eq_some_iff.mp found
  simp [chat?, setChat, bound]

theorem set_chat_other {place : Nat} (other : place ≠ queue) (next : Channel ChatEvent) :
    (dispatcher.setChat place next).chat? queue = dispatcher.chat? queue := by
  simp [chat?, setChat, List.getElem?_set_ne other]

/-- What is under way depends on the queue and on what is parked only. -/
theorem chats_under_way_eq {channel : Channel ChatEvent}
    (found : dispatcher.chat? queue = some channel) :
    dispatcher.chatsUnderWay queue =
      channel.items ++ (dispatcher.parked.bind (Parked.chat? queue)).toList := by
  simp [chatsUnderWay, chatsQueued, chatsParked, found]

/-- With nothing parked, an event for the handler joins what is under way to it. -/
theorem deliver_chat_appends (event : ChatEvent) (handled : dispatcher.ChatsHandled queue)
    (free : dispatcher.parked = none) :
    (dispatcher.deliverChat queue event).ChatsHandled queue ∧
      (dispatcher.deliverChat queue event).chatsUnderWay queue =
        dispatcher.chatsUnderWay queue ++ [event] := by
  obtain ⟨handler, channel, found, receiving⟩ := handled
  rcases Channel.offer_receiving event receiving with ⟨_, sent⟩ | ⟨_, full⟩
  · have stored := set_chat_self { channel with items := channel.items ++ [event] } found
    simp only [deliverChat, found, sent]
    refine ⟨⟨handler, _, stored, receiving⟩, ?_⟩
    rw [chats_under_way_eq stored, chats_under_way_eq found]
    simp [free]
  · let parking : Dispatcher := { dispatcher with parked := some (.chat queue event) }
    have kept : parking.chat? queue = some channel := found
    simp only [deliverChat, found, full]
    refine ⟨⟨handler, channel, kept, receiving⟩, ?_⟩
    rw [chats_under_way_eq kept, chats_under_way_eq found]
    simp [parking, free, Parked.chat?]

/-- An event for another queue makes no difference here. -/
theorem deliver_chat_elsewhere {place : Nat} (event : ChatEvent) (other : place ≠ queue)
    (handled : dispatcher.ChatsHandled queue) (free : dispatcher.parked = none) :
    (dispatcher.deliverChat place event).ChatsHandled queue ∧
      (dispatcher.deliverChat place event).chatsUnderWay queue =
        dispatcher.chatsUnderWay queue := by
  obtain ⟨handler, channel, found, receiving⟩ := handled
  unfold deliverChat
  split
  · exact ⟨⟨handler, channel, found, receiving⟩, rfl⟩
  · split
    · next next _ =>
      have kept := (set_chat_other other next).trans found
      refine ⟨⟨handler, channel, kept, receiving⟩, ?_⟩
      rw [chats_under_way_eq kept, chats_under_way_eq found, set_chat_parked]
    · let parking : Dispatcher := { dispatcher with parked := some (.chat place event) }
      have kept : parking.chat? queue = some channel := found
      refine ⟨⟨handler, channel, kept, receiving⟩, ?_⟩
      rw [chats_under_way_eq kept, chats_under_way_eq found]
      simp [parking, free, Parked.chat?, other]
    · exact ⟨⟨handler, channel, found, receiving⟩, rfl⟩

theorem deliver_change_chats (change : Change) (handled : dispatcher.ChatsHandled queue)
    (free : dispatcher.parked = none) :
    (dispatcher.deliverChange change).ChatsHandled queue ∧
      (dispatcher.deliverChange change).chatsUnderWay queue = dispatcher.chatsUnderWay queue := by
  unfold deliverChange
  split
  · exact ⟨handled, rfl⟩
  · split
    · exact ⟨handled, rfl⟩
    · refine ⟨handled, ?_⟩
      simp [chatsUnderWay, chatsQueued, chatsParked, chat?, free, Parked.chat?]
    · exact ⟨handled, rfl⟩

/-- The parked event moves on to the end of its queue, or disappears with the queue. -/
theorem unpark_chats (handled : dispatcher.ChatsHandled queue) :
    dispatcher.unpark.ChatsHandled queue ∧
      dispatcher.unpark.chatsUnderWay queue = dispatcher.chatsUnderWay queue := by
  obtain ⟨handler, channel, found, receiving⟩ := handled
  let free : Dispatcher := { dispatcher with parked := none }
  have handledFree : free.ChatsHandled queue := ⟨handler, channel, found, receiving⟩
  have kept : free.chat? queue = some channel := found
  unfold unpark
  split
  · split
    · next none =>
      refine ⟨handledFree, ?_⟩
      rw [chats_under_way_eq kept, chats_under_way_eq found, none]
    · next place event parked =>
      by_cases same : place = queue
      · subst same
        obtain ⟨handledAfter, appended⟩ := deliver_chat_appends event handledFree rfl
        refine ⟨handledAfter, appended.trans ?_⟩
        rw [chats_under_way_eq kept, chats_under_way_eq found, parked]
        simp [free, Parked.chat?]
      · obtain ⟨handledAfter, unchanged⟩ := deliver_chat_elsewhere event same handledFree rfl
        refine ⟨handledAfter, unchanged.trans ?_⟩
        rw [chats_under_way_eq kept, chats_under_way_eq found, parked]
        simp [free, Parked.chat?, same]
    · next change parked =>
      obtain ⟨handledAfter, unchanged⟩ := deliver_change_chats change handledFree rfl
      refine ⟨handledAfter, unchanged.trans ?_⟩
      rw [chats_under_way_eq kept, chats_under_way_eq found, parked]
      rfl
  · exact ⟨⟨handler, channel, found, receiving⟩, rfl⟩

theorem deliver_chats (route : Route) (handled : dispatcher.ChatsHandled queue)
    (free : dispatcher.parked = none) :
    (dispatcher.deliver route).ChatsHandled queue ∧
      (dispatcher.deliver route).chatsUnderWay queue =
        dispatcher.chatsUnderWay queue ++ route.chat?.toList := by
  cases route with
  | chat event =>
      simp only [deliver, handled.1]
      exact deliver_chat_appends event handled free
  | change change =>
      simp only [deliver, Route.chat?, Option.toList_none, List.append_nil]
      exact deliver_change_chats change handled free
  | keepalive => exact ⟨handled, (List.append_nil _).symm⟩

theorem receive_chats (payload : String) (handled : dispatcher.ChatsHandled queue)
    (free : dispatcher.parked = none) :
    (dispatcher.receive payload).ChatsHandled queue ∧
      (dispatcher.receive payload).chatsUnderWay queue =
        dispatcher.chatsUnderWay queue ++
          (((Move.payload payload).route? dispatcher.settings.payloadLimit).bind
            Route.chat?).toList := by
  cases parsed : Event.parse dispatcher.settings.payloadLimit payload with
  | error rejection =>
      rw [receive_rejected parsed]
      refine ⟨handled, ?_⟩
      simp only [Move.route?, parsed, Except.toOption, Option.map_none, Option.bind_none,
        Option.toList_none, List.append_nil]
      rfl
  | ok event =>
      rw [receive_accepted parsed]
      simp only [Move.route?, parsed, Except.toOption, Option.map_some, Option.bind_some]
      exact deliver_chats event.route handled free

theorem take_chat_advances {place : Nat} {event : ChatEvent} {channel rest : Channel ChatEvent}
    (found : dispatcher.chat? place = some channel) (taken : channel.take? = some (event, rest))
    (handled : dispatcher.ChatsHandled queue) :
    (dispatcher.setChat place rest).ChatsHandled queue ∧
      (if place = queue then [event] else []) ++
          (dispatcher.setChat place rest).chatsUnderWay queue =
        dispatcher.chatsUnderWay queue := by
  obtain ⟨handler, kept, keptFound, receiving⟩ := handled
  by_cases same : place = queue
  · subst same
    have stored := set_chat_self rest found
    have channelReceiving : channel.receiving = true := by
      rw [Option.some.inj (found.symm.trans keptFound)]
      exact receiving
    have receiving := (Channel.take_receiving taken).trans channelReceiving
    refine ⟨⟨handler, rest, stored, receiving⟩, ?_⟩
    rw [chats_under_way_eq stored, chats_under_way_eq found, Channel.take_items taken]
    simp
  · have stored := (set_chat_other same rest).trans keptFound
    refine ⟨⟨handler, kept, stored, receiving⟩, ?_⟩
    rw [chats_under_way_eq stored, chats_under_way_eq keptFound]
    simp [same]

theorem step_chats {now : Nat} {draw : Float} {before after : Dispatcher} {move : Move}
    (step : Step now draw before move after) (keeps : move.KeepsChats queue)
    (handled : before.ChatsHandled queue) :
    after.ChatsHandled queue ∧
      (move.takenChat? queue).toList ++ after.chatsUnderWay queue =
        before.chatsUnderWay queue ++
          ((move.route? before.settings.payloadLimit).bind Route.chat?).toList := by
  have quiet : ∀ other : Dispatcher, other.chatsUnderWay queue = before.chatsUnderWay queue →
      [] ++ other.chatsUnderWay queue = before.chatsUnderWay queue ++ [] := by
    intro other same
    rw [List.nil_append, List.append_nil, same]
  cases step with
  | signal signal alive =>
      obtain ⟨notices, connection, same⟩ := after_signal_lasting now draw signal before alive keeps
      rw [same]
      exact ⟨handled, quiet _ rfl⟩
  | report => exact ⟨handled, quiet _ rfl⟩
  | payload text alive live listening =>
      have free : before.parked = none := by
        simpa [Dispatcher.listening, live] using listening
      exact receive_chats text handled free
  | unpark =>
      obtain ⟨handledAfter, same⟩ := unpark_chats handled
      exact ⟨handledAfter, quiet _ same⟩
  | takeChat found taken =>
      obtain ⟨handledAfter, advanced⟩ := take_chat_advances found taken handled
      refine ⟨handledAfter, ?_⟩
      simp only [Move.takenChat?, Move.route?, Option.bind_none, Option.toList_none,
        List.append_nil]
      rw [← advanced]
      split <;> rfl
  | takeChange => exact ⟨handled, quiet _ rfl⟩
  | takeNotice => exact ⟨handled, quiet _ rfl⟩
  | addChat capacity =>
      obtain ⟨handler, channel, found, receiving⟩ := handled
      obtain ⟨bound, _⟩ := List.getElem?_eq_some_iff.mp found
      have kept : (before.addChat capacity).1.chat? queue = some channel :=
        (List.getElem?_append_left bound).trans found
      refine ⟨⟨handler, channel, kept, receiving⟩, quiet _ ?_⟩
      rw [chats_under_way_eq kept, chats_under_way_eq found]
      rfl
  | setHandler => exact keeps.elim
  | @dropChat place dropped found =>
      obtain ⟨handler, channel, keptFound, receiving⟩ := handled
      have kept := (set_chat_other keeps dropped.drop).trans keptFound
      refine ⟨⟨handler, channel, kept, receiving⟩, quiet _ ?_⟩
      rw [chats_under_way_eq kept, chats_under_way_eq keptFound, set_chat_parked]
  | dropChanges => exact ⟨handled, quiet _ rfl⟩
  | dropNotices => exact ⟨handled, quiet _ rfl⟩

theorem filter_map_next {Item : Type} (view : Move → Option Item) (history : List Happening)
    (happening : Happening) :
    (history ++ [happening]).filterMap (fun happening => view happening.move) =
      history.filterMap (fun happening => view happening.move) ++
        (view happening.move).toList := by
  rw [List.filterMap_append]
  cases seen : view happening.move <;> simp [seen]

/-- Items that are read join what is under way at one end and leave it at the other. If each move
respects this, so does a run. -/
theorem run_in_order {Item : Type} (read? taken? : Move → Option Item)
    (underWay : Dispatcher → List Item) (handled : Dispatcher → Prop) (keeps : Move → Prop)
    {start final : Dispatcher} {history : List Happening} (run : Run start history final)
    (each : ∀ {now draw before move after}, before.settings = start.settings →
      Step now draw before move after → keeps move → handled before →
      handled after ∧ (taken? move).toList ++ underWay after =
        underWay before ++ (read? move).toList)
    (kept : ∀ happening ∈ history, keeps happening.move) (handledStart : handled start) :
    handled final ∧
      history.filterMap (fun happening => taken? happening.move) ++ underWay final =
        underWay start ++ history.filterMap (fun happening => read? happening.move) := by
  induction run with
  | start => exact ⟨handledStart, (List.append_nil _).symm⟩
  | @next history before after happening run step induction =>
      obtain ⟨handledBefore, earlier⟩ :=
        induction (fun other member => kept other (List.mem_append_left _ member))
      obtain ⟨handledAfter, moved⟩ :=
        each (run_settings run) step (kept happening (by simp)) handledBefore
      refine ⟨handledAfter, ?_⟩
      rw [filter_map_next, filter_map_next, List.append_assoc, moved, ← List.append_assoc, earlier,
        List.append_assoc]

/-- While its handler stays, what was taken of a queue and what is under way to it are what was
under way at first and what was read since, in that order. -/
theorem run_chats {start final : Dispatcher} {history : List Happening}
    (run : Run start history final)
    (kept : ∀ happening ∈ history, happening.move.KeepsChats queue)
    (handled : start.ChatsHandled queue) :
    chatsTaken queue history ++ final.chatsUnderWay queue =
      start.chatsUnderWay queue ++ chatsRead start.settings.payloadLimit history := by
  refine (run_in_order (fun move => (move.route? start.settings.payloadLimit).bind Route.chat?)
    (Move.takenChat? queue) (chatsUnderWay queue) (ChatsHandled queue) (Move.KeepsChats queue)
    run ?_ kept handled).2
  intro now draw before move after same step keeps handledBefore
  rw [← same]
  exact step_chats step keeps handledBefore

/-! The same for changes. -/

theorem changes_under_way_eq {channel : Channel Change}
    (found : dispatcher.changes = some channel) :
    dispatcher.changesUnderWay =
      channel.items ++ (dispatcher.parked.bind Parked.change?).toList := by
  simp [changesUnderWay, changesQueued, changesParked, found]

theorem deliver_change_appends (change : Change) (handled : dispatcher.ChangesHandled)
    (free : dispatcher.parked = none) :
    (dispatcher.deliverChange change).ChangesHandled ∧
      (dispatcher.deliverChange change).changesUnderWay =
        dispatcher.changesUnderWay ++ [change] := by
  obtain ⟨channel, found, receiving⟩ := handled
  rw [changes_under_way_eq found]
  rcases Channel.offer_receiving change receiving with ⟨_, sent⟩ | ⟨_, full⟩
  · simp only [deliverChange, found, sent]
    exact ⟨⟨_, rfl, receiving⟩, by simp [changesUnderWay, changesQueued, changesParked, free]⟩
  · simp only [deliverChange, found, full]
    refine ⟨⟨channel, rfl, receiving⟩, ?_⟩
    simp [changesUnderWay, changesQueued, changesParked, free, Parked.change?]

theorem deliver_chat_changes (place : Nat) (event : ChatEvent)
    (handled : dispatcher.ChangesHandled) (free : dispatcher.parked = none) :
    (dispatcher.deliverChat place event).ChangesHandled ∧
      (dispatcher.deliverChat place event).changesUnderWay = dispatcher.changesUnderWay := by
  unfold deliverChat
  split
  · exact ⟨handled, rfl⟩
  · split
    · exact ⟨handled, rfl⟩
    · refine ⟨handled, ?_⟩
      simp [changesUnderWay, changesQueued, changesParked, free, Parked.change?]
    · exact ⟨handled, rfl⟩

theorem unpark_changes (handled : dispatcher.ChangesHandled) :
    dispatcher.unpark.ChangesHandled ∧
      dispatcher.unpark.changesUnderWay = dispatcher.changesUnderWay := by
  let free : Dispatcher := { dispatcher with parked := none }
  have handledFree : free.ChangesHandled := handled
  obtain ⟨channel, found, receiving⟩ := handled
  have kept : free.changes = some channel := found
  rw [changes_under_way_eq found]
  have freed := changes_under_way_eq kept
  unfold unpark
  split
  · split
    · next none =>
      refine ⟨handledFree, ?_⟩
      rw [freed, none]
    · next place event parked =>
      obtain ⟨handledAfter, unchanged⟩ := deliver_chat_changes place event handledFree rfl
      refine ⟨handledAfter, unchanged.trans ?_⟩
      rw [freed, parked]
      rfl
    · next change parked =>
      obtain ⟨handledAfter, appended⟩ := deliver_change_appends change handledFree rfl
      refine ⟨handledAfter, appended.trans ?_⟩
      rw [freed, parked]
      simp [free, Parked.change?]
  · exact ⟨⟨channel, found, receiving⟩, changes_under_way_eq found⟩

theorem deliver_changes (route : Route) (handled : dispatcher.ChangesHandled)
    (free : dispatcher.parked = none) :
    (dispatcher.deliver route).ChangesHandled ∧
      (dispatcher.deliver route).changesUnderWay =
        dispatcher.changesUnderWay ++ route.change?.toList := by
  cases route with
  | chat event =>
      simp only [deliver, Route.change?, Option.toList_none, List.append_nil]
      split
      · exact ⟨handled, rfl⟩
      · next place _ => exact deliver_chat_changes place event handled free
  | change change => exact deliver_change_appends change handled free
  | keepalive => exact ⟨handled, (List.append_nil _).symm⟩

theorem receive_changes (payload : String) (handled : dispatcher.ChangesHandled)
    (free : dispatcher.parked = none) :
    (dispatcher.receive payload).ChangesHandled ∧
      (dispatcher.receive payload).changesUnderWay =
        dispatcher.changesUnderWay ++
          (((Move.payload payload).route? dispatcher.settings.payloadLimit).bind
            Route.change?).toList := by
  cases parsed : Event.parse dispatcher.settings.payloadLimit payload with
  | error rejection =>
      rw [receive_rejected parsed]
      refine ⟨handled, ?_⟩
      simp only [Move.route?, parsed, Except.toOption, Option.map_none, Option.bind_none,
        Option.toList_none, List.append_nil]
      rfl
  | ok event =>
      rw [receive_accepted parsed]
      simp only [Move.route?, parsed, Except.toOption, Option.map_some, Option.bind_some]
      exact deliver_changes event.route handled free

theorem step_changes {now : Nat} {draw : Float} {before after : Dispatcher} {move : Move}
    (step : Step now draw before move after) (keeps : move.KeepsChanges)
    (handled : before.ChangesHandled) :
    after.ChangesHandled ∧
      move.takenChange?.toList ++ after.changesUnderWay =
        before.changesUnderWay ++
          ((move.route? before.settings.payloadLimit).bind Route.change?).toList := by
  have quiet : ∀ other : Dispatcher, other.changesUnderWay = before.changesUnderWay →
      [] ++ other.changesUnderWay = before.changesUnderWay ++ [] := by
    intro other same
    rw [List.nil_append, List.append_nil, same]
  cases step with
  | signal signal alive =>
      obtain ⟨notices, connection, same⟩ := after_signal_lasting now draw signal before alive keeps
      rw [same]
      exact ⟨handled, quiet _ rfl⟩
  | payload text alive live listening =>
      have free : before.parked = none := by
        simpa [Dispatcher.listening, live] using listening
      exact receive_changes text handled free
  | unpark =>
      obtain ⟨handledAfter, same⟩ := unpark_changes handled
      exact ⟨handledAfter, quiet _ same⟩
  | takeChange found taken =>
      obtain ⟨channel, kept, receiving⟩ := handled
      obtain rfl := Option.some.inj (found.symm.trans kept)
      refine ⟨⟨_, rfl, (Channel.take_receiving taken).trans receiving⟩, ?_⟩
      rw [changes_under_way_eq found, changes_under_way_eq rfl, Channel.take_items taken]
      simp [Move.takenChange?, Move.route?]
  | dropChanges => exact keeps.elim
  | _ => exact ⟨handled, quiet _ rfl⟩

theorem run_changes {start final : Dispatcher} {history : List Happening}
    (run : Run start history final)
    (kept : ∀ happening ∈ history, happening.move.KeepsChanges)
    (handled : start.ChangesHandled) :
    changesTaken history ++ final.changesUnderWay =
      start.changesUnderWay ++ changesRead start.settings.payloadLimit history := by
  refine (run_in_order (fun move => (move.route? start.settings.payloadLimit).bind Route.change?)
    Move.takenChange? changesUnderWay ChangesHandled Move.KeepsChanges run ?_ kept handled).2
  intro now draw before move after same step keeps handledBefore
  rw [← same]
  exact step_changes step keeps handledBefore

/-! What is counted, and what stays parked. -/

theorem step_accounts {now : Nat} {draw : Float} {before after : Dispatcher} {move : Move}
    {count : Nat} (step : Step now draw before move after)
    (accounts : before.connection.counters.Accounts count) :
    after.connection.counters.Accounts (count + move.payload?.toList.length) := by
  cases step with
  | signal signal =>
      obtain ⟨notices, lost, parked, same⟩ := after_signal_frame now draw signal before
      have next :
          (before.connection.step before.settings now draw signal).1.counters.Accounts count := by
        obtain counted | counted | counted :=
          (Connection.step_keeps before.settings now draw before.connection signal).2
        · rw [counted]
          exact accounts
        · rw [counted]
          exact accounts
        · rw [counted]
          exact accounts
      rw [same]
      exact next
  | payload text =>
      cases parsed : Event.parse before.settings.payloadLimit text with
      | error rejection =>
          rw [receive_rejected parsed]
          exact Counters.accounts_reject rejection accounts
      | ok event =>
          rw [receive_accepted parsed]
          obtain ⟨chats, changes, parked, same⟩ := deliver_frame event.route
            { before with
              connection :=
                { before.connection with counters := before.connection.counters.payload.dispatch } }
          rw [same]
          exact Counters.accounts_dispatch accounts
  | unpark =>
      obtain ⟨chats, changes, parked, same⟩ := unpark_frame before
      rw [same]
      exact accounts
  | _ => exact accounts

theorem run_accounts {start final : Dispatcher} {history : List Happening} {count : Nat}
    (run : Run start history final) (accounts : start.connection.counters.Accounts count) :
    final.connection.counters.Accounts (count + (payloadsRead history).length) := by
  induction run with
  | start => exact accounts
  | @next history before after happening run step induction =>
      have counted := step_accounts step induction
      rw [payloadsRead, filter_map_next, List.length_append, ← Nat.add_assoc]
      exact counted

theorem deliver_chat_frees (place : Nat) (event : ChatEvent) (free : dispatcher.parked = none)
    (ready : ∀ channel, dispatcher.chat? place = some channel →
      !channel.receiving || channel.hasRoom) :
    (dispatcher.deliverChat place event).parked = none := by
  unfold deliverChat
  split
  · exact free
  · next channel found =>
    rcases Channel.offer_ready event (ready channel found) with ⟨next, sent⟩ | gone
    · rw [sent]
      exact free
    · rw [gone]
      exact free

theorem deliver_change_frees (change : Change) (free : dispatcher.parked = none)
    (ready : ∀ channel, dispatcher.changes = some channel →
      !channel.receiving || channel.hasRoom) :
    (dispatcher.deliverChange change).parked = none := by
  unfold deliverChange
  split
  · exact free
  · next channel found =>
    rcases Channel.offer_ready change (ready channel found) with ⟨next, sent⟩ | gone
    · rw [sent]
      exact free
    · rw [gone]
      exact free

/-- An event that can move does not stay parked. -/
theorem unpark_frees (ready : dispatcher.parkedReady) : dispatcher.unpark.parked = none := by
  unfold unpark
  rw [if_pos ready]
  unfold parkedReady at ready
  split
  · rfl
  · next place event parked =>
    apply deliver_chat_frees place event rfl
    intro channel found
    have found : dispatcher.chat? place = some channel := found
    simpa only [parked, found] using ready
  · next change parked =>
    apply deliver_change_frees change rfl
    intro channel found
    have found : dispatcher.changes = some channel := found
    simpa only [parked, found] using ready

/-- While the connection lasts, an event that is parked stays until it moves on by itself. -/
theorem parked_kept {now : Nat} {draw : Float} {before after : Dispatcher} {move : Move}
    {parked : Parked} (step : Step now draw before move after)
    (lasting : move ≠ .signal .destroy) (waiting : before.parked = some parked) :
    after.parked = some parked ∨ (move = .unpark ∧ after.parked = none) := by
  cases step with
  | signal signal alive =>
      have lastingSignal : signal ≠ .destroy := by
        rintro rfl
        exact lasting rfl
      obtain ⟨notices, connection, same⟩ :=
        after_signal_lasting now draw signal before alive lastingSignal
      rw [same]
      exact .inl waiting
  | payload text alive live listening =>
      simp [Dispatcher.listening, waiting, live] at listening
  | unpark alive ready => exact .inr ⟨rfl, unpark_frees ready⟩
  | _ => exact .inl waiting

/-- How a dispatcher stands after a run that began with two handlers and kept them: nothing that
was accepted is lost, doubled or out of order, what is rejected leaves its count only, and what is
parked is not replaced. -/
structure Faithful (limit : Nat) (history : List Happening) (dispatcher : Dispatcher) : Prop where
  chats : chatsTaken 0 history ++ dispatcher.chatsQueued 0 ++ dispatcher.chatsParked 0 =
    chatsRead limit history
  changes : changesTaken history ++ dispatcher.changesQueued ++ dispatcher.changesParked =
    changesRead limit history
  received : dispatcher.connection.counters.payloadsReceived = (payloadsRead history).length
  balanced : dispatcher.connection.counters.payloadsReceived =
    dispatcher.connection.counters.eventsDispatched +
      dispatcher.connection.counters.droppedOversized +
      dispatcher.connection.counters.droppedMalformed +
      dispatcher.connection.counters.droppedInvalid
  rejected : ∀ payload rejection, Event.parse limit payload = .error rejection →
    dispatcher.receive payload =
      { dispatcher with
        connection :=
          { dispatcher.connection with
            counters := dispatcher.connection.counters.payload.reject rejection } }
  parked : ∀ now draw move after waiting, Step now draw dispatcher move after →
    move ≠ .signal .destroy → dispatcher.parked = some waiting →
      after.parked = some waiting ∨ (move = .unpark ∧ after.parked = none)

/-- Both families arrive in order, under every order of moves and for queues of any capacity. -/
theorem run_faithful (settings : Settings) (chatCapacity changeCapacity : Nat)
    (notices : Option Nat) {history : List Happening} {final : Dispatcher}
    (run : Run (.new settings (some chatCapacity) (some changeCapacity) notices) history final)
    (kept : ∀ happening ∈ history,
      happening.move.KeepsChats 0 ∧ happening.move.KeepsChanges) :
    final.Faithful settings.payloadLimit history := by
  have chats := run_chats run (fun happening member => (kept happening member).1)
    ⟨rfl, .new chatCapacity, rfl, rfl⟩
  have changes := run_changes run (fun happening member => (kept happening member).2)
    ⟨.new changeCapacity, rfl, rfl⟩
  have nothing : Counters.zero.Accounts 0 := ⟨rfl, rfl⟩
  obtain ⟨received, accounted⟩ := run_accounts run nothing
  have limit : final.settings.payloadLimit = settings.payloadLimit := by
    rw [run_settings run]
    rfl
  rw [Nat.zero_add] at received accounted
  refine ⟨?_, ?_, received, ?_, ?_, ?_⟩
  · rw [List.append_assoc]
    exact chats
  · rw [List.append_assoc]
    exact changes
  · simp only [Counters.droppedTotal] at accounted
    omega
  · intro payload rejection parsed
    rw [← limit] at parsed
    exact receive_rejected parsed
  · intro now draw move after waiting step lasting parked
    exact parked_kept step lasting parked

/-- Two chat events for a queue with one place. The second is parked until the first is taken. -/
def crowdedHistory : List Happening :=
  [⟨0, 0, .signal .connect⟩, ⟨1, 0, .signal .opened⟩,
    ⟨2, 0, .payload "\x7b\"type\":\"chat_token\",\"text\":\"a\"\x7d"⟩,
    ⟨3, 0, .payload "\x7b\"type\":\"chat_token\",\"text\":\"b\"\x7d"⟩,
    ⟨4, 0, .takeChat 0 (.token "a")⟩, ⟨5, 0, .unpark⟩]

/-- The states of a dispatcher in that history, once the link is live. -/
def crowded (read : Nat) (items : List ChatEvent) (parked : Option Parked) : Dispatcher :=
  { Dispatcher.new .standard (some 1) (some 1) none with
    connection :=
      { Connection.initial with
        status := .connected, statusChanges := 1, link := some .live
        counters := ⟨read, read, 0, 0, 0, 1, 0, 0⟩ }
    chats := [⟨1, items, true⟩]
    parked }

theorem crowded_receives :
    (crowded 0 [] none).receive "\x7b\"type\":\"chat_token\",\"text\":\"a\"\x7d" =
        crowded 1 [.token "a"] none ∧
      (crowded 1 [.token "a"] none).receive
          "\x7b\"type\":\"chat_token\",\"text\":\"b\"\x7d" =
        crowded 2 [.token "a"] (some (.chat 0 (.token "b"))) := by
  constructor
  · exact @receive_accepted (crowded 0 [] none) _ (.chatToken "a")
      (Event.parse_written (by decide +kernel) rfl trivial (by decide))
  · exact @receive_accepted (crowded 1 [.token "a"] none) _ (.chatToken "b")
      (Event.parse_written (by decide +kernel) rfl trivial (by decide))

theorem crowded_faithful :
    Run (.new .standard (some 1) (some 1) none) crowdedHistory (crowded 2 [.token "b"] none) ∧
      (∀ happening ∈ crowdedHistory,
        happening.move.KeepsChats 0 ∧ happening.move.KeepsChanges) ∧
      chatsTaken 0 crowdedHistory = [.token "a"] ∧
      (crowded 2 [.token "b"] none).Faithful maxPayload crowdedHistory := by
  have connecting : Run (.new .standard (some 1) (some 1) none) (crowdedHistory.take 1) _ :=
    .next .start (.signal .connect rfl trivial)
  have opened : Run (.new .standard (some 1) (some 1) none) (crowdedHistory.take 2)
      (crowded 0 [] none) := .next connecting (.signal .opened rfl rfl)
  obtain ⟨first, second⟩ := crowded_receives
  have queued : Run (.new .standard (some 1) (some 1) none) (crowdedHistory.take 3)
      (crowded 1 [.token "a"] none) := by
    rw [← first]
    exact .next opened (.payload _ rfl rfl rfl)
  have parked : Run (.new .standard (some 1) (some 1) none) (crowdedHistory.take 4)
      (crowded 2 [.token "a"] (some (.chat 0 (.token "b")))) := by
    rw [← second]
    exact .next queued (.payload _ rfl rfl rfl)
  have taken : Run (.new .standard (some 1) (some 1) none) (crowdedHistory.take 5)
      (crowded 2 [] (some (.chat 0 (.token "b")))) := .next parked (.takeChat rfl rfl)
  have moved : Run (.new .standard (some 1) (some 1) none) crowdedHistory
      (crowded 2 [.token "b"] none) := .next taken (.unpark rfl rfl)
  have kept : ∀ happening ∈ crowdedHistory,
      happening.move.KeepsChats 0 ∧ happening.move.KeepsChanges := by
    simp [crowdedHistory, Move.KeepsChats, Move.KeepsChanges]
  exact ⟨moved, kept, rfl, run_faithful .standard 1 1 none moved kept⟩

end Dispatcher

end LiveChat.Stream
