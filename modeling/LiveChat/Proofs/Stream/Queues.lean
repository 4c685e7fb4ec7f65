import LiveChat.Proofs.Stream.Teardown

/-!
What can become of one queue of chat events. Whatever happens to the dispatcher, the queue only
gets longer by an event of one who can send to it, while its reader is there. A queue that was
emptied stays empty once its reader has left, or once nobody can send to it any more.
-/

set_option autoImplicit false

namespace LiveChat.Stream

/-- A queue loses items at its front, or gets one more if somebody sends and somebody reads. -/
inductive Channel.Becomes (sending : Prop) (channel next : Channel ChatEvent) : Prop where
  | shorter (items : next.items <:+ channel.items)
      (reading : next.receiving = true → channel.receiving = true)
  | longer (event : ChatEvent) (sent : sending) (reading : channel.receiving = true)
      (items : next.items = channel.items ++ [event])

namespace Channel

variable {sending : Prop} {channel next rest : Channel ChatEvent} {event : ChatEvent}

theorem becomes_same (sending : Prop) (channel : Channel ChatEvent) :
    channel.Becomes sending channel :=
  .shorter List.suffix_rfl id

theorem becomes_sent (sent : channel.offer event = .sent next) (sends : sending) :
    channel.Becomes sending next := by
  cases reading : channel.receiving with
  | false => simp [offer, reading] at sent
  | true => exact .longer event sends reading (offer_sent_items sent)

theorem becomes_taken (taken : channel.take? = some (event, rest)) :
    channel.Becomes sending rest := by
  refine .shorter ?_ ?_
  · rw [take_items taken]
    exact List.suffix_cons _ _
  · rw [take_receiving taken]
    exact id

theorem becomes_dropped (sending : Prop) (channel : Channel ChatEvent) :
    channel.Becomes sending channel.drop :=
  .shorter (List.nil_suffix) nofun

theorem Becomes.mono {more : Prop} (implied : sending → more)
    (becomes : channel.Becomes sending next) : channel.Becomes more next := by
  cases becomes with
  | shorter items reading => exact .shorter items reading
  | longer event sent reading items => exact .longer event (implied sent) reading items

/-- The queue is empty, and nothing can come. -/
def Spent (sending : Prop) (channel : Channel ChatEvent) : Prop :=
  channel.items = [] ∧ (channel.receiving = false ∨ ¬sending)

theorem becomes_spent (becomes : channel.Becomes sending next) (spent : channel.Spent sending) :
    next.items = [] ∧ (channel.receiving = false → next.receiving = false) := by
  obtain ⟨empty, still⟩ := spent
  cases becomes with
  | shorter items reading =>
      rw [empty] at items
      refine ⟨List.suffix_nil.mp items, ?_⟩
      intro left
      by_contra lasting
      rw [reading (by simpa using lasting)] at left
      cases left
  | longer event sent reading items =>
      rcases still with left | unsent
      · rw [reading] at left
        cases left
      · exact absurd sent unsent

end Channel

namespace Dispatcher

variable {now : Nat} {draw : Float} {queue : Nat} {dispatcher before after : Dispatcher}
  {move : Move} {channel : Channel ChatEvent}

theorem chat_sending_iff :
    dispatcher.chatSending queue = true ↔
      dispatcher.handler = some queue ∨ ∃ event, dispatcher.parked = some (.chat queue event) := by
  unfold chatSending
  cases parked : dispatcher.parked with
  | none => simp
  | some waiting =>
      cases waiting with
      | change change => simp
      | chat place event =>
          simp only [Bool.or_eq_true, decide_eq_true_eq, Option.some.injEq, Parked.chat.injEq,
            exists_and_left, exists_eq', and_true]

/-! Delivery. -/

theorem set_chat_becomes {place : Nat} {old next : Channel ChatEvent} {sending : Prop}
    (found : dispatcher.chat? queue = some channel) (there : dispatcher.chat? place = some old)
    (becomes : place = queue → old.Becomes sending next) :
    ∃ now, (dispatcher.setChat place next).chat? queue = some now ∧
      channel.Becomes sending now := by
  by_cases own : place = queue
  · subst own
    obtain rfl := Option.some.inj (there.symm.trans found)
    exact ⟨next, set_chat_self next found, becomes rfl⟩
  · exact ⟨channel, (set_chat_other own next).trans found, Channel.becomes_same sending channel⟩

theorem deliver_chat_becomes {place : Nat} {sending : Prop} (event : ChatEvent)
    (found : dispatcher.chat? queue = some channel) (sends : place = queue → sending) :
    ∃ next, (dispatcher.deliverChat place event).chat? queue = some next ∧
      channel.Becomes sending next := by
  have same := Channel.becomes_same sending channel
  unfold deliverChat
  split
  · exact ⟨channel, found, same⟩
  · next old there =>
    split
    · next next sent =>
      exact set_chat_becomes found there fun own => Channel.becomes_sent sent (sends own)
    · exact ⟨channel, found, same⟩
    · exact ⟨channel, found, same⟩

/-- Delivery makes no more senders than the one it was for. -/
theorem deliver_chat_sending {place : Nat} (event : ChatEvent)
    (sending : (dispatcher.deliverChat place event).chatSending queue = true) :
    dispatcher.chatSending queue = true ∨ place = queue := by
  unfold deliverChat at sending
  split at sending
  · exact .inl sending
  · split at sending
    · exact .inl sending
    · rw [chat_sending_iff] at sending ⊢
      rcases sending with handler | ⟨other, parked⟩
      · exact .inl (.inl handler)
      · cases parked
        exact .inr rfl
    · exact .inl sending

theorem deliver_change_sending (change : Change)
    (sending : (dispatcher.deliverChange change).chatSending queue = true) :
    dispatcher.chatSending queue = true := by
  unfold deliverChange at sending
  split at sending
  · exact sending
  · split at sending
    · exact sending
    · rw [chat_sending_iff] at sending ⊢
      rcases sending with handler | ⟨other, parked⟩
      · exact .inl handler
      · cases parked
    · exact sending

theorem deliver_change_chat (change : Change) :
    (dispatcher.deliverChange change).chat? queue = dispatcher.chat? queue := by
  unfold deliverChange
  split
  · rfl
  · split <;> rfl

theorem receive_becomes (payload : String) (found : dispatcher.chat? queue = some channel) :
    ∃ next, (dispatcher.receive payload).chat? queue = some next ∧
      channel.Becomes (dispatcher.chatSending queue = true) next := by
  have same := Channel.becomes_same (dispatcher.chatSending queue = true) channel
  cases parsed : Event.parse dispatcher.settings.payloadLimit payload with
  | error rejection =>
      rw [receive_rejected parsed]
      exact ⟨channel, found, same⟩
  | ok event =>
      rw [receive_accepted parsed]
      cases event.route with
      | chat chat =>
          simp only [deliver]
          split
          · exact ⟨channel, found, same⟩
          · next place handler =>
            refine deliver_chat_becomes chat found fun own => ?_
            exact chat_sending_iff.mpr (.inl (handler.trans (congrArg some own)))
      | change change =>
          rw [deliver, deliver_change_chat]
          exact ⟨channel, found, same⟩
      | keepalive => exact ⟨channel, found, same⟩

theorem receive_sending (payload : String)
    (sending : (dispatcher.receive payload).chatSending queue = true) :
    dispatcher.chatSending queue = true := by
  cases parsed : Event.parse dispatcher.settings.payloadLimit payload with
  | error rejection =>
      rw [receive_rejected parsed] at sending
      exact sending
  | ok event =>
      rw [receive_accepted parsed] at sending
      cases route : event.route with
      | chat chat =>
          simp only [route, deliver] at sending
          split at sending
          · exact sending
          · next place handler =>
            rcases deliver_chat_sending chat sending with earlier | own
            · exact earlier
            · exact chat_sending_iff.mpr (.inl (handler.trans (congrArg some own)))
      | change change =>
          rw [route] at sending
          have earlier := deliver_change_sending change sending
          exact earlier
      | keepalive =>
          rw [route] at sending
          exact sending

theorem unpark_becomes (found : dispatcher.chat? queue = some channel) :
    ∃ next, dispatcher.unpark.chat? queue = some next ∧
      channel.Becomes (dispatcher.chatSending queue = true) next := by
  have same := Channel.becomes_same (dispatcher.chatSending queue = true) channel
  unfold unpark
  split
  · split
    · exact ⟨channel, found, same⟩
    · next place event parked =>
      refine deliver_chat_becomes event found fun own => ?_
      subst own
      exact chat_sending_iff.mpr (.inr ⟨event, parked⟩)
    · rw [deliver_change_chat]
      exact ⟨channel, found, same⟩
  · exact ⟨channel, found, same⟩

theorem unpark_sending (sending : dispatcher.unpark.chatSending queue = true) :
    dispatcher.chatSending queue = true := by
  have freed : { dispatcher with parked := none }.chatSending queue = true →
      dispatcher.chatSending queue = true := by
    rw [chat_sending_iff, chat_sending_iff]
    rintro (handler | ⟨_, parked⟩)
    · exact .inl handler
    · cases parked
  unfold unpark at sending
  split at sending
  · split at sending
    · exact freed sending
    · next place event parked =>
      rcases deliver_chat_sending event sending with earlier | own
      · exact freed earlier
      · subst own
        exact chat_sending_iff.mpr (.inr ⟨event, parked⟩)
    · exact freed (deliver_change_sending _ sending)
  · exact sending

/-! Moves. -/

/-- What a move makes of a queue. -/
theorem step_becomes (step : Step now draw before move after)
    (found : before.chat? queue = some channel) :
    ∃ next, after.chat? queue = some next ∧
      channel.Becomes (before.chatSending queue = true) next := by
  have same := Channel.becomes_same (before.chatSending queue = true) channel
  cases step with
  | signal signal =>
      obtain ⟨notices, connection, parked, _, after⟩ := after_signal_parked now draw signal before
      rw [after]
      exact ⟨channel, found, same⟩
  | payload text => exact receive_becomes text found
  | unpark => exact unpark_becomes found
  | takeChat there taken =>
      exact set_chat_becomes found there fun _ => Channel.becomes_taken taken
  | addChat capacity =>
      obtain ⟨bound, _⟩ := List.getElem?_eq_some_iff.mp found
      exact ⟨channel, (List.getElem?_append_left bound).trans found, same⟩
  | dropChat there =>
      exact set_chat_becomes found there fun _ => Channel.becomes_dropped _ _
  | _ => exact ⟨channel, found, same⟩

/-- Nobody begins to send to a queue but a handler that is put in place. -/
theorem step_sending (step : Step now draw before move after)
    (other : move ≠ .setHandler (some queue)) (sending : after.chatSending queue = true) :
    before.chatSending queue = true := by
  cases step with
  | signal signal =>
      obtain ⟨notices, connection, parked, kept, same⟩ :=
        after_signal_parked now draw signal before
      rw [same, chat_sending_iff] at sending
      rw [chat_sending_iff]
      rcases kept with rfl | rfl
      · exact .inl (sending.resolve_right nofun)
      · exact sending
  | payload text => exact receive_sending text sending
  | unpark => exact unpark_sending sending
  | setHandler handler =>
      rw [chat_sending_iff] at sending ⊢
      rcases sending with own | parked
      · exact absurd (congrArg Move.setHandler own) other
      · exact .inr parked
  | _ => exact sending

end Dispatcher

end LiveChat.Stream
