import LiveChat.Proofs.Conversation.OpenReply
import LiveChat.Proofs.Session.Ledger
import LiveChat.Proofs.Stream.Queues

/-!
Where a connection, a session and their callers meet. To attach is to make a queue, to have the
session listen to it, and then to put its sender in place; to detach is to take the sender out and
then to have the session listen no more. Everything goes on between these steps: other calls, the
turns of the session, and events that are read, handed over with a sender of their own, or parked.
-/

set_option autoImplicit false

namespace LiveChat.Session

open Conversation (Action Message State)
open LiveChat.Stream (Channel ChatEvent Connection Dispatcher Happening Move Route)

/-- How far a call has come. -/
inductive Phase where
  | begun
  | asked
  | returned (result : Except SessionError Unit)
  /-- Its caller does not wait for it any more. -/
  | abandoned

structure Errand where
  command : Command
  phase : Phase

structure Junction where
  dispatcher : Dispatcher
  /-- An event that is on its way to a queue, with the sender that it was given. -/
  handing : Option (Nat × ChatEvent)
  session : Session Nat
  /-- Every call that was made. Its number is its place. -/
  errands : List Errand
  /-- What the session has answered, and to which call. -/
  answers : List (Nat × Except SessionError Unit)

/-- What happened at a junction. -/
inductive Incident where
  | begun (command : Command)
  | asked (number : Nat)
  | returned (number : Nat) (result : Except SessionError Unit)
  | abandoned (number : Nat)
  | took (stamp : Message.Stamp) (input : Input Nat)
  | reported (action : Action)
  | deserted
  | moved (happening : Happening)
  | picked (text : String)
  | handed

namespace Incident

/-- The action that is taken, with the stamp that it is given. -/
def action? : Incident → Option (Message.Stamp × Action)
  | took stamp input => input.action?.map fun action => (stamp, action)
  | _ => none

/-- The session takes something in a turn. -/
def Takes : Incident → Prop
  | took _ _ => True
  | _ => False

/-- The session hears an event of the chat. -/
def Hears : Incident → Prop
  | took _ (.event _) => True
  | _ => False

/-- The session carries out a call to attach. -/
def Attaches : Incident → Prop
  | took _ (.request ⟨_, .attach _⟩) => True
  | _ => False

/-- A call to attach begins. -/
def OffersQueue : Incident → Prop
  | begun (.attach _) => True
  | _ => False

end Incident

namespace Junction

def new (settings : Stream.Settings) (chat changes notices : Option Nat) : Junction :=
  { dispatcher := .new settings chat changes notices, handing := none, session := .new
    errands := [], answers := [] }

/-- The queue was made to attach the session. -/
def Offered (queue : Nat) (junction : Junction) : Prop :=
  ∃ errand ∈ junction.errands, errand.command = .attach queue

/-- An event can still be sent to the queue. -/
def Sends (queue : Nat) (junction : Junction) : Prop :=
  junction.dispatcher.chatSending queue = true ∨
    ∃ event, junction.handing = some (queue, event)

/-- A call that is not over has the sender of the queue. -/
def Keeps (queue : Nat) (junction : Junction) : Prop :=
  ∃ errand ∈ junction.errands, errand.command = .attach queue ∧
    (errand.phase = .begun ∨ errand.phase = .asked)

def setPhase (number : Nat) (phase : Phase) (junction : Junction) : Junction :=
  { junction with errands := junction.errands.modify number fun errand => { errand with phase } }

/-- What a call does before it asks the session. -/
def begin (command : Command) (capacity : Nat) (junction : Junction) : Junction :=
  { junction with
    dispatcher := match command with
      | .attach _ => (junction.dispatcher.addChat capacity).1
      | .detach => junction.dispatcher.setHandler none
      | _ => junction.dispatcher
    errands := junction.errands ++ [⟨command, .begun⟩] }

/-- A session that has stopped answers at once. -/
def ask (number : Nat) (command : Command) (junction : Junction) : Junction :=
  match junction.session.ask? number command with
  | none =>
      { junction.setPhase number .asked with
        answers := junction.answers ++ [(number, .error .closed)] }
  | some session => { junction.setPhase number .asked with session }

/-- What a call does after it was answered. -/
def giveBack (number : Nat) (command : Command) (result : Except SessionError Unit)
    (junction : Junction) : Junction :=
  { junction.setPhase number (.returned result) with
    dispatcher := match command, result with
      | .attach queue, .ok _ => junction.dispatcher.setHandler (some queue)
      | _, _ => junction.dispatcher }

def onChat (place : Option Nat) (change : Channel ChatEvent → Channel ChatEvent)
    (dispatcher : Dispatcher) : Dispatcher :=
  { dispatcher with chats := Ledger.onQueue place change dispatcher.chats }

/-- An event that was heard is gone from its queue. -/
def hear (input : Input Nat) (session : Session Nat) (dispatcher : Dispatcher) : Dispatcher :=
  match input with
  | .event _ => onChat session.events Ledger.withoutFirst dispatcher
  | _ => dispatcher

/-- The session takes an input, and gives up the queue that it does not listen to any more. -/
def take (stamp : Message.Stamp) (input : Input Nat) (session : Session Nat)
    (junction : Junction) : Junction :=
  let turn := session.take stamp input
  { junction with
    session := turn.session
    dispatcher := onChat turn.left Channel.drop (hear input session junction.dispatcher)
    answers := junction.answers ++ (turn.served.toList.map fun number => (number, .ok ())) ++
      turn.refused.map fun number => (number, .error .closed) }

/-- The last handle is gone. -/
def desert (junction : Junction) : Junction :=
  { junction with
    session :=
      { junction.session with requests := [], outcomes := [], events := none, stopped := true }
    dispatcher := onChat junction.session.events Channel.drop junction.dispatcher }

/-- What the session may hear. A queue ends when it is empty and nobody has a sender of it. -/
def Offers (junction : Junction) : Offer → Prop
  | .nothing => True
  | .event event => ∃ queue channel rest, junction.session.events = some queue ∧
      junction.dispatcher.chat? queue = some channel ∧ channel.take? = some (event, rest)
  | .ended => ∃ queue channel, junction.session.events = some queue ∧
      junction.dispatcher.chat? queue = some channel ∧ channel.items = [] ∧
      ¬junction.Sends queue ∧ ¬junction.Keeps queue

/-- What others do with the connection. The queues that were made for the session are read by the
session alone, and only a call to attach has their senders. -/
def Foreign (junction : Junction) : Move → Prop
  | .takeChat queue _ => ¬junction.Offered queue
  | .dropChat queue => ¬junction.Offered queue
  | .setHandler (some queue) =>
      ¬junction.Offered queue ∧ queue < junction.dispatcher.chats.length
  | _ => True

inductive Step : Junction → Incident → Junction → Prop where
  | begin {junction : Junction} (command : Command) (capacity : Nat)
      (made : ∀ queue, command = .attach queue → queue = junction.dispatcher.chats.length) :
      Step junction (.begun command) (junction.begin command capacity)
  | ask {junction : Junction} {number : Nat} {command : Command}
      (found : junction.errands[number]? = some ⟨command, .begun⟩) :
      Step junction (.asked number) (junction.ask number command)
  | giveBack {junction : Junction} {number : Nat} {command : Command}
      {result : Except SessionError Unit}
      (found : junction.errands[number]? = some ⟨command, .asked⟩)
      (answered : (number, result) ∈ junction.answers) :
      Step junction (.returned number result) (junction.giveBack number command result)
  | abandon {junction : Junction} {number : Nat} {command : Command} {phase : Phase}
      (found : junction.errands[number]? = some ⟨command, phase⟩)
      (waiting : phase = .begun ∨ phase = .asked) :
      Step junction (.abandoned number) (junction.setPhase number .abandoned)
  | take {junction : Junction} {session : Session Nat} {input : Input Nat} {offer : Offer}
      (stamp : Message.Stamp) (offers : junction.Offers offer)
      (next : junction.session.next? offer = some (input, session)) :
      Step junction (.took stamp input) (junction.take stamp input session)
  | report {junction : Junction} (action : Action) :
      Step junction (.reported action) { junction with session := junction.session.report action }
  | desert {junction : Junction} (idle : junction.session.requests = []) :
      Step junction .deserted junction.desert
  | move {junction : Junction} {dispatcher : Dispatcher} (happening : Happening)
      (foreign : junction.Foreign happening.move)
      (step : Dispatcher.Step happening.now happening.draw junction.dispatcher happening.move
        dispatcher) :
      Step junction (.moved happening) { junction with dispatcher }
  /-- A payload is read, and its event is given a sender of the handler that is in place. -/
  | pick {junction : Junction} {connection : Connection} {event : ChatEvent} {queue : Nat}
      (text : String) (free : junction.handing = none)
      (alive : junction.dispatcher.connection.destroyed = false)
      (live : junction.dispatcher.connection.link = some .live)
      (listening : junction.dispatcher.listening)
      (read : junction.dispatcher.connection.read junction.dispatcher.settings text =
        (connection, some (.chat event)))
      (handler : junction.dispatcher.handler = some queue) :
      Step junction (.picked text)
        { junction with
          dispatcher := { junction.dispatcher with connection }
          handing := some (queue, event) }
  | hand {junction : Junction} {event : ChatEvent} {queue : Nat}
      (handing : junction.handing = some (queue, event)) :
      Step junction .handed
        { junction with
          dispatcher := junction.dispatcher.deliverChat queue event, handing := none }

/-- Any number of steps, with all that happened, oldest first. -/
inductive Run (start : Junction) : List Incident → Junction → Prop where
  | start : Run start [] start
  | next {incidents : List Incident} {before after : Junction} {incident : Incident}
      (run : Run start incidents before) (step : Step before incident after) :
      Run start (incidents ++ [incident]) after

variable {start middle before after final junction : Junction} {queue number : Nat}
  {incidents later : List Incident} {incident : Incident} {channel : Channel ChatEvent}

theorem Run.append (first : Run start incidents middle) (second : Run middle later final) :
    Run start (incidents ++ later) final := by
  induction second with
  | start => rwa [List.append_nil]
  | next _ step induction =>
      rw [← List.append_assoc]
      exact .next induction step

/-- A run goes through each of its incidents. -/
theorem Run.through {first since : List Incident} (run : Run start incidents final)
    (parts : incidents = first ++ incident :: since) :
    ∃ before after, Run start first before ∧ Step before incident after ∧
      Run after since final := by
  induction run generalizing since with
  | start => simp at parts
  | @next incidents before after last run step induction =>
      rcases List.eq_nil_or_concat since with rfl | ⟨rest, final, rfl⟩
      · obtain ⟨rfl, same⟩ := List.append_inj' parts rfl
        obtain rfl := List.singleton_inj.mp same
        exact ⟨before, after, run, step, .start⟩
      · rw [List.concat_eq_append, ← List.cons_append, ← List.append_assoc] at parts
        obtain ⟨same, ends⟩ := List.append_inj' parts rfl
        obtain rfl := List.singleton_inj.mp ends
        obtain ⟨place, next, earlier, taken, later⟩ := induction same
        exact ⟨place, next, earlier, taken, List.concat_eq_append ▸ later.next step⟩

/-- What every step with such an incident keeps, a run of them keeps, and what they have in common
holds of all its incidents. -/
theorem Run.keeps {holds : Junction → Prop} {allowed common : Incident → Prop}
    (run : Run start incidents final)
    (each : ∀ {before incident after}, Step before incident after → holds before →
      allowed incident → holds after ∧ common incident)
    (begun : holds start) (all : ∀ incident ∈ incidents, allowed incident) :
    holds final ∧ ∀ incident ∈ incidents, common incident := by
  induction run with
  | start => exact ⟨begun, nofun⟩
  | next run step induction =>
      obtain ⟨still, others⟩ := induction fun incident member =>
        all incident (List.mem_append_left _ member)
      obtain ⟨last, own⟩ := each step still
        (all _ (List.mem_append_right _ (List.mem_singleton_self _)))
      refine ⟨last, ?_⟩
      intro incident member
      rcases List.mem_append.mp member with earlier | new
      · exact others incident earlier
      · rw [List.mem_singleton.mp new]
        exact own

/-- Only what waits for the session, what it has answered and the call itself are changed as it
asks. -/
theorem ask_asks (number : Nat) (command : Command) (junction : Junction) :
    ∃ requests answers, junction.ask number command =
      { junction.setPhase number .asked with
        session := { junction.session with requests }, answers } := by
  unfold ask
  split
  · exact ⟨_, _, rfl⟩
  · next session handed =>
    obtain rfl := ask_handed handed
    exact ⟨_, _, rfl⟩

/-! What happens to the queues. -/

theorem on_chat_found {place : Option Nat} {change : Channel ChatEvent → Channel ChatEvent}
    {dispatcher : Dispatcher} (found : dispatcher.chat? queue = some channel) :
    (onChat place change dispatcher).chat? queue =
      some (if place = some queue then change channel else channel) := by
  cases place with
  | none => simpa [onChat, Ledger.onQueue] using found
  | some place =>
      have there : dispatcher.chats[queue]? = some channel := found
      simp only [onChat, Ledger.onQueue, Dispatcher.chat?, List.getElem?_modify, there,
        Option.some.injEq]
      by_cases own : place = queue
      · simp [own]
      · simp [own]

theorem hear_found {dispatcher : Dispatcher} (input : Input Nat) (session : Session Nat)
    (found : dispatcher.chat? queue = some channel) :
    ∃ next, (hear input session dispatcher).chat? queue = some next ∧
      next.items <:+ channel.items ∧ next.receiving = channel.receiving := by
  cases input with
  | event event =>
      refine ⟨_, on_chat_found found, ?_⟩
      split
      · exact ⟨List.tail_suffix _, rfl⟩
      · exact ⟨List.suffix_rfl, rfl⟩
  | _ => exact ⟨channel, found, List.suffix_rfl, rfl⟩

theorem hear_sending (input : Input Nat) (session : Session Nat) (dispatcher : Dispatcher) :
    (hear input session dispatcher).chatSending queue = dispatcher.chatSending queue := by
  cases input <;> rfl

/-- What a turn of the session leaves of a queue. -/
theorem take_found (stamp : Message.Stamp) (input : Input Nat) (session : Session Nat)
    (found : junction.dispatcher.chat? queue = some channel) :
    ∃ next, (junction.take stamp input session).dispatcher.chat? queue = some next ∧
      next.items <:+ channel.items ∧ (next.receiving = true → channel.receiving = true) ∧
      ((session.take stamp input).left = some queue →
        next.items = [] ∧ next.receiving = false) := by
  obtain ⟨middle, there, items, reading⟩ := hear_found input session found
  refine ⟨_, on_chat_found there, ?_⟩
  split
  · exact ⟨List.nil_suffix, nofun, fun _ => ⟨rfl, rfl⟩⟩
  · next other =>
    exact ⟨items, fun lasting => reading.symm.trans lasting, fun left => absurd left other⟩

/-- What a step makes of a queue. -/
theorem step_becomes (step : Step before incident after)
    (found : before.dispatcher.chat? queue = some channel) :
    ∃ next, after.dispatcher.chat? queue = some next ∧
      channel.Becomes (before.Sends queue) next := by
  have same := Channel.becomes_same (before.Sends queue) channel
  cases step with
  | begin command capacity made =>
      obtain ⟨bound, _⟩ := List.getElem?_eq_some_iff.mp found
      cases command with
      | attach queue => exact ⟨channel, (List.getElem?_append_left bound).trans found, same⟩
      | _ => exact ⟨channel, found, same⟩
  | @ask number command there =>
      obtain ⟨requests, answers, asked⟩ := ask_asks number command before
      rw [asked]
      exact ⟨channel, found, same⟩
  | giveBack there answered =>
      refine ⟨channel, ?_, same⟩
      unfold giveBack
      split <;> exact found
  | take stamp offers next =>
      obtain ⟨shorter, there, items, reading, _⟩ := take_found stamp _ _ found
      exact ⟨shorter, there, .shorter items reading⟩
  | desert idle =>
      refine ⟨_, on_chat_found found, ?_⟩
      split
      · exact Channel.becomes_dropped _ channel
      · exact same
  | move happening foreign step =>
      obtain ⟨next, there, becomes⟩ := Dispatcher.step_becomes step found
      exact ⟨next, there, becomes.mono .inl⟩
  | @hand event place handing =>
      refine Dispatcher.deliver_chat_becomes event found fun own => ?_
      subst own
      exact .inr ⟨event, handing⟩
  | _ => exact ⟨channel, found, same⟩

/-- Who can send to a queue could do so before, is put in place by the call that has the sender, or
has nothing to do with the session. -/
theorem step_sends (step : Step before incident after) (sends : after.Sends queue) :
    before.Sends queue ∨
      (∃ number, incident = .returned number (.ok ()) ∧ (number, .ok ()) ∈ before.answers ∧
        before.errands[number]? = some ⟨.attach queue, .asked⟩) ∨
      (¬before.Offered queue ∧ queue < before.dispatcher.chats.length) := by
  cases step with
  | begin command capacity made =>
      left
      cases command with
      | detach =>
          refine sends.imp_left fun sending => ?_
          rw [Dispatcher.chat_sending_iff] at sending ⊢
          exact .inr (sending.resolve_left nofun)
      | _ => exact sends
  | @ask number command there =>
      left
      obtain ⟨requests, answers, asked⟩ := ask_asks number command before
      rw [asked] at sends
      exact sends
  | @giveBack number command result there answered =>
      unfold giveBack at sends
      split at sends
      · next place _ =>
        by_cases own : place = queue
        · subst own
          exact .inr (.inl ⟨number, rfl, answered, there⟩)
        · left
          refine sends.imp_left fun sending => ?_
          rw [Dispatcher.chat_sending_iff] at sending ⊢
          exact .inr (sending.resolve_left fun handler => own (Option.some.inj handler))
      · exact .inl sends
  | take stamp offers next =>
      exact .inl (sends.imp_left fun sending => hear_sending _ _ _ ▸ sending)
  | @move dispatcher happening foreign step =>
      rcases sends with sending | handing
      · by_cases placed : happening.move = .setHandler (some queue)
        · rw [placed] at foreign
          exact .inr (.inr foreign)
        · exact .inl (.inl (Dispatcher.step_sending step placed sending))
      · exact .inl (.inr handing)
  | @pick connection event place text free alive live listening read handler =>
      left
      rcases sends with sending | ⟨other, handing⟩
      · exact .inl sending
      · cases handing
        exact .inl (Dispatcher.chat_sending_iff.mpr (.inl handler))
  | @hand event place handing =>
      left
      rcases sends with sending | ⟨other, gone⟩
      · rcases Dispatcher.deliver_chat_sending event sending with earlier | rfl
        · exact .inl earlier
        · exact .inr ⟨event, handing⟩
      · cases gone
  | _ => exact .inl sends

end Junction

end LiveChat.Session
