import LiveChat.Proofs.Conversation.OpenReply
import LiveChat.Proofs.Session.Ledger
import Mathlib.Data.List.Nodup

/-!
Whoever asks a session, and whatever it hears meanwhile, all comes to one row of actions. A call
that came back well stands in it once, one that was refused never does, and what one source handed
in stands there in the order in which it was handed in.
-/

set_option autoImplicit false

namespace LiveChat.Session

open Conversation (Action Message State)
open LiveChat.Stream (Channel ChatEvent)

/-- The action of a call, with its number. -/
def Entry.asked? (entry : Entry) : Option (Nat × Action) :=
  match entry.source with
  | .call number => some (number, entry.action)
  | _ => none

def Call.ordered? (entry : Call × Nat) : Option (Nat × Action) :=
  entry.1.command.action?.map fun action => (entry.2, action)

/-- The actions that were taken from one source. -/
def takenFrom (source : Source) (taken : List Entry) : List Action :=
  taken.filterMap fun entry => if entry.source = source then some entry.action else none

theorem taken_own (taken : List Entry) (entry : Entry) :
    takenFrom entry.source (taken ++ [entry]) = takenFrom entry.source taken ++ [entry.action] := by
  simp [takenFrom]

theorem taken_other {source : Source} (taken : List Entry) {entry : Entry}
    (other : entry.source ≠ source) :
    takenFrom source (taken ++ [entry]) = takenFrom source taken := by
  simp [takenFrom, other]

/-- The actions that the events sent to a queue stand for. -/
def sentTo (place : Nat) (sent : List (Nat × ChatEvent)) : List Action :=
  sent.filterMap fun entry => if entry.1 = place then some (.ofChat entry.2) else none

namespace Ledger

variable {ledger before after : Ledger} {stamp : Message.Stamp}

/-! The state. -/

/-- The state is what the row of actions makes of an empty conversation. -/
structure Folded (ledger : Ledger) : Prop where
  state : ledger.session.state =
    (ledger.taken.map fun entry => (entry.stamp, entry.action)).foldl State.after .empty
  published : ledger.session.published = ledger.taken.length

theorem turn_folded (turn : Turns stamp before after) (folded : before.Folded) :
    after.Folded := by
  obtain ⟨state, published⟩ := folded
  have grown : ∀ entry : Entry,
      (before.session.state.apply entry.stamp entry.action).1 =
        ((before.taken ++ [entry]).map fun entry => (entry.stamp, entry.action)).foldl
          State.after .empty := by
    intro entry
    rw [List.map_append, List.foldl_append, ← state]
    rfl
  cases turn with
  | dispatch first => exact ⟨grown ⟨stamp, _, _⟩, by simp [published]⟩
  | listen events first idle => exact ⟨state, published⟩
  | stop first => exact ⟨state, published⟩
  | outcome idle first => exact ⟨grown ⟨stamp, _, .outcomes⟩, by simp [published]⟩
  | event listening found first => exact ⟨grown ⟨stamp, .ofChat _, _⟩, by simp [published]⟩
  | silence => exact ⟨state, published⟩

theorem step_folded (step : Step before after) (folded : before.Folded) : after.Folded := by
  cases step with
  | call handle command =>
      rw [call_frame]
      exact ⟨folded.state, folded.published⟩
  | report action =>
      rw [report_frame]
      exact ⟨folded.state, folded.published⟩
  | take stamp offers next => exact turn_folded (take_turns stamp offers next).2 folded
  | _ => exact ⟨folded.state, folded.published⟩

/-! The calls. -/

/-- The calls that were carried out stand before all others. -/
structure Settled (ledger : Ledger) (done rest : List (Call × Nat)) : Prop where
  whole : ledger.calls.zipIdx = done ++ rest
  requests : ledger.session.requests =
    if ledger.session.stopped then [] else rest.map fun entry => ⟨entry.2, entry.1.command⟩
  returned : ledger.returned = (done.map fun entry => (entry.2, .ok ())) ++
    if ledger.session.stopped then rest.map fun entry => (entry.2, .error .closed) else []
  taken : ledger.taken.filterMap Entry.asked? = done.filterMap Call.ordered?

variable {done rest : List (Call × Nat)}

theorem call_settled (handle : Nat) (command : Command) (settled : ledger.Settled done rest) :
    (ledger.call handle command).Settled done
      (rest ++ [(⟨handle, command⟩, ledger.calls.length)]) := by
  obtain ⟨whole, requests, returned, taken⟩ := settled
  have numbered : (ledger.calls ++ [Call.mk handle command]).zipIdx =
      done ++ (rest ++ [(⟨handle, command⟩, ledger.calls.length)]) := by
    rw [List.zipIdx_append, whole, List.append_assoc]
    simp
  rw [call_frame]
  cases stopped : ledger.session.stopped with
  | true =>
      simp only [stopped, if_true] at requests returned
      exact ⟨numbered, by simp [stopped, requests], by simp [stopped, returned], taken⟩
  | false =>
      simp only [stopped, Bool.false_eq_true, if_false] at requests returned
      exact ⟨numbered, by simp [stopped, requests], by simp [stopped, returned], taken⟩

theorem settled_nobody (settled : ledger.Settled done rest)
    (idle : ledger.session.requests = []) (alive : ledger.session.stopped = false) : rest = [] := by
  have requests := settled.requests
  rw [idle, alive] at requests
  simpa using requests.symm

/-- The first request is that of the first call that is not carried out. -/
theorem settled_first {number : Nat} {command : Command} {later : List (Request Nat)}
    (settled : ledger.Settled done rest) (alive : ledger.session.stopped = false)
    (first : ledger.session.requests = ⟨number, command⟩ :: later) :
    ∃ call others, ledger.calls.zipIdx = (done ++ [(call, number)]) ++ others ∧
      call.command = command ∧ later = others.map fun entry => ⟨entry.2, entry.1.command⟩ := by
  have requests := settled.requests
  rw [first, alive] at requests
  cases rest with
  | nil => cases requests
  | cons entry others =>
      obtain ⟨same, tail⟩ := List.cons.inj requests
      obtain ⟨rfl, rfl⟩ := Request.mk.inj same
      have whole : ledger.calls.zipIdx = (done ++ [entry]) ++ others := by
        rw [settled.whole, List.append_assoc, List.singleton_append]
      exact ⟨entry.1, others, whole, rfl, tail⟩

theorem turn_settled (alive : before.session.stopped = false) (turn : Turns stamp before after)
    (settled : before.Settled done rest) :
    ∃ done rest, after.Settled done rest := by
  have returned := settled.returned
  simp only [alive, Bool.false_eq_true, if_false, List.append_nil] at returned
  cases turn with
  | @dispatch number action later first =>
      obtain ⟨call, others, whole, ordered, tail⟩ := settled_first settled alive first
      refine ⟨done ++ [(call, number)], others, whole, ?_, ?_, ?_⟩
      · simp [alive, tail]
      · simp [alive, returned]
      · have read : Call.ordered? (call, number) = some (number, action) := by
          simp [Call.ordered?, ordered, Command.action?]
        simp [settled.taken, Entry.asked?, read]
  | @listen number command later events first idle =>
      obtain ⟨call, others, whole, ordered, tail⟩ := settled_first settled alive first
      refine ⟨done ++ [(call, number)], others, whole, ?_, ?_, ?_⟩
      · simp [alive, tail]
      · simp [alive, returned]
      · have unread : Call.ordered? (call, number) = none := by
          simp [Call.ordered?, ordered, idle]
        simp [settled.taken, unread]
  | @stop number later first =>
      obtain ⟨call, others, whole, ordered, tail⟩ := settled_first settled alive first
      -- Those behind it get their answer now, and stay the rest.
      refine ⟨done ++ [(call, number)], others, whole, rfl, ?_, ?_⟩
      · simp [returned, tail]
      · have unread : Call.ordered? (call, number) = none := by
          simp [Call.ordered?, ordered, Command.action?]
        simp [settled.taken, unread]
  | outcome idle first =>
      refine ⟨done, rest, settled.whole, settled.requests, settled.returned, ?_⟩
      simp [settled.taken, Entry.asked?]
  | event listening found first =>
      refine ⟨done, rest, settled.whole, settled.requests, settled.returned, ?_⟩
      simp [settled.taken, Entry.asked?]
  | silence => exact ⟨done, rest, settled.whole, settled.requests, settled.returned, settled.taken⟩

theorem step_settled (step : Step before after) (settled : before.Settled done rest) :
    ∃ done rest, after.Settled done rest := by
  cases step with
  | call handle command => exact ⟨_, _, call_settled handle command settled⟩
  | report action =>
      rw [report_frame]
      exact ⟨done, rest, settled.whole, settled.requests, settled.returned, settled.taken⟩
  | take stamp offers next =>
      obtain ⟨alive, turn⟩ := take_turns stamp offers next
      exact turn_settled alive turn settled
  | abandon idle =>
      refine ⟨done, rest, settled.whole, rfl, ?_, settled.taken⟩
      have returned := settled.returned
      cases stopped : before.session.stopped with
      | true => simpa [abandon, stopped] using returned
      | false =>
          rw [settled_nobody settled idle stopped] at returned ⊢
          simpa [abandon, stopped] using returned
  | _ => exact ⟨done, rest, settled.whole, settled.requests, settled.returned, settled.taken⟩

/-! The outcomes. -/

/-- What is reported to a session that stops is lost. Else it waits or was taken. -/
def Heeded (ledger : Ledger) : Prop :=
  ∃ lost, takenFrom .outcomes ledger.taken ++ ledger.session.outcomes ++ lost = ledger.reported ∧
    (ledger.session.stopped = false → lost = [])

theorem turn_heeded (alive : before.session.stopped = false) (turn : Turns stamp before after)
    (heeded : before.Heeded) : after.Heeded := by
  obtain ⟨lost, whole, lossless⟩ := heeded
  obtain rfl := lossless alive
  cases turn with
  | dispatch first => exact ⟨[], by simpa [taken_other] using whole, fun _ => rfl⟩
  | listen events first idle => exact ⟨[], whole, fun _ => rfl⟩
  | stop first => exact ⟨before.session.outcomes, by simpa using whole, nofun⟩
  | @outcome action later idle first =>
      refine ⟨[], ?_, fun _ => rfl⟩
      rw [taken_own _ ⟨stamp, action, .outcomes⟩, ← whole, first]
      simp
  | event listening found first =>
      exact ⟨[], by simpa [taken_other] using whole, fun _ => rfl⟩
  | silence => exact ⟨[], whole, fun _ => rfl⟩

theorem step_heeded (step : Step before after) (heeded : before.Heeded) : after.Heeded := by
  cases step with
  | call handle command =>
      rw [call_frame]
      exact heeded
  | report action =>
      obtain ⟨lost, whole, lossless⟩ := heeded
      rw [report_frame]
      cases stopped : before.session.stopped with
      | true =>
          refine ⟨lost ++ [action], ?_, ?_⟩
          · simp [← whole]
          · intro alive
            exact absurd (stopped.symm.trans alive) nofun
      | false =>
          obtain rfl := lossless stopped
          exact ⟨[], by simp [← whole], fun _ => rfl⟩
  | take stamp offers next =>
      obtain ⟨alive, turn⟩ := take_turns stamp offers next
      exact turn_heeded alive turn heeded
  | abandon idle =>
      obtain ⟨lost, whole, _⟩ := heeded
      exact ⟨before.session.outcomes ++ lost, by simpa [abandon] using whole, nofun⟩
  | _ => exact heeded

/-! The queues. -/

/-- What was sent to a queue waits there or was taken, unless nobody listens to it any more. -/
structure Conveyed (queues : List (Channel ChatEvent)) (place : Nat) (taken sent : List Action) :
    Prop where
  absent : queues[place]? = none → taken = [] ∧ sent = []
  present : ∀ channel, queues[place]? = some channel →
    ∃ lost, taken ++ channel.items.map .ofChat ++ lost = sent ∧
      (channel.receiving = true → lost = [])

variable {queues : List (Channel ChatEvent)} {place : Nat} {taken sent : List Action}

theorem drop_conveyed (left : Option Nat) (conveyed : Conveyed queues place taken sent) :
    Conveyed (onQueue left Channel.drop queues) place taken sent := by
  cases left with
  | none => exact conveyed
  | some other =>
      simp only [onQueue]
      refine ⟨?_, ?_⟩
      · intro missing
        apply conveyed.absent
        simpa using missing
      · intro channel found
        rw [List.getElem?_modify] at found
        obtain ⟨former, there, rfl⟩ := Option.map_eq_some_iff.mp found
        obtain ⟨lost, whole, lossless⟩ := conveyed.present former there
        split
        · exact ⟨former.items.map .ofChat ++ lost, by simpa [Channel.drop] using whole,
            fun listens => absurd listens Bool.false_ne_true⟩
        · exact ⟨lost, whole, lossless⟩

theorem open_conveyed (capacity : Nat) (conveyed : Conveyed queues place taken sent) :
    Conveyed (queues ++ [.new capacity]) place taken sent := by
  refine ⟨?_, ?_⟩
  · intro missing
    apply conveyed.absent
    rw [List.getElem?_eq_none_iff] at missing ⊢
    rw [List.length_append] at missing
    omega
  · intro channel found
    by_cases old : place < queues.length
    · rw [List.getElem?_append_left old] at found
      exact conveyed.present channel found
    · have missing : queues[place]? = none := List.getElem?_eq_none_iff.mpr (by omega)
      obtain ⟨rfl, rfl⟩ := conveyed.absent missing
      rw [List.getElem?_append_right (by omega)] at found
      obtain rfl := List.mem_singleton.mp (List.mem_of_getElem? found)
      exact ⟨[], rfl, fun _ => rfl⟩

/-- What is sent stands last, in its queue as well. -/
theorem send_conveyed {other : Nat} {event : ChatEvent} {channel next : Channel ChatEvent}
    {sent : List (Nat × ChatEvent)} (found : queues[other]? = some channel)
    (offered : channel.offer event = .sent next)
    (conveyed : Conveyed queues place taken (sentTo place sent)) :
    Conveyed (queues.set other next) place taken (sentTo place (sent ++ [(other, event)])) := by
  obtain ⟨bound, _⟩ := List.getElem?_eq_some_iff.mp found
  by_cases same : other = place
  · subst same
    have more : sentTo other (sent ++ [(other, event)]) = sentTo other sent ++ [.ofChat event] := by
      simp [sentTo]
    rw [more]
    refine ⟨fun missing => by simp [bound] at missing, ?_⟩
    intro last present
    obtain rfl : next = last := by simpa [bound] using present
    obtain ⟨lost, whole, lossless⟩ := conveyed.present channel found
    have receiving : channel.receiving = true := by
      unfold Channel.offer at offered
      split at offered
      · cases offered
      · next receives => simpa using receives
    obtain rfl := lossless receiving
    refine ⟨[], ?_, fun _ => rfl⟩
    rw [Channel.offer_sent_items offered, ← whole]
    simp
  · have unchanged : sentTo place (sent ++ [(other, event)]) = sentTo place sent := by
      simp [sentTo, same]
    rw [unchanged]
    refine ⟨fun missing => conveyed.absent ?_, fun last present => conveyed.present last ?_⟩
    · rwa [List.getElem?_set_ne same] at missing
    · rwa [List.getElem?_set_ne same] at present

theorem heard_conveyed {other : Nat} {event : ChatEvent} {channel rest : Channel ChatEvent}
    {entries : List Entry} (stamp : Message.Stamp) (found : queues[other]? = some channel)
    (first : channel.take? = some (event, rest))
    (conveyed : Conveyed queues place (takenFrom (.queue place) entries) sent) :
    Conveyed (queues.modify other withoutFirst) place
      (takenFrom (.queue place) (entries ++ [⟨stamp, .ofChat event, .queue other⟩])) sent := by
  obtain ⟨bound, _⟩ := List.getElem?_eq_some_iff.mp found
  by_cases same : other = place
  · subst same
    rw [taken_own _ ⟨stamp, .ofChat event, .queue other⟩]
    refine ⟨fun missing => by simp at missing; omega, ?_⟩
    intro last present
    rw [List.getElem?_modify, found] at present
    obtain rfl : withoutFirst channel = last := by simpa using present
    obtain ⟨lost, whole, lossless⟩ := conveyed.present channel found
    rw [Channel.take_items first] at whole
    refine ⟨lost, ?_, lossless⟩
    simp [← whole, withoutFirst, Channel.take_items first]
  · rw [taken_other _ (by simpa using same)]
    refine ⟨fun missing => conveyed.absent ?_, fun last present => conveyed.present last ?_⟩
    · simpa using missing
    · simpa [List.getElem?_modify, same] using present

/-- What happens to a queue happens to its part of the ledger. -/
def Delivers (place : Nat) (ledger : Ledger) : Prop :=
  Conveyed ledger.queues place (takenFrom (.queue place) ledger.taken) (sentTo place ledger.sent)

theorem turn_delivers (turn : Turns stamp before after) (delivers : before.Delivers place) :
    after.Delivers place := by
  cases turn with
  | dispatch first => simpa [Delivers, taken_other] using delivers
  | listen events first idle => exact drop_conveyed _ delivers
  | stop first => exact drop_conveyed _ delivers
  | outcome idle first => simpa [Delivers, taken_other] using delivers
  | event listening found first => exact heard_conveyed stamp found first delivers
  | silence => exact delivers

theorem step_delivers (step : Step before after) (delivers : before.Delivers place) :
    after.Delivers place := by
  cases step with
  | call handle command =>
      rw [call_frame]
      exact delivers
  | report action => exact delivers
  | openQueue capacity => exact open_conveyed capacity delivers
  | send found sent => exact send_conveyed found sent delivers
  | take stamp offers next => exact turn_delivers (take_turns stamp offers next).2 delivers
  | abandon idle => exact drop_conveyed _ delivers

/-! The whole. -/

theorem reached_whole (reached : Reached ledger) :
    ledger.Folded ∧ (∃ done rest, ledger.Settled done rest) ∧ ledger.Heeded ∧
      ∀ place, ledger.Delivers place := by
  induction reached with
  | start =>
      refine ⟨⟨rfl, rfl⟩, ⟨[], [], rfl, rfl, rfl, rfl⟩, ⟨[], rfl, fun _ => rfl⟩, ?_⟩
      exact fun place => ⟨fun _ => ⟨rfl, rfl⟩, nofun⟩
  | next _ step induction =>
      obtain ⟨folded, ⟨done, rest, settled⟩, heeded, delivers⟩ := induction
      exact ⟨step_folded step folded, step_settled step settled, step_heeded step heeded,
        fun place => step_delivers step (delivers place)⟩

/-- The actions that the calls of one handle led to. -/
def takenBy (handle : Nat) (ledger : Ledger) : List Action :=
  (ledger.taken.filterMap Entry.asked?).filterMap fun entry =>
    if ledger.calls[entry.1]?.map (·.handle) = some handle then some entry.2 else none

/-- The actions that one handle asked for, in the order in which it did. -/
def askedBy (handle : Nat) (ledger : Ledger) : List Action :=
  ledger.calls.filterMap fun call => if call.handle = handle then call.command.action? else none

/-- All that was taken is one row of actions, which agrees with what every caller was told and with
the order in which every source handed its actions in. -/
structure Serial (ledger : Ledger) : Prop where
  folded : ledger.Folded
  returnsOnce : (ledger.returned.map (·.1)).Nodup
  carriedOut : ∀ number call, ledger.calls[number]? = some call →
    (number, .ok ()) ∈ ledger.returned →
    takenFrom (.call number) ledger.taken = call.command.action?.toList
  refused : ∀ number, (number, .error .closed) ∈ ledger.returned →
    takenFrom (.call number) ledger.taken = []
  callers : ∀ handle, ledger.takenBy handle <+: ledger.askedBy handle
  outcomes : takenFrom .outcomes ledger.taken <+: ledger.reported
  queues : ∀ place, takenFrom (.queue place) ledger.taken <+: sentTo place ledger.sent

/-- What a call with this number asks for. -/
def pick (number : Nat) (entry : Call × Nat) : Option Action :=
  if entry.2 = number then entry.1.command.action? else none

theorem settled_pick (number : Nat) (settled : ledger.Settled done rest) :
    takenFrom (.call number) ledger.taken = done.filterMap (pick number) := by
  have both : takenFrom (.call number) ledger.taken =
      (ledger.taken.filterMap Entry.asked?).filterMap fun entry =>
        if entry.1 = number then some entry.2 else none := by
    rw [List.filterMap_filterMap]
    unfold takenFrom
    congr 1
    funext entry
    obtain ⟨stamp, action, source⟩ := entry
    cases source <;> simp [Entry.asked?]
  rw [both, settled.taken, List.filterMap_filterMap]
  congr 1
  funext entry
  cases ordered : entry.1.command.action? <;> simp [Call.ordered?, pick, ordered]

/-- What was carried out is the call of its number. -/
theorem settled_found {entry : Call × Nat} (settled : ledger.Settled done rest)
    (member : entry ∈ done) : ledger.calls[entry.2]? = some entry.1 := by
  have whole : entry ∈ ledger.calls.zipIdx := by
    rw [settled.whole]
    exact List.mem_append_left rest member
  exact List.mem_zipIdx_iff_getElem?.mp whole

theorem settled_numbers (settled : ledger.Settled done rest) :
    (done.map (·.2) ++ rest.map (·.2)).Nodup := by
  rw [← List.map_append, ← settled.whole]
  exact (List.zipIdx_map_snd 0 ledger.calls).symm ▸ List.nodup_range'

theorem pick_absent {number : Nat} (absent : number ∉ done.map (·.2)) :
    done.filterMap (pick number) = [] := by
  rw [List.filterMap_eq_nil_iff]
  intro entry member
  refine if_neg ?_
  rintro rfl
  exact absent (List.mem_map_of_mem member)

theorem pick_once {number : Nat} {call : Call} (member : (call, number) ∈ done)
    (distinct : (done.map (·.2)).Nodup) :
    done.filterMap (pick number) = call.command.action?.toList := by
  obtain ⟨earlier, later, rfl⟩ := List.append_of_mem member
  rw [List.map_append, List.map_cons, List.nodup_middle, ← List.map_append] at distinct
  have absent := (List.nodup_cons.mp distinct).1
  rw [List.map_append, List.mem_append, not_or] at absent
  rw [List.filterMap_append, List.filterMap_cons, pick_absent absent.1]
  have own : pick number (call, number) = call.command.action? := if_pos rfl
  rw [own]
  cases call.command.action? with
  | none => exact pick_absent absent.2
  | some action => exact congrArg (action :: ·) (pick_absent absent.2)

/-- Of each handle, a first part of its calls was carried out. -/
theorem settled_callers (handle : Nat) (settled : ledger.Settled done rest) :
    ledger.takenBy handle <+: ledger.askedBy handle := by
  have asked : ledger.askedBy handle = (done ++ rest).filterMap fun entry =>
      if entry.1.handle = handle then entry.1.command.action? else none := by
    unfold askedBy
    rw [← settled.whole, ← List.zipIdx_map_fst 0 ledger.calls, List.filterMap_map]
    simp only [List.zipIdx_map_fst]
    rfl
  have took : ledger.takenBy handle = done.filterMap fun entry =>
      if entry.1.handle = handle then entry.1.command.action? else none := by
    rw [takenBy, settled.taken, List.filterMap_filterMap]
    apply List.filterMap_congr
    intro entry member
    have found := settled_found settled member
    cases ordered : entry.1.command.action? <;> simp [Call.ordered?, ordered, found]
  rw [took, asked, List.filterMap_append]
  exact List.prefix_append _ _

theorem settled_returns (settled : ledger.Settled done rest) :
    (ledger.returned.map (·.1)).Nodup := by
  have numbers := settled_numbers settled
  rw [settled.returned]
  cases ledger.session.stopped with
  | true => simpa [Function.comp_def] using numbers
  | false => simpa [Function.comp_def] using (List.nodup_append.mp numbers).1

theorem settled_done {number : Nat} {call : Call} (settled : ledger.Settled done rest)
    (made : ledger.calls[number]? = some call) (well : (number, .ok ()) ∈ ledger.returned) :
    (call, number) ∈ done := by
  rw [settled.returned] at well
  rcases List.mem_append.mp well with carried | refused
  · obtain ⟨entry, member, same⟩ := List.mem_map.mp carried
    obtain ⟨rfl, _⟩ := Prod.mk.inj same
    obtain rfl := Option.some.inj (made.symm.trans (settled_found settled member))
    exact member
  · split at refused
    · simp at refused
    · cases refused

theorem settled_refused {number : Nat} (settled : ledger.Settled done rest)
    (closed : (number, .error .closed) ∈ ledger.returned) : number ∉ done.map (·.2) := by
  have numbers := settled_numbers settled
  rw [settled.returned] at closed
  rcases List.mem_append.mp closed with carried | refused
  · simp at carried
  · split at refused
    · obtain ⟨entry, member, same⟩ := List.mem_map.mp refused
      obtain ⟨rfl, _⟩ := Prod.mk.inj same
      intro both
      exact (List.nodup_append.mp numbers).2.2 _ both _ (List.mem_map_of_mem member) rfl
    · cases refused

/-- However the calls of any number of handles, the outcomes and the events fall together, they
come to one row of actions, and the state that is seen is what that row makes of an empty one. -/
theorem reached_serial (reached : Reached ledger) : ledger.Serial := by
  obtain ⟨folded, ⟨done, rest, settled⟩, heeded, delivers⟩ := reached_whole reached
  refine ⟨folded, settled_returns settled, ?_, ?_, ?_, ?_, ?_⟩
  · intro number call made well
    rw [settled_pick number settled]
    exact pick_once (settled_done settled made well)
      (List.nodup_append.mp (settled_numbers settled)).1
  · intro number closed
    rw [settled_pick number settled]
    exact pick_absent (settled_refused settled closed)
  · exact fun handle => settled_callers handle settled
  · obtain ⟨lost, whole, _⟩ := heeded
    rw [← whole, List.append_assoc]
    exact List.prefix_append _ _
  · intro place
    cases found : ledger.queues[place]? with
    | none =>
        obtain ⟨took, _⟩ := (delivers place).absent found
        rw [took]
        exact List.nil_prefix
    | some channel =>
        obtain ⟨lost, whole, _⟩ := (delivers place).present channel found
        rw [← whole, List.append_assoc]
        exact List.prefix_append _ _

/-- A command that waits behind the end of the session is refused, like one that comes later. -/
theorem shutdown_serial :
    ∃ ledger, Reached ledger ∧ ledger.Serial ∧
      ledger.returned =
        [(0, .ok ()), (1, .ok ()), (2, .error .closed), (3, .error .closed)] ∧
      takenFrom (.call 0) ledger.taken = [.clear] ∧ takenFrom (.call 2) ledger.taken = [] := by
  let stamp : Message.Stamp := { id := "1", time := default }
  have asked := Reached.next .start (.call 0 (.dispatch .clear))
  have stopping := Reached.next asked (.call 1 .shutdown)
  have behind := Reached.next stopping (.call 0 (.dispatch (.token "a")))
  have first := Reached.next behind (@Step.take _ _ _ .nothing stamp trivial rfl)
  have stopped := Reached.next first (@Step.take _ _ _ .nothing stamp trivial rfl)
  have late := Reached.next stopped (.call 1 (.dispatch .clear))
  have serial := reached_serial late
  exact ⟨_, late, serial, rfl, serial.carriedOut 0 ⟨0, .dispatch .clear⟩ rfl List.mem_cons_self,
    serial.refused 2 (by decide)⟩

end Ledger

end LiveChat.Session
