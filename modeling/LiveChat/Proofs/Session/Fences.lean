import LiveChat.Proofs.Session.Junction

/-!
Which queues can still matter to a session. The queue that a call made is listened to by the
session, or it is empty and nothing can come: its reader has left, or no sender is in place. A call
that was agreed to has its sender until it comes back, and puts it in place only then; by that time
the session may have left the queue, which stays closed.
-/

set_option autoImplicit false

namespace LiveChat.Session

open Conversation (Action Message State)
open LiveChat.Stream (Channel ChatEvent Dispatcher)

namespace Junction

variable {start before after final junction : Junction} {queue number : Nat}
  {incidents later : List Incident} {incident : Incident} {channel : Channel ChatEvent}

/-! What happens to the calls. -/

theorem set_phase_found (number other : Nat) (phase : Phase) (junction : Junction) :
    (junction.setPhase number phase).errands[other]? =
      (junction.errands[other]?).map fun errand =>
        if number = other then { errand with phase } else errand := by
  simp only [setPhase, List.getElem?_modify]
  cases junction.errands[other]? with
  | none => rfl
  | some errand => by_cases own : number = other <;> simp [own]

/-- A call that is in a phase was just put in it, or it was in it before. -/
theorem set_phase_cases {number other : Nat} {command : Command} {phase later : Phase}
    (found : (junction.setPhase number later).errands[other]? = some ⟨command, phase⟩) :
    (phase = later ∧ ∃ former, junction.errands[other]? = some ⟨command, former⟩) ∨
      junction.errands[other]? = some ⟨command, phase⟩ := by
  rw [set_phase_found] at found
  obtain ⟨errand, there, same⟩ := Option.map_eq_some_iff.mp found
  split at same
  · cases same
    exact .inl ⟨rfl, errand.phase, there⟩
  · subst same
    exact .inr there

/-- A call stays what it is. -/
theorem step_command {command : Command} {phase : Phase} (step : Step before incident after)
    (found : before.errands[number]? = some ⟨command, phase⟩) :
    ∃ later, after.errands[number]? = some ⟨command, later⟩ := by
  have set : ∀ other next, ∃ later,
      (before.setPhase other next).errands[number]? = some ⟨command, later⟩ := by
    intro other next
    rw [set_phase_found, found, Option.map_some]
    split <;> exact ⟨_, rfl⟩
  cases step with
  | begin command capacity made =>
      obtain ⟨bound, _⟩ := List.getElem?_eq_some_iff.mp found
      exact ⟨phase, (List.getElem?_append_left bound).trans found⟩
  | @ask other next there =>
      obtain ⟨requests, answers, asked⟩ := ask_asks other next before
      rw [asked]
      exact set other .asked
  | giveBack there answered => exact set _ _
  | abandon there waiting => exact set _ _
  | _ => exact ⟨phase, found⟩

theorem offered_iff :
    junction.Offered queue ↔
      ∃ (number : Nat) (phase : Phase),
        junction.errands[number]? = some ⟨.attach queue, phase⟩ := by
  constructor
  · rintro ⟨⟨_, phase⟩, member, rfl⟩
    obtain ⟨number, found⟩ := List.mem_iff_getElem?.mp member
    exact ⟨number, phase, found⟩
  · rintro ⟨number, phase, found⟩
    exact ⟨_, List.mem_of_getElem? found, rfl⟩

/-- The requests that wait in the session are those of calls that asked and were not answered. -/
structure Asked (junction : Junction) : Prop where
  requests : ∀ request ∈ junction.session.requests,
    ∃ phase, junction.errands[request.caller]? = some ⟨request.command, phase⟩
  answers : ∀ answer ∈ junction.answers, answer.1 < junction.errands.length
  begun : ∀ number command, junction.errands[number]? = some ⟨command, .begun⟩ →
    (∀ result, (number, result) ∉ junction.answers) ∧
      ∀ request ∈ junction.session.requests, request.caller ≠ number

/-- It is enough that every new answer is to a request that waited. -/
theorem asked_of_same (asked : before.Asked)
    (requests : ∀ request ∈ after.session.requests, request ∈ before.session.requests)
    (answers : ∀ answer ∈ after.answers, answer ∈ before.answers ∨
      ∃ request ∈ before.session.requests, request.caller = answer.1)
    (errands : after.errands = before.errands) : after.Asked := by
  refine ⟨?_, ?_, ?_⟩
  · intro request member
    rw [errands]
    exact asked.requests request (requests request member)
  · intro answer member
    rw [errands]
    rcases answers answer member with earlier | ⟨request, waited, own⟩
    · exact asked.answers answer earlier
    · obtain ⟨_, found⟩ := asked.requests request waited
      rw [← own]
      exact (List.getElem?_eq_some_iff.mp found).1
  · intro number command found
    rw [errands] at found
    obtain ⟨unanswered, unasked⟩ := asked.begun number command found
    refine ⟨?_, fun request member => unasked request (requests request member)⟩
    intro result member
    rcases answers _ member with earlier | ⟨request, waited, own⟩
    · exact unanswered result earlier
    · exact unasked request waited own

theorem asked_of_phase (phase : Phase) (asked : before.Asked) (later : phase ≠ .begun)
    (requests : after.session.requests = before.session.requests)
    (answers : after.answers = before.answers)
    (errands : after.errands = (before.setPhase number phase).errands) : after.Asked := by
  have length : after.errands.length = before.errands.length := by
    rw [errands, setPhase, List.length_modify]
  refine ⟨?_, ?_, ?_⟩
  · intro request member
    rw [requests] at member
    obtain ⟨_, found⟩ := asked.requests request member
    rw [errands, set_phase_found, found, Option.map_some]
    split <;> exact ⟨_, rfl⟩
  · rw [answers, length]
    exact asked.answers
  · intro other command found
    rw [errands] at found
    rcases set_phase_cases found with ⟨same, _⟩ | there
    · exact absurd same.symm later
    · rw [answers, requests]
      exact asked.begun other command there

theorem ask_asked {command : Command} (asked : junction.Asked)
    (found : junction.errands[number]? = some ⟨command, .begun⟩) :
    (junction.ask number command).Asked := by
  have phased : (junction.setPhase number .asked).Asked :=
    asked_of_phase .asked asked nofun rfl rfl rfl
  have there : (junction.setPhase number .asked).errands[number]? = some ⟨command, .asked⟩ := by
    rw [set_phase_found, found, Option.map_some, if_pos rfl]
  have bound := (List.getElem?_eq_some_iff.mp there).1
  have other : ∀ another next, (junction.setPhase number .asked).errands[another]? =
      some ⟨next, .begun⟩ → number ≠ another := by
    rintro another next begun rfl
    rw [there] at begun
    cases begun
  unfold ask
  split
  · refine ⟨phased.requests, ?_, ?_⟩
    · intro answer member
      rcases List.mem_append.mp member with earlier | new
      · exact phased.answers answer earlier
      · rw [List.mem_singleton.mp new]
        exact bound
    · intro another next begun
      obtain ⟨unanswered, unasked⟩ := phased.begun another next begun
      refine ⟨?_, unasked⟩
      intro result member
      rcases List.mem_append.mp member with earlier | new
      · exact unanswered result earlier
      · cases List.mem_singleton.mp new
        exact other number next begun rfl
  · next session handed =>
    rw [ask_handed handed]
    refine ⟨?_, phased.answers, ?_⟩
    · intro request member
      rcases List.mem_append.mp member with earlier | new
      · exact phased.requests request earlier
      · rw [List.mem_singleton.mp new]
        exact ⟨.asked, there⟩
    · intro another next begun
      obtain ⟨unanswered, unasked⟩ := phased.begun another next begun
      refine ⟨unanswered, ?_⟩
      intro request member
      rcases List.mem_append.mp member with earlier | new
      · exact unasked request earlier
      · rw [List.mem_singleton.mp new]
        exact other another next begun

theorem begin_asked (command : Command) (capacity : Nat) (asked : junction.Asked) :
    (junction.begin command capacity).Asked := by
  have old : ∀ {other errand}, junction.errands[other]? = some errand →
      (junction.begin command capacity).errands[other]? = some errand := fun found =>
    (List.getElem?_append_left (List.getElem?_eq_some_iff.mp found).1).trans found
  refine ⟨?_, ?_, ?_⟩
  · intro request member
    obtain ⟨phase, found⟩ := asked.requests request member
    exact ⟨phase, old found⟩
  · intro answer member
    have earlier := asked.answers answer member
    simp only [begin, List.length_append]
    omega
  · intro other next found
    by_cases earlier : other < junction.errands.length
    · exact asked.begun other next ((List.getElem?_append_left earlier).symm.trans found)
    · -- The number is new, so nothing was said to it or asked for it.
      constructor
      · intro result member
        exact absurd (asked.answers _ member) earlier
      · intro request member same
        obtain ⟨_, there⟩ := asked.requests request member
        rw [same] at there
        exact absurd (List.getElem?_eq_some_iff.mp there).1 earlier

/-- A turn answers the call that is served, and refuses those that will not be. -/
theorem take_answers {stamp : Message.Stamp} {input : Input Nat} {session : Session Nat}
    {answer : Nat × Except SessionError Unit}
    (member : answer ∈ (junction.take stamp input session).answers) :
    answer ∈ junction.answers ∨
      (∃ request, input = .request request ∧ answer = (request.caller, .ok ())) ∨
      ∃ request ∈ session.requests, answer = (request.caller, .error .closed) := by
  rcases List.mem_append.mp member with rest | refused
  · rcases List.mem_append.mp rest with earlier | served
    · exact .inl earlier
    · obtain ⟨number, given, rfl⟩ := List.mem_map.mp served
      cases input with
      | request request =>
          cases List.mem_singleton.mp given
          exact .inr (.inl ⟨request, rfl, rfl⟩)
      | outcome action => simp [Session.take, Ledger.apply_turn] at given
      | event event => simp [Session.take, Ledger.apply_turn] at given
      | silence => cases given
  · obtain ⟨number, given, rfl⟩ := List.mem_map.mp refused
    cases input with
    | request asked =>
        obtain ⟨caller, command⟩ := asked
        cases command with
        | dispatch action => simp [Session.take, perform, Ledger.apply_turn] at given
        | attach queue => cases given
        | detach => cases given
        | shutdown =>
            obtain ⟨request, waited, rfl⟩ := List.mem_map.mp given
            exact .inr (.inr ⟨request, waited, rfl⟩)
    | outcome action => simp [Session.take, Ledger.apply_turn] at given
    | event event => simp [Session.take, Ledger.apply_turn] at given
    | silence => cases given

theorem step_asked (step : Step before incident after) (asked : before.Asked) : after.Asked := by
  cases step with
  | begin command capacity made => exact begin_asked command capacity asked
  | ask found => exact ask_asked asked found
  | @giveBack _ _ result found answered =>
      exact asked_of_phase (.returned result) asked (by rintro ⟨⟩) rfl rfl rfl
  | abandon found waiting => exact asked_of_phase .abandoned asked (by rintro ⟨⟩) rfl rfl rfl
  | take stamp offers next =>
      obtain ⟨first, rest⟩ := next_requests next
      refine asked_of_same asked ?_ ?_ rfl
      · exact fun request member => rest request (take_requests stamp _ _ request member)
      · intro answer member
        rcases take_answers member with earlier | ⟨request, given, rfl⟩ | ⟨request, waited, rfl⟩
        · exact .inl earlier
        · exact .inr ⟨request, first request given, rfl⟩
        · exact .inr ⟨request, rest request waited, rfl⟩
  | report action =>
      refine asked_of_same asked ?_ (fun _ => .inl) rfl
      obtain ⟨outcomes, same⟩ := report_outcomes action before.session
      rw [same]
      exact fun _ => id
  | desert idle =>
      exact asked_of_same asked (fun _ member => absurd member List.not_mem_nil) (fun _ => .inl) rfl
  | move happening foreign step => exact asked_of_same asked (fun _ => id) (fun _ => .inl) rfl
  | pick text free alive live listening read handler =>
      exact asked_of_same asked (fun _ => id) (fun _ => .inl) rfl
  | hand handing => exact asked_of_same asked (fun _ => id) (fun _ => .inl) rfl

/-! What the session listened to. -/

/-- The queue is empty, and its reader has left. -/
def Closed (queue : Nat) (junction : Junction) : Prop :=
  ∃ channel, junction.dispatcher.chat? queue = some channel ∧ channel.items = [] ∧
    channel.receiving = false

/-- The queue is empty, and its reader has left or nobody can send to it. -/
def Spent (queue : Nat) (junction : Junction) : Prop :=
  ∃ channel, junction.dispatcher.chat? queue = some channel ∧
    channel.Spent (junction.Sends queue)

theorem closed_spent (closed : junction.Closed queue) : junction.Spent queue := by
  obtain ⟨channel, found, empty, left⟩ := closed
  exact ⟨channel, found, empty, .inl left⟩

theorem step_closed (step : Step before incident after) (closed : before.Closed queue) :
    after.Closed queue := by
  obtain ⟨channel, found, empty, left⟩ := closed
  obtain ⟨next, there, becomes⟩ := step_becomes step found
  obtain ⟨still, gone⟩ := Channel.becomes_spent becomes ⟨empty, .inl left⟩
  exact ⟨next, there, still, gone left⟩

/-- A queue that was made for the session stays spent until a call puts its sender in place. -/
theorem step_spent (step : Step before incident after) (offered : before.Offered queue)
    (spent : before.Spent queue) :
    after.Spent queue ∨
      ∃ number, incident = .returned number (.ok ()) ∧ (number, .ok ()) ∈ before.answers ∧
        before.errands[number]? = some ⟨.attach queue, .asked⟩ := by
  obtain ⟨channel, found, empty, still⟩ := spent
  obtain ⟨next, there, becomes⟩ := step_becomes step found
  obtain ⟨emptied, gone⟩ := Channel.becomes_spent becomes ⟨empty, still⟩
  rcases still with left | unsent
  · exact .inl ⟨next, there, emptied, .inl (gone left)⟩
  · by_cases sends : after.Sends queue
    · rcases step_sends step sends with earlier | placed | ⟨foreign, _⟩
      · exact absurd earlier unsent
      · exact .inr placed
      · exact absurd offered foreign
    · exact .inl ⟨next, there, emptied, .inr sends⟩

/-- What is asked to be attached is listened to or spent, and once the session has agreed to it, it
is listened to or closed until its sender is put in place. -/
structure Fenced (junction : Junction) : Prop where
  there : ∀ queue, junction.Offered queue ∨ junction.Sends queue →
    queue < junction.dispatcher.chats.length
  offered : ∀ queue, junction.Offered queue →
    junction.session.events = some queue ∨ junction.Spent queue
  granted : ∀ number queue, junction.errands[number]? = some ⟨.attach queue, .asked⟩ →
    (number, .ok ()) ∈ junction.answers →
      junction.session.events = some queue ∨ junction.Closed queue

theorem step_longer (step : Step before incident after)
    (bound : queue < before.dispatcher.chats.length) :
    queue < after.dispatcher.chats.length := by
  obtain ⟨_, there, _⟩ := step_becomes step (List.getElem?_eq_getElem bound)
  exact (List.getElem?_eq_some_iff.mp there).1

/-- A queue is made for the session as its call begins. -/
theorem offered_cases (step : Step before incident after) (offered : after.Offered queue) :
    before.Offered queue ∨
      (queue = before.dispatcher.chats.length ∧ ∃ capacity,
        after = before.begin (.attach queue) capacity) := by
  have set : ∀ number phase, (before.setPhase number phase).Offered queue →
      before.Offered queue := by
    intro number phase offered
    obtain ⟨other, later, found⟩ := offered_iff.mp offered
    rcases set_phase_cases found with ⟨_, former, there⟩ | there
    · exact offered_iff.mpr ⟨other, former, there⟩
    · exact offered_iff.mpr ⟨other, later, there⟩
  cases step with
  | begin command capacity made =>
      obtain ⟨errand, member, same⟩ := offered
      rcases List.mem_append.mp member with earlier | new
      · exact .inl ⟨errand, earlier, same⟩
      · rw [List.mem_singleton.mp new] at same
        obtain rfl : command = .attach queue := same
        exact .inr ⟨made queue rfl, capacity, rfl⟩
  | @ask number command found =>
      obtain ⟨requests, answers, asked⟩ := ask_asks number command before
      rw [asked] at offered
      exact .inl (set _ _ offered)
  | giveBack found answered => exact .inl (set _ _ offered)
  | abandon found waiting => exact .inl (set _ _ offered)
  | _ => exact .inl offered

theorem step_there (step : Step before incident after) (fenced : before.Fenced)
    (known : after.Offered queue ∨ after.Sends queue) :
    queue < after.dispatcher.chats.length := by
  rcases known with offered | sends
  · rcases offered_cases step offered with earlier | ⟨rfl, capacity, rfl⟩
    · exact step_longer step (fenced.there queue (.inl earlier))
    · simp [begin, Dispatcher.addChat]
  · refine step_longer step ?_
    rcases step_sends step sends with earlier | ⟨number, _, _, found⟩ | ⟨_, bound⟩
    · exact fenced.there queue (.inr earlier)
    · exact fenced.there queue (.inl ⟨_, List.mem_of_getElem? found, rfl⟩)
    · exact bound

/-- A call that waits for its answer did so before, or has just asked. -/
theorem waiting_cases {command : Command} (step : Step before incident after)
    (found : after.errands[number]? = some ⟨command, .asked⟩) :
    before.errands[number]? = some ⟨command, .asked⟩ ∨
      (before.errands[number]? = some ⟨command, .begun⟩ ∧
        after = before.ask number command) := by
  have set : ∀ {other : Nat} (phase : Phase), phase ≠ .asked →
      (before.setPhase other phase).errands[number]? = some ⟨command, .asked⟩ →
        before.errands[number]? = some ⟨command, .asked⟩ := by
    intro other phase later found
    rcases set_phase_cases found with ⟨same, _⟩ | there
    · exact absurd same.symm later
    · exact there
  cases step with
  | begin next capacity made =>
      by_cases earlier : number < before.errands.length
      · exact .inl ((List.getElem?_append_left earlier).symm.trans found)
      · have last := (List.getElem?_append_right (Nat.le_of_not_lt earlier)).symm.trans found
        cases List.mem_singleton.mp (List.mem_of_getElem? last)
  | @ask other next there =>
      obtain ⟨requests, answers, asked⟩ := ask_asks other next before
      have phased : (before.setPhase other .asked).errands[number]? =
          some ⟨command, .asked⟩ := by
        rw [asked] at found
        exact found
      rw [set_phase_found] at phased
      by_cases own : other = number
      · subst own
        rw [there, Option.map_some, if_pos rfl] at phased
        obtain rfl := congrArg Errand.command (Option.some.inj phased)
        exact .inr ⟨there, rfl⟩
      · simp only [if_neg own, Option.map_id'] at phased
        exact .inl phased
  | @giveBack _ _ result there answered => exact .inl (set (.returned result) nofun found)
  | abandon there waiting => exact .inl (set .abandoned nofun found)
  | _ => exact .inl found

/-- Where the session listens after a turn. -/
inductive Listens (input : Input Nat) (session : Session Nat) (turn : Turn Nat) : Prop where
  | same (events : turn.session.events = session.events)
      (other : ∀ number queue, input ≠ .request ⟨number, .attach queue⟩)
  | left (left : turn.left = session.events)
      (attached : ∀ number queue, input = .request ⟨number, .attach queue⟩ →
        turn.session.events = some queue)
  | ended (silence : input = .silence) (events : turn.session.events = none)

theorem take_listens (stamp : Message.Stamp) (input : Input Nat) (session : Session Nat) :
    Listens input session (session.take stamp input) := by
  cases input with
  | request asked =>
      obtain ⟨caller, command⟩ := asked
      cases command with
      | dispatch action =>
          refine .same ?_ (by rintro _ _ ⟨⟩)
          simp only [Session.take, perform, apply_session]
      | attach queue =>
          refine .left rfl ?_
          rintro _ _ ⟨⟩
          rfl
      | detach => exact .left rfl (by rintro _ _ ⟨⟩)
      | shutdown => exact .left rfl (by rintro _ _ ⟨⟩)
  | outcome action =>
      refine .same ?_ (by rintro _ _ ⟨⟩)
      simp only [Session.take, apply_session]
  | event event =>
      refine .same ?_ (by rintro _ _ ⟨⟩)
      simp only [Session.take, apply_session]
  | silence => exact .ended rfl rfl

theorem next_listens {offer : Offer} {input : Input Nat} {session rest : Session Nat}
    (next : session.next? offer = some (input, rest)) :
    rest.events = session.events ∧ rest.published = session.published ∧
      (input = .silence → offer = .ended) ∧
      ∀ event, input = .event event → offer = .event event := by
  simp only [next?, (next_frame next).1, Bool.false_eq_true, if_false] at next
  split at next
  · cases next
    refine ⟨rfl, rfl, ?_, ?_⟩
    · rintro ⟨⟩
    · rintro _ ⟨⟩
  · cases next
    refine ⟨rfl, rfl, ?_, ?_⟩
    · rintro ⟨⟩
    · rintro _ ⟨⟩
  · next event idle none =>
    cases next
    refine ⟨rfl, rfl, ?_, ?_⟩
    · rintro ⟨⟩
    · rintro _ ⟨⟩
      rfl
  · cases next
    refine ⟨rfl, rfl, fun _ => rfl, ?_⟩
    rintro _ ⟨⟩
  · cases next

/-- The queue that the session left is closed. -/
theorem left_closed {stamp : Message.Stamp} {input : Input Nat} {session : Session Nat}
    (bound : queue < junction.dispatcher.chats.length)
    (left : (session.take stamp input).left = some queue) :
    (junction.take stamp input session).Closed queue := by
  have found : junction.dispatcher.chat? queue = some _ := List.getElem?_eq_getElem bound
  obtain ⟨next, there, _, _, gone⟩ := take_found stamp input session found
  obtain ⟨empty, closed⟩ := gone left
  exact ⟨next, there, empty, closed⟩

theorem desert_closed (bound : queue < junction.dispatcher.chats.length)
    (left : junction.session.events = some queue) : junction.desert.Closed queue := by
  have found : junction.dispatcher.chat? queue = some _ := List.getElem?_eq_getElem bound
  have there : junction.desert.dispatcher.chat? queue = _ := on_chat_found found
  rw [if_pos left] at there
  exact ⟨_, there, rfl, rfl⟩

/-- Where the session listens after a step. -/
theorem step_listens (step : Step before incident after) :
    after.session.events = before.session.events ∨
      (∃ stamp input session offer, incident = .took stamp input ∧ before.Offers offer ∧
        before.session.next? offer = some (input, session) ∧
        after = before.take stamp input session) ∨
      after = before.desert := by
  cases step with
  | @ask number command found =>
      left
      obtain ⟨requests, answers, asked⟩ := ask_asks number command before
      rw [asked]
  | take stamp offers next => exact .inr (.inl ⟨stamp, _, _, _, rfl, offers, next, rfl⟩)
  | report action =>
      left
      obtain ⟨outcomes, same⟩ := report_outcomes action before.session
      rw [same]
  | desert idle => exact .inr (.inr rfl)
  | _ => exact .inl rfl

/-- A queue that is listened to is left by a turn, by the last handle, or because it ended. -/
theorem step_listened (step : Step before incident after)
    (bound : queue < before.dispatcher.chats.length)
    (listening : before.session.events = some queue) :
    after.session.events = some queue ∨ after.Closed queue ∨
      (before.Offers .ended ∧ ∃ stamp, incident = .took stamp .silence) := by
  rcases step_listens step with
    same | ⟨stamp, input, session, offer, rfl, offers, next, rfl⟩ | rfl
  · exact .inl (same.trans listening)
  · obtain ⟨events, _, ended, _⟩ := next_listens next
    cases take_listens stamp input session with
    | same same other => exact .inl (same.trans (events.trans listening))
    | left left attached =>
        exact .inr (.inl (left_closed bound (left.trans (events.trans listening))))
    | ended silence gone =>
        obtain rfl := ended silence
        subst silence
        exact .inr (.inr ⟨offers, stamp, rfl⟩)
  · exact .inr (.inl (desert_closed bound listening))

/-- A queue that was known before is listened to or spent after a step. -/
theorem step_known (step : Step before incident after) (fenced : before.Fenced)
    (offered : before.Offered queue) :
    after.session.events = some queue ∨ after.Spent queue := by
  have bound := fenced.there queue (.inl offered)
  rcases fenced.offered queue offered with listening | spent
  · rcases step_listened step bound listening with still | closed | ⟨offers, stamp, rfl⟩
    · exact .inl still
    · exact .inr (closed_spent closed)
    · obtain ⟨place, channel, there, found, empty, unsent, _⟩ := offers
      obtain rfl := Option.some.inj (there.symm.trans listening)
      have spent : before.Spent place := ⟨channel, found, empty, .inr unsent⟩
      rcases step_spent step offered spent with still | ⟨_, taken, _⟩
      · exact .inr still
      · cases taken
  · rcases step_spent step offered spent with still | ⟨number, rfl, answered, found⟩
    · exact .inr still
    · have same : after.session.events = before.session.events := by
        cases step
        rfl
      rcases fenced.granted number queue found answered with listening | closed
      · exact .inl (same.trans listening)
      · exact .inr (closed_spent (step_closed step closed))

/-- A call is agreed to by a turn that serves it. -/
theorem granted_cases (step : Step before incident after)
    (granted : (number, .ok ()) ∈ after.answers) :
    (number, .ok ()) ∈ before.answers ∨
      ∃ stamp command session offer, incident = .took stamp (.request ⟨number, command⟩) ∧
        before.Offers offer ∧
        before.session.next? offer = some (.request ⟨number, command⟩, session) ∧
        after = before.take stamp (.request ⟨number, command⟩) session := by
  cases step with
  | @ask other command found =>
      left
      unfold ask at granted
      split at granted
      · rcases List.mem_append.mp granted with earlier | new
        · exact earlier
        · cases List.mem_singleton.mp new
      · exact granted
  | take stamp offers next =>
      rcases take_answers granted with earlier | ⟨⟨caller, command⟩, rfl, same⟩ | ⟨_, _, same⟩
      · exact .inl earlier
      · cases same
        exact .inr ⟨stamp, command, _, _, rfl, offers, next, rfl⟩
      · cases same
  | _ => exact .inl granted

theorem step_granted (step : Step before incident after) (asked : before.Asked)
    (fenced : before.Fenced)
    (found : after.errands[number]? = some ⟨.attach queue, .asked⟩)
    (granted : (number, .ok ()) ∈ after.answers) :
    after.session.events = some queue ∨ after.Closed queue := by
  rcases granted_cases step granted with earlier | ⟨stamp, command, session, offer, _, _, next, rfl⟩
  · -- The call was agreed to before, so it has the sender, and its queue cannot have ended.
    have waited : before.errands[number]? = some ⟨.attach queue, .asked⟩ := by
      rcases waiting_cases step found with waited | ⟨begun, _⟩
      · exact waited
      · exact absurd earlier ((asked.begun number _ begun).1 _)
    have member := List.mem_of_getElem? waited
    have bound := fenced.there queue (.inl ⟨_, member, rfl⟩)
    rcases fenced.granted number queue waited earlier with listening | closed
    · rcases step_listened step bound listening with still | closed | ⟨offers, _⟩
      · exact .inl still
      · exact .inr closed
      · obtain ⟨place, _, there, _, _, _, unkept⟩ := offers
        obtain rfl := Option.some.inj (there.symm.trans listening)
        exact absurd ⟨_, member, rfl, .inr rfl⟩ unkept
    · exact .inr (step_closed step closed)
  · have waited := (next_requests next).1 _ rfl
    obtain ⟨phase, there⟩ := asked.requests _ waited
    obtain ⟨later, kept⟩ := step_command step there
    obtain rfl : command = .attach queue :=
      congrArg Errand.command (Option.some.inj (kept.symm.trans found))
    left
    cases take_listens stamp (.request ⟨number, .attach queue⟩) session with
    | same same other => exact absurd rfl (other number queue)
    | left left attached => exact attached number queue rfl
    | ended silence gone => cases silence

theorem step_fenced (step : Step before incident after) (asked : before.Asked)
    (fenced : before.Fenced) : after.Fenced := by
  refine ⟨fun queue => step_there step fenced, ?_,
    fun number queue => step_granted step asked fenced⟩
  intro queue offered
  rcases offered_cases step offered with earlier | ⟨rfl, capacity, rfl⟩
  · exact step_known step fenced earlier
  · -- A new queue is empty, and nobody sends to it yet.
    right
    refine ⟨.new capacity, List.getElem?_concat_length, rfl, .inr ?_⟩
    intro sends
    have bound := fenced.there _ (.inr sends)
    exact absurd bound (Nat.lt_irrefl _)

variable {settings : Stream.Settings} {chat changes notices : Option Nat}

theorem run_fenced (run : Run (.new settings chat changes notices) incidents junction) :
    junction.Asked ∧ junction.Fenced := by
  induction run with
  | start =>
      refine ⟨⟨nofun, nofun, nofun⟩, ?_, ?_, nofun⟩
      · rintro queue (⟨_, member, _⟩ | sends)
        · cases member
        · rcases sends with sending | ⟨_, handing⟩
          · rw [Dispatcher.chat_sending_iff] at sending
            obtain ⟨capacity, given, rfl⟩ := Option.map_eq_some_iff.mp (sending.resolve_right nofun)
            rw [given]
            exact Nat.one_pos
          · cases handing
      · rintro queue ⟨_, member, _⟩
        cases member
  | next run step induction =>
      exact ⟨step_asked step induction.1, step_fenced step induction.1 induction.2⟩

end Junction

end LiveChat.Session
