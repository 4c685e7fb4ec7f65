import LiveChat.Proofs.Conversation.Places
import LiveChat.Proofs.Session.Runs

/-!
What a session has sent, and what becomes of it. Submissions may be answered in any order, and the
messages they stand for may be gone by then. Each answer still finds its own message, if anything,
because no two submissions have the same local identifier and the server gives none of them.
-/

set_option autoImplicit false

namespace LiveChat.Session

open Conversation (Action Message Place State Submission)

/-- A course with the place of each submission's message, and the answers in their order. -/
structure Exchange (Caller : Type) where
  course : Course Caller
  places : List Place
  replies : List (Nat × Except ServiceError String)

namespace Exchange

variable {Caller : Type}

def new : Exchange Caller := { course := .new, places := [], replies := [] }

def state (exchange : Exchange Caller) : State := exchange.course.session.state

def submissions (exchange : Exchange Caller) : List Submission := exchange.course.submissions

/-- The submissions whose outcomes were taken, in that order. -/
def heard (exchange : Exchange Caller) : List Nat :=
  exchange.course.taken.filterMap (·.origin)

def answer (number : Nat) (submission : Submission) (reply : Except ServiceError String)
    (exchange : Exchange Caller) : Exchange Caller :=
  { exchange with
    course := exchange.course.answer number (outcome submission reply)
    replies := exchange.replies ++ [(number, reply)] }

def take (stamp : Message.Stamp) (input : Input Caller) (session : Session Caller)
    (exchange : Exchange Caller) : Exchange Caller :=
  { exchange with
    course := exchange.course.take stamp input session
    places := exchange.places ++
      ((session.take stamp input).submission.map fun _ => exchange.state.nextPlace).toList }

/-- Sends are accepted by the server alone, and it has recorded none of our own identifiers. -/
def Proper (own : String → Prop) : Command → Prop
  | .dispatch (.sendAccepted _ _) => False
  | .dispatch (.loadHistory records) =>
      ∀ message ∈ Conversation.ofRecords records, ¬own message.id
  | _ => True

/-- The server does not give one of our own identifiers. -/
def Foreign (own : String → Prop) (reply : Except ServiceError String) : Prop :=
  ∀ serverId, reply = .ok serverId → ¬own serverId

/-- The local identifier is our own and was not given before. -/
def Fresh (own : String → Prop) (earlier : List Submission) (submission : Submission) : Prop :=
  own submission.localId ∧ submission.localId ∉ earlier.map (·.localId)

inductive Step (own : String → Prop) : Exchange Caller → Exchange Caller → Prop where
  | ask {exchange : Exchange Caller} {session : Session Caller} (caller : Caller)
      (command : Command) (proper : Proper own command)
      (handed : exchange.course.session.ask? caller command = some session) :
      Step own exchange { exchange with course := { exchange.course with session } }
  | answer {exchange : Exchange Caller} {submission : Submission} (number : Nat)
      (reply : Except ServiceError String) (foreign : Foreign own reply)
      (pending : number ∈ exchange.course.away)
      (made : exchange.submissions[number]? = some submission) :
      Step own exchange (exchange.answer number submission reply)
  | take {exchange : Exchange Caller} {session : Session Caller} {input : Input Caller}
      (offer : Offer) (stamp : Message.Stamp)
      (next : exchange.course.session.next? offer = some (input, session))
      (fresh : ∀ submission ∈ (session.take stamp input).submission,
        Fresh own exchange.submissions submission) :
      Step own exchange (exchange.take stamp input session)

inductive Reached (own : String → Prop) : Exchange Caller → Prop where
  | start : Reached own new
  | next {before after : Exchange Caller} (reached : Reached own before)
      (step : Step own before after) : Reached own after

variable {own : String → Prop} {exchange before after : Exchange Caller}

/-- An exchange goes along a course. -/
theorem reached_course (reached : exchange.Reached own) : exchange.course.Reached := by
  induction reached with
  | start => exact .start
  | next _ step induction =>
      cases step with
      | ask caller command proper handed => exact .next induction (.ask caller command handed)
      | answer number reply foreign pending made =>
          exact .next induction (.answer number reply pending made)
      | take offer stamp next fresh => exact .next induction (.take offer stamp next)

theorem reached_aligned (reached : exchange.Reached own) : exchange.course.Aligned :=
  Course.reached_aligned (reached_course reached)

/-! What was answered is heard once, as the outcome of its own submission. -/

/-- The action is the outcome of what this submission was answered with. -/
def Result (exchange : Exchange Caller) (number : Nat) (action : Action) : Prop :=
  ∃ submission reply, exchange.submissions[number]? = some submission ∧
    (number, reply) ∈ exchange.replies ∧ action = outcome submission reply

/-- What was sent is what was submitted. -/
def Makes (submissions : List Submission) (entry : Taken) : Prop :=
  ∀ number, entry.made = some number → ∃ text submission, entry.action = .send text ∧
    submissions[number]? = some submission ∧ submission.content = Text.trim text

structure Booked (own : String → Prop) (exchange : Exchange Caller) : Prop where
  proper : ∀ request ∈ exchange.course.session.requests, Proper own request.command
  foreign : ∀ answered ∈ exchange.replies, Foreign own answered.2
  waiting : exchange.course.session.stopped = false →
    List.Forall₂ exchange.Result exchange.course.waiting exchange.course.session.outcomes
  origins : ∀ entry ∈ exchange.course.taken, ∀ number, entry.origin = some number →
    exchange.Result number entry.action
  accepted : ∀ entry ∈ exchange.course.taken, ∀ localId serverId,
    entry.action = .sendAccepted localId serverId → ∃ number, entry.origin = some number
  answered : (exchange.replies.map (·.1)).Perm (exchange.course.waiting ++ exchange.heard)
  numbered : exchange.course.taken.filterMap (·.made) = List.range exchange.submissions.length
  made : ∀ entry ∈ exchange.course.taken, Makes exchange.submissions entry

theorem found_in_append {Item : Type} {earlier items : List Item} {index : Nat} {item : Item}
    (shorter : earlier <+: items) (found : earlier[index]? = some item) :
    items[index]? = some item := by
  obtain ⟨bound, rfl⟩ := List.getElem?_eq_some_iff.mp found
  exact List.prefix_iff_getElem?.mp shorter index bound

theorem result_more {number : Nat} {action : Action} {next : Exchange Caller}
    (made : exchange.submissions <+: next.submissions)
    (answered : exchange.replies <+: next.replies) (result : exchange.Result number action) :
    next.Result number action := by
  obtain ⟨submission, reply, found, member, same⟩ := result
  exact ⟨submission, reply, found_in_append made found, answered.subset member, same⟩

theorem makes_more {entry : Taken} {earlier submissions : List Submission}
    (shorter : earlier <+: submissions) (makes : Makes earlier entry) :
    Makes submissions entry := by
  intro number made
  obtain ⟨text, submission, sent, found, same⟩ := makes number made
  exact ⟨text, submission, sent, found_in_append shorter found, same⟩

/-- A dispatched action is taken from a command that may be asked for. -/
theorem proper_of_dispatch {offer : Offer} {input : Input Caller} {session : Session Caller}
    {action : Action} (booked : exchange.Booked own)
    (next : exchange.course.session.next? offer = some (input, session))
    (given : input.action? = some action) :
    Proper own (.dispatch action) ∨ input = .outcome action ∨
      ∃ event, input = .event event ∧ action = .ofChat event := by
  cases input with
  | request request =>
      have proper := booked.proper request ((next_requests next).1 request rfl)
      obtain ⟨caller, command⟩ := request
      cases command with
      | dispatch asked =>
          cases given
          exact .inl proper
      | _ => cases given
  | outcome reported =>
      cases given
      exact .inr (.inl rfl)
  | event event =>
      cases given
      exact .inr (.inr ⟨event, rfl, rfl⟩)
  | silence => cases given

/-- An acceptance is taken as the outcome of the submission that comes next. -/
theorem next_accepted {offer : Offer} {input : Input Caller} {session : Session Caller}
    {localId serverId : String} (booked : exchange.Booked own)
    (next : exchange.course.session.next? offer = some (input, session))
    (given : input.action? = some (.sendAccepted localId serverId)) :
    ∃ number, exchange.course.origin? input = some number ∧
      exchange.Result number (.sendAccepted localId serverId) := by
  rcases proper_of_dispatch booked next given with proper | rfl | ⟨event, rfl, same⟩
  · exact absurd proper id
  · have waiting := booked.waiting (next_frame next).1
    exact (Course.next_related next waiting).1 _ rfl
  · cases event <;> cases same

/-- What the account says of a turn. -/
theorem record_cases {made : Option Nat} {input : Input Caller} {course : Course Caller}
    {entry : Taken} (member : entry ∈ (course.record made input).toList) :
    input.action? = some entry.action ∧ entry.origin = course.origin? input ∧
      entry.made = made := by
  obtain ⟨action, given, rfl⟩ := Option.map_eq_some_iff.mp (Option.mem_toList.mp member)
  exact ⟨given, rfl, rfl⟩

theorem record_made {input : Input Caller} {course : Course Caller} {made : Option Nat}
    (idle : input.action? = none → made = none) :
    (course.record made input).toList.filterMap (·.made) = made.toList := by
  cases given : input.action? with
  | none => simp [Course.record, given, idle given]
  | some action => cases made <;> simp [Course.record, given]

/-- A turn submits what is sent, if it is admitted, and nothing else. -/
theorem take_submission {input : Input Caller} {action : Action} (stamp : Message.Stamp)
    (session : Session Caller) (given : input.action? = some action) :
    (∀ text, action = .send text → (session.take stamp input).submission =
      if session.state.Admits text then some ⟨stamp.id, Text.trim text⟩ else none) ∧
    ((∀ text, action ≠ .send text) → (session.take stamp input).submission = none) := by
  rw [(take_applies stamp session given).2]
  constructor
  · rintro text rfl
    exact State.apply_send stamp text session.state
  · exact State.apply_unsent stamp session.state

theorem take_makes {input : Input Caller} {session : Session Caller} {entry : Taken}
    {submissions : List Submission} (stamp : Message.Stamp)
    (given : input.action? = some entry.action)
    (made : entry.made = (session.take stamp input).submission.map fun _ => submissions.length) :
    Makes (submissions ++ (session.take stamp input).submission.toList) entry := by
  obtain ⟨sends, others⟩ := take_submission stamp session given
  intro number same
  rw [same] at made
  by_cases sent : ∃ text, entry.action = .send text
  · obtain ⟨text, sent⟩ := sent
    rw [sends text sent] at made ⊢
    split at made
    · next admitted =>
      cases made
      refine ⟨text, ⟨stamp.id, Text.trim text⟩, sent, ?_, rfl⟩
      rw [if_pos admitted]
      exact List.getElem?_concat_length
    · cases made
  · rw [others fun text same => sent ⟨text, same⟩] at made
    cases made

theorem origin_outcome {input : Input Caller} {course : Course Caller} {number : Nat}
    (origin : course.origin? input = some number) : ∃ action, input = .outcome action := by
  cases input with
  | outcome action => exact ⟨action, rfl⟩
  | _ => cases origin

/-- What is taken as an outcome is what its submission was answered with. -/
theorem next_result {offer : Offer} {input : Input Caller} {session : Session Caller}
    {action : Action} {number : Nat} (booked : exchange.Booked own)
    (next : exchange.course.session.next? offer = some (input, session))
    (given : input.action? = some action) (origin : exchange.course.origin? input = some number) :
    exchange.Result number action := by
  obtain ⟨reported, rfl⟩ := origin_outcome origin
  cases given
  have waiting := booked.waiting (next_frame next).1
  obtain ⟨first, named, result⟩ := (Course.next_related next waiting).1 _ rfl
  obtain rfl := Option.some.inj (named.symm.trans origin)
  exact result

theorem take_heard (stamp : Message.Stamp) (input : Input Caller) (session : Session Caller)
    (exchange : Exchange Caller) :
    (exchange.take stamp input session).heard =
      exchange.heard ++ (exchange.course.origin? input).toList := by
  simp only [heard, take, Course.take, List.filterMap_append, Course.record_origin]

theorem take_state {offer : Offer} {input : Input Caller} {session : Session Caller}
    {action : Action} (stamp : Message.Stamp)
    (next : exchange.course.session.next? offer = some (input, session))
    (given : input.action? = some action) :
    (exchange.take stamp input session).state = (exchange.state.apply stamp action).1 := by
  have same : session.state = exchange.state := (next_frame next).2.2.1
  rw [← same]
  exact (take_applies stamp session given).1

theorem ask_booked {session : Session Caller} {caller : Caller} {command : Command}
    (proper : Proper own command)
    (handed : exchange.course.session.ask? caller command = some session)
    (booked : exchange.Booked own) :
    Booked own { exchange with course := { exchange.course with session } } := by
  rw [ask_handed handed]
  refine { booked with proper := ?_, waiting := booked.waiting }
  intro request member
  rcases List.mem_append.mp member with earlier | new
  · exact booked.proper request earlier
  · rw [List.mem_singleton.mp new]
    exact proper

theorem answer_booked {submission : Submission} {number : Nat}
    {reply : Except ServiceError String} (foreign : Foreign own reply)
    (made : exchange.submissions[number]? = some submission) (booked : exchange.Booked own) :
    (exchange.answer number submission reply).Booked own := by
  have more : ∀ {other action}, exchange.Result other action →
      (exchange.answer number submission reply).Result other action :=
    result_more (List.prefix_refl _) (List.prefix_append _ _)
  refine ⟨?_, ?_, ?_, ?_, booked.accepted, ?_, booked.numbered, booked.made⟩
  · intro request member
    apply booked.proper request
    simp only [answer, Course.answer, report] at member
    split at member <;> exact member
  · intro answered member
    rcases List.mem_append.mp member with earlier | new
    · exact booked.foreign answered earlier
    · rw [List.mem_singleton.mp new]
      exact foreign
  · intro alive
    have living : exchange.course.session.stopped = false := by
      simp only [answer, Course.answer, report] at alive
      split at alive <;> exact alive
    have waiting := (booked.waiting living).imp fun _ _ => more
    simp only [answer, Course.answer, report, living, Bool.false_eq_true, if_false]
    exact List.rel_append waiting
      (.cons ⟨submission, reply, made, by simp [answer], rfl⟩ .nil)
  · exact fun entry member other origin => more (booked.origins entry member other origin)
  · have answered := booked.answered
    simp only [answer, Course.answer, heard, List.map_append, List.map_cons, List.map_nil,
      List.perm_iff_count, List.count_append] at answered ⊢
    intro item
    have counted := answered item
    omega

theorem take_booked {offer : Offer} {input : Input Caller} {session : Session Caller}
    (stamp : Message.Stamp)
    (next : exchange.course.session.next? offer = some (input, session))
    (booked : exchange.Booked own) : (exchange.take stamp input session).Booked own := by
  have waiting := booked.waiting (next_frame next).1
  have more : ∀ {other action}, exchange.Result other action →
      (exchange.take stamp input session).Result other action :=
    result_more (List.prefix_append _ _) (List.prefix_refl _)
  refine ⟨?_, booked.foreign, ?_, ?_, ?_, ?_, ?_, ?_⟩
  · intro request member
    exact booked.proper request ((next_requests next).2 request
      (take_requests stamp input session request member))
  · intro lasting
    rcases take_outcomes stamp input session with stopped | outcomes
    · exact absurd (stopped.symm.trans lasting) nofun
    · simp only [take, Course.take, outcomes]
      exact (Course.next_related next waiting).2.imp fun _ _ => more
  · intro entry member number origin
    rcases List.mem_append.mp member with earlier | new
    · exact more (booked.origins entry earlier number origin)
    · obtain ⟨given, same, _⟩ := record_cases new
      exact more (next_result booked next given (same.symm.trans origin))
  · intro entry member localId serverId accepted
    rcases List.mem_append.mp member with earlier | new
    · exact booked.accepted entry earlier localId serverId accepted
    · obtain ⟨given, same, _⟩ := record_cases new
      rw [accepted] at given
      obtain ⟨number, origin, _⟩ := next_accepted booked next given
      exact ⟨number, same.trans origin⟩
  · have answered := booked.answered
    rw [← Course.waiting_after_origin input exchange.course] at answered
    rw [take_heard]
    simp only [take, Course.take, List.perm_iff_count, List.count_append] at answered ⊢
    intro item
    have counted := answered item
    omega
  · have made : input.action? = none →
        (session.take stamp input).submission.map (fun _ => exchange.course.submissions.length) =
          none :=
      fun idle => by rw [(take_leaves stamp session idle).2, Option.map_none]
    simp only [take, Course.take, submissions, List.filterMap_append, Course.numbers_after]
    rw [record_made made, booked.numbered]
    rfl
  · intro entry member
    rcases List.mem_append.mp member with earlier | new
    · exact makes_more (List.prefix_append _ _) (booked.made entry earlier)
    · obtain ⟨given, _, made⟩ := record_cases new
      exact take_makes stamp given made

theorem reached_booked (reached : exchange.Reached own) : exchange.Booked own := by
  induction reached with
  | start => exact ⟨nofun, nofun, fun _ => .nil, nofun, nofun, .refl _, rfl, nofun⟩
  | next _ step induction =>
      cases step with
      | ask caller command proper handed => exact ask_booked proper handed induction
      | answer number reply foreign pending made => exact answer_booked foreign made induction
      | take offer stamp next fresh => exact take_booked stamp next induction

/-- The outcomes that were taken are those of different submissions. -/
theorem heard_nodup (aligned : exchange.course.Aligned) : exchange.heard.Nodup := by
  have every := aligned.accounted.nodup_iff.mpr List.nodup_range
  exact (List.nodup_append.mp every).2.1

/-- What is taken next has not been taken before. -/
theorem next_unheard {input : Input Caller} {number : Nat} (aligned : exchange.course.Aligned)
    (origin : exchange.course.origin? input = some number) : number ∉ exchange.heard := by
  have every := aligned.accounted.nodup_iff.mpr List.nodup_range
  rw [← Course.waiting_after_origin input, origin] at every
  intro member
  have apart := (List.nodup_append.mp every).2.2
  exact apart number (by simp) number member rfl

theorem heard_made {number : Nat} (aligned : exchange.course.Aligned)
    (heard : number ∈ exchange.heard) : number < exchange.submissions.length := by
  have member := aligned.accounted.subset (List.mem_append_right _ heard)
  exact List.mem_range.mp member

theorem origin_made {input : Input Caller} {number : Nat} (aligned : exchange.course.Aligned)
    (origin : exchange.course.origin? input = some number) :
    number < exchange.submissions.length := by
  have waits : number ∈ exchange.course.waiting := by
    rw [← Course.waiting_after_origin input exchange.course, origin]
    simp
  have member := aligned.accounted.subset
    (List.mem_append_left _ (List.mem_append_right _ waits))
  exact List.mem_range.mp member

end Exchange

end LiveChat.Session
