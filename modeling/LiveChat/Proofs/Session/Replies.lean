import LiveChat.Proofs.Session.Exchanges
import LiveChat.Proofs.Session.InFlight

/-!
The messages of what was sent. Each is held at its own place or was dropped, and is called by its
local identifier until its submission is accepted. An acceptance therefore finds its own message,
or nothing.
-/

set_option autoImplicit false

namespace LiveChat.Session

open Conversation (Action Message Place State Submission)

namespace Exchange

variable {Caller : Type} {own : String → Prop} {exchange : Exchange Caller}

/-- The identifier that a submission's message has after this answer. -/
def nameAfter (submission : Submission) : Except ServiceError String → String
  | .ok serverId => State.adopted submission.localId serverId
  | .error _ => submission.localId

/-- What a submission's message is called, if it is still held. -/
def Named (exchange : Exchange Caller) (number : Nat) (submission : Submission) (id : String) :
    Prop :=
  (number ∉ exchange.heard ∧ id = submission.localId) ∨
    ∃ reply, (number, reply) ∈ exchange.replies ∧ number ∈ exchange.heard ∧
      id = nameAfter submission reply

/-- The place is that of the submission's message. -/
def Put (exchange : Exchange Caller) (number : Nat) (submission : Submission) (place : Place) :
    Prop :=
  exchange.submissions[number]? = some submission ∧ exchange.places[number]? = some place

structure Posted (own : String → Prop) (exchange : Exchange Caller) : Prop where
  orderly : exchange.state.Orderly
  bounded : exchange.state.Bounded
  counted : exchange.state.Counted
  count : exchange.places.length = exchange.submissions.length
  given : ∀ place ∈ exchange.places, exchange.state.Given place
  ours : ∀ submission ∈ exchange.submissions, own submission.localId
  distinct : (exchange.submissions.map (·.localId)).Nodup
  /-- What is held at a submission's place is its message. -/
  held : ∀ number submission place message, exchange.Put number submission place →
    exchange.state.Holds place message →
      message.role = .user ∧ message.content = submission.content ∧
        exchange.Named number submission message.id
  /-- Our own identifiers are held at the places of their submissions only. -/
  sent : ∀ place message, exchange.state.Holds place message → message.role = .user →
    own message.id →
      ∃ number submission, exchange.Put number submission place ∧
        submission.localId = message.id

theorem posted_of_same {next : Exchange Caller} (posted : exchange.Posted own)
    (state : next.state = exchange.state) (submissions : next.submissions = exchange.submissions)
    (places : next.places = exchange.places) (heard : next.heard = exchange.heard)
    (replies : exchange.replies <+: next.replies) : next.Posted own := by
  obtain ⟨orderly, bounded, counted, count, given, ours, distinct, held, sent⟩ := posted
  have put : ∀ {number submission place},
      next.Put number submission place ↔ exchange.Put number submission place := by
    simp only [Put, submissions, places, implies_true]
  rw [← state] at orderly bounded counted given held sent
  rw [← submissions] at count ours distinct
  rw [← places] at count given
  refine ⟨orderly, bounded, counted, count, given, ours, distinct, ?_, ?_⟩
  · intro number submission place message placed holds
    obtain ⟨user, content, named⟩ := held number submission place message (put.mp placed) holds
    refine ⟨user, content, ?_⟩
    rw [Named, heard]
    exact named.imp_right fun ⟨reply, member, rest⟩ => ⟨reply, replies.subset member, rest⟩
  · intro place message holds user own
    obtain ⟨number, submission, placed, same⟩ := sent place message holds user own
    exact ⟨number, submission, put.mpr placed, same⟩

theorem same_submission {number other : Nat} {submission another : Submission}
    (posted : exchange.Posted own) (found : exchange.submissions[number]? = some submission)
    (foundOther : exchange.submissions[other]? = some another)
    (same : submission.localId = another.localId) : number = other := by
  have inside : number < (exchange.submissions.map (·.localId)).length := by
    rw [List.length_map]
    exact (List.getElem?_eq_some_iff.mp found).1
  refine (List.getElem?_inj inside posted.distinct).mp ?_
  rw [List.getElem?_map, List.getElem?_map, found, foundOther, Option.map_some, Option.map_some,
    same]

/-- Two messages with the identifier would have been put at the same place. -/
theorem own_level {localId : String} {earlier earlier' later later' : List Message}
    {message message' : Message} (posted : exchange.Posted own) (ours : own localId)
    (split : exchange.state.messages = earlier ++ message :: later)
    (split' : exchange.state.messages = earlier' ++ message' :: later')
    (first : message.role = .user ∧ message.id = localId)
    (second : message'.role = .user ∧ message'.id = localId) :
    later.length = later'.length := by
  have held := State.holds_of_split posted.counted split
  have held' := State.holds_of_split posted.counted split'
  obtain ⟨number, submission, ⟨found, placed⟩, named⟩ :=
    posted.sent _ _ held first.1 (by rwa [first.2])
  obtain ⟨other, another, ⟨foundOther, placedOther⟩, namedOther⟩ :=
    posted.sent _ _ held' second.1 (by rwa [second.2])
  have same := same_submission posted found foundOther
    (by rw [named, namedOther, first.2, second.2])
  subst same
  have places := Option.some.inj (placed.symm.trans placedOther)
  have counted := posted.counted
  have length := congrArg List.length split
  have length' := congrArg List.length split'
  simp only [State.Counted, List.length_append, List.length_cons, Place.mk.injEq]
    at counted length length' places
  omega

/-- At most one message of the user has one of our own identifiers. -/
theorem own_single {localId : String} (posted : exchange.Posted own) (ours : own localId) :
    State.Lacks exchange.state.messages localId ∨
      ∃ earlier message later, exchange.state.messages = earlier ++ message :: later ∧
        message.role = .user ∧ message.id = localId ∧
        State.Lacks (earlier ++ later) localId := by
  by_cases lacks : State.Lacks exchange.state.messages localId
  · exact .inl lacks
  · right
    simp only [State.Lacks, not_forall, not_not] at lacks
    obtain ⟨message, member, user, named⟩ := lacks
    obtain ⟨earlier, later, split⟩ := List.append_of_mem member
    refine ⟨earlier, message, later, split, user, named, ?_⟩
    intro other found both
    rcases List.mem_append.mp found with before | after
    · obtain ⟨front, back, rfl⟩ := List.append_of_mem before
      have split' := split
      rw [List.append_assoc, List.cons_append] at split'
      have same := own_level posted ours split split' ⟨user, named⟩ both
      simp only [List.length_append, List.length_cons] at same
      omega
    · obtain ⟨front, back, rfl⟩ := List.append_of_mem after
      have split' := split
      rw [← List.cons_append, ← List.append_assoc] at split'
      have same := own_level posted ours split split' ⟨user, named⟩ both
      simp only [List.length_append, List.length_cons] at same
      omega

/-- The acceptance of one of our own sends changes at most the identifier of its message. -/
theorem accept_adopts {localId : String} (serverId : String) (posted : exchange.Posted own)
    (ours : own localId) :
    exchange.state.accept localId serverId =
      { exchange.state with
        messages := exchange.state.messages.map (State.adopt localId serverId) } := by
  rcases own_single posted ours with lacks | ⟨earlier, message, later, split, user, named, others⟩
  · rw [State.accept_lacking serverId lacks, State.adopt_lacking serverId lacks]
  · have before : State.Lacks earlier localId := fun other member =>
      others other (List.mem_append_left _ member)
    have after : State.Lacks later localId := fun other member =>
      others other (List.mem_append_right _ member)
    rw [State.accept_single serverId split user named after, split, List.map_append,
      List.map_cons, State.adopt_lacking serverId before, State.adopt_lacking serverId after,
      State.adopt, if_pos ⟨user, named⟩]

/-- An outcome that is taken settles the name of its own submission's message, and of no other. -/
theorem named_take {input : Input Caller} {session : Session Caller} {stamp : Message.Stamp}
    {number : Nat} {submission : Submission} {id id' : String}
    (aligned : exchange.course.Aligned) (named : exchange.Named number submission id)
    (other : exchange.course.origin? input ≠ some number → id' = id)
    (settled : exchange.course.origin? input = some number → id = submission.localId →
      ∃ reply, (number, reply) ∈ exchange.replies ∧ id' = nameAfter submission reply) :
    (exchange.take stamp input session).Named number submission id' := by
  by_cases origin : exchange.course.origin? input = some number
  · have unheard := next_unheard aligned origin
    rcases named with ⟨_, unnamed⟩ | ⟨_, _, heard, _⟩
    · obtain ⟨reply, member, same⟩ := settled origin unnamed
      refine .inr ⟨reply, member, ?_, same⟩
      rw [take_heard, origin]
      exact List.mem_append_right _ (List.mem_singleton.mpr rfl)
    · exact absurd heard unheard
  · have heard : number ∈ (exchange.take stamp input session).heard ↔ number ∈ exchange.heard := by
      rw [take_heard, List.mem_append, Option.mem_toList]
      exact or_iff_left origin
    rw [Named, heard, other origin]
    exact named

/-- A message that still has one of our own identifiers has that of its submission. -/
theorem named_own {number : Nat} {submission : Submission} {id : String}
    (booked : exchange.Booked own) (named : exchange.Named number submission id)
    (ours : own id) : id = submission.localId := by
  rcases named with ⟨_, same⟩ | ⟨reply, member, _, same⟩
  · exact same
  · have foreign := booked.foreign _ member
    cases reply with
    | error error => exact same
    | ok serverId =>
        simp only [nameAfter, State.adopted] at same
        split at same
        · rw [same] at ours
          exact absurd ours (foreign serverId rfl)
        · exact same

section

variable {offer : Offer} {input : Input Caller} {session : Session Caller} {action : Action}
  {stamp : Message.Stamp} {number : Nat} {submission : Submission} {place : Place}
  {message : Message} {middle : State} {made : Option Submission}

theorem take_change (stamp : Message.Stamp)
    (next : exchange.course.session.next? offer = some (input, session))
    (given : input.action? = some action) (orderly : exchange.state.Orderly) :
    ∃ middle, State.Change stamp action exchange.state middle
        (session.take stamp input).submission ∧
      (exchange.take stamp input session).state =
        { middle with messages := Conversation.newest middle.messages } := by
  have same : session.state = exchange.state := (next_frame next).2.2.1
  rw [(take_applies stamp session given).2, same, take_state stamp next given]
  exact State.apply_change stamp action orderly

theorem put_given (posted : exchange.Posted own) (put : exchange.Put number submission place) :
    exchange.state.Given place :=
  posted.given place (List.mem_of_getElem? put.2)

/-- A submission was there before, or is the one that is made. -/
theorem put_cases (posted : exchange.Posted own)
    (put : (exchange.take stamp input session).Put number submission place) :
    exchange.Put number submission place ∨
      ((session.take stamp input).submission = some submission ∧
        number = exchange.submissions.length ∧ place = exchange.state.nextPlace) := by
  obtain ⟨found, placed⟩ := put
  have count := posted.count
  simp only [take, Course.take, submissions] at found placed count
  by_cases earlier : number < exchange.course.submissions.length
  · rw [List.getElem?_append_left earlier] at found
    rw [List.getElem?_append_left (by omega)] at placed
    exact .inl ⟨found, placed⟩
  · rw [List.getElem?_append_right (by omega)] at found placed
    cases given : (session.take stamp input).submission with
    | none =>
        rw [given] at found
        cases found
    | some submission =>
        rw [given] at found placed
        obtain ⟨bound, same⟩ := List.getElem?_eq_some_iff.mp found
        obtain ⟨_, there⟩ := List.getElem?_eq_some_iff.mp placed
        simp only [Option.toList_some, Option.map_some, List.length_singleton,
          List.getElem_singleton] at bound same there
        exact .inr ⟨congrArg some same, by simp only [submissions]; omega, there.symm⟩

/-- A turn that accepts nothing keeps the messages of earlier submissions. -/
theorem grows_held {added : Option Message} (booked : exchange.Booked own)
    (aligned : exchange.course.Aligned) (posted : exchange.Posted own)
    (next : exchange.course.session.next? offer = some (input, session))
    (given : input.action? = some action)
    (elsewhere : ∀ localId serverId, action ≠ .sendAccepted localId serverId)
    (grows : State.Grows added exchange.state middle)
    (put : exchange.Put number submission place) (held : middle.Holds place message) :
    message.role = .user ∧ message.content = submission.content ∧
      (exchange.take stamp input session).Named number submission message.id := by
  obtain ⟨old, earlier, keeps⟩ := State.holds_grows_given grows (put_given posted put) held
  obtain ⟨user, content, named⟩ := posted.held number submission place old put earlier
  rcases keeps with rfl | ⟨other, _⟩
  · refine ⟨user, content, named_take aligned named (fun _ => rfl) ?_⟩
    intro origin same
    obtain ⟨_, reply, _, member, result⟩ := next_result booked next given origin
    cases reply with
    | ok serverId => exact absurd result (elsewhere _ _)
    | error error => exact ⟨.error error, member, same⟩
  · exact absurd user other

/-- An acceptance finds the message of its own submission. -/
theorem adopt_held {localId serverId : String} (booked : exchange.Booked own)
    (aligned : exchange.course.Aligned) (posted : exchange.Posted own)
    (next : exchange.course.session.next? offer = some (input, session))
    (given : input.action? = some (.sendAccepted localId serverId))
    (put : exchange.Put number submission place)
    (held : (exchange.state.accept localId serverId).Holds place message) :
    message.role = .user ∧ message.content = submission.content ∧
      (exchange.take stamp input session).Named number submission message.id := by
  obtain ⟨accepted, origin, another, reply, found, member, result⟩ :=
    next_accepted booked next given
  cases reply with
  | error error => cases result
  | ok answered =>
    obtain ⟨rfl, rfl⟩ := Action.sendAccepted.inj result
    have ours := posted.ours another (List.mem_of_getElem? found)
    rw [accept_adopts serverId posted ours] at held
    obtain ⟨old, earlier, rfl⟩ := State.holds_adopt held
    obtain ⟨user, content, named⟩ := posted.held number submission place old put earlier
    have role : (State.adopt another.localId serverId old).role = old.role ∧
        (State.adopt another.localId serverId old).content = old.content := by
      unfold State.adopt
      split <;> exact ⟨rfl, rfl⟩
    rw [role.1, role.2]
    refine ⟨user, content, named_take aligned named ?_ ?_⟩
    · intro different
      rw [State.adopt, if_neg]
      rintro ⟨_, same⟩
      rw [same] at named
      have own := named_own booked named ours
      exact different (origin.trans (congrArg some (same_submission posted found put.1 own)))
    · intro same unnamed
      obtain rfl := Option.some.inj (origin.symm.trans same)
      obtain rfl := Option.some.inj (found.symm.trans put.1)
      refine ⟨.ok serverId, member, ?_⟩
      rw [State.adopt, if_pos ⟨user, unnamed⟩]
      rfl

/-- An acceptance makes none of our own identifiers. -/
theorem adopt_own {localId serverId : String} (foreign : ¬own serverId)
    (ours : own (State.adopt localId serverId message).id) :
    State.adopt localId serverId message = message := by
  unfold State.adopt at ours ⊢
  split at ours
  · next both =>
    simp only [State.adopted] at ours
    split at ours
    · exact absurd ours foreign
    · next invalid => rw [if_pos both, State.adopted, if_neg invalid, ← both.2]
  · next neither => exact if_neg neither

/-- What is held at the places of submissions after a turn. -/
theorem take_held (booked : exchange.Booked own) (aligned : exchange.course.Aligned)
    (posted : exchange.Posted own)
    (next : exchange.course.session.next? offer = some (input, session))
    (given : input.action? = some action)
    (put : (exchange.take stamp input session).Put number submission place)
    (held : (exchange.take stamp input session).state.Holds place message) :
    message.role = .user ∧ message.content = submission.content ∧
      (exchange.take stamp input session).Named number submission message.id := by
  obtain ⟨middle, change, state⟩ := take_change stamp next given posted.orderly
  rw [state] at held
  have held := State.holds_newest held
  rcases put_cases posted put with earlier | ⟨made, rfl, rfl⟩
  · generalize (session.take stamp input).submission = made at change
    cases change with
    | sent text asked admitted grows =>
        subst asked
        exact grows_held booked aligned posted next given nofun grows earlier held
    | accepted localId serverId asked same =>
        subst asked same
        exact adopt_held booked aligned posted next given earlier held
    | replaced messages same loaded =>
        subst same
        have begun := held.1
        have before := put_given posted earlier
        simp only [State.replace] at begun
        rcases before with older | ⟨level, _⟩ <;> omega
    | kept added others refused elsewhere grows =>
        exact grows_held booked aligned posted next given elsewhere grows earlier held
  · rw [made] at change
    cases change with
    | sent text asked admitted grows =>
        obtain rfl := Option.some.inj (State.holds_grows_next grows held)
        refine ⟨rfl, rfl, .inl ⟨?_, rfl⟩⟩
        rw [take_heard, List.mem_append, Option.mem_toList]
        rintro (heard | origin)
        · exact absurd (heard_made aligned heard) (lt_irrefl _)
        · exact absurd (origin_made aligned origin) (lt_irrefl _)

/-- Our own identifiers are held at the places of their submissions after a turn. -/
theorem take_sent (booked : exchange.Booked own) (posted : exchange.Posted own)
    (next : exchange.course.session.next? offer = some (input, session))
    (given : input.action? = some action)
    (held : (exchange.take stamp input session).state.Holds place message)
    (user : message.role = .user) (ours : own message.id) :
    ∃ number submission, (exchange.take stamp input session).Put number submission place ∧
      submission.localId = message.id := by
  have more : ∀ {number submission}, exchange.Put number submission place →
      (exchange.take stamp input session).Put number submission place := fun put =>
    ⟨found_in_append (List.prefix_append _ _) put.1,
      found_in_append (List.prefix_append _ _) put.2⟩
  obtain ⟨middle, change, state⟩ := take_change stamp next given posted.orderly
  rw [state] at held
  have held := State.holds_newest held
  have kept : ∀ old, exchange.state.Holds place old → old.Keeps message →
      ∃ number submission, (exchange.take stamp input session).Put number submission place ∧
        submission.localId = message.id := by
    rintro old earlier (rfl | ⟨_, other⟩)
    · obtain ⟨number, submission, put, same⟩ := posted.sent place _ earlier user ours
      exact ⟨number, submission, more put, same⟩
    · exact absurd user other
  generalize made : (session.take stamp input).submission = submission at change
  cases change with
  | sent text asked admitted grows =>
      rcases State.holds_grows grows held with ⟨new, rfl⟩ | ⟨old, earlier, keeps⟩
      · obtain rfl := Option.some.inj new
        refine ⟨exchange.submissions.length, ⟨stamp.id, Text.trim text⟩, ⟨?_, ?_⟩, rfl⟩
        · simp only [take, Course.take, submissions, made, Option.toList_some]
          exact List.getElem?_concat_length
        · simp only [take, made, Option.map_some, Option.toList_some, ← posted.count]
          exact List.getElem?_concat_length
      · exact kept old earlier keeps
  | accepted localId serverId asked same =>
      subst asked same
      obtain ⟨_, _, another, reply, found, member, result⟩ := next_accepted booked next given
      cases reply with
      | error error => cases result
      | ok answered =>
        obtain ⟨rfl, rfl⟩ := Action.sendAccepted.inj result
        have mine := posted.ours another (List.mem_of_getElem? found)
        rw [accept_adopts serverId posted mine] at held
        obtain ⟨old, earlier, rfl⟩ := State.holds_adopt held
        have same := adopt_own (booked.foreign _ member serverId rfl) ours
        exact kept old earlier (.inl same)
  | replaced messages same loaded =>
      subst same
      obtain ⟨records, rfl, member⟩ := loaded message (State.holds_messages held)
      rcases proper_of_dispatch booked next given with proper | rfl | ⟨event, rfl, same⟩
      · exact absurd ours (proper message member)
      · have waiting := booked.waiting (next_frame next).1
        obtain ⟨_, _, _, reply, _, _, result⟩ := (Course.next_related next waiting).1 _ rfl
        cases reply <;> cases result
      · cases event <;> cases same
  | kept added others refused elsewhere grows =>
      rcases State.holds_grows grows held with ⟨new, rfl⟩ | ⟨old, earlier, keeps⟩
      · exact absurd user (others message new)
      · exact kept old earlier keeps

/-- The place of what is submitted is taken from then on. -/
theorem take_given (posted : exchange.Posted own)
    (next : exchange.course.session.next? offer = some (input, session))
    (given : input.action? = some action) :
    ∀ place ∈ (exchange.take stamp input session).places,
      (exchange.take stamp input session).state.Given place := by
  obtain ⟨middle, change, state⟩ := take_change stamp next given posted.orderly
  rw [state]
  intro place member
  rcases List.mem_append.mp member with earlier | new
  · exact State.given_messages _ (State.change_given change (posted.given place earlier))
  · generalize (session.take stamp input).submission = submission at change new
    cases change with
    | sent text asked admitted grows =>
        obtain rfl := List.mem_singleton.mp new
        exact State.given_messages _ (State.given_next grows)
    | accepted => cases new
    | replaced => cases new
    | kept => cases new

theorem take_posted (booked : exchange.Booked own) (aligned : exchange.course.Aligned)
    (posted : exchange.Posted own)
    (next : exchange.course.session.next? offer = some (input, session))
    (fresh : ∀ submission ∈ (session.take stamp input).submission,
      Fresh own exchange.submissions submission) :
    (exchange.take stamp input session).Posted own := by
  have ours : ∀ submission ∈ (exchange.take stamp input session).submissions,
      own submission.localId := by
    intro submission member
    rcases List.mem_append.mp member with earlier | new
    · exact posted.ours submission earlier
    · exact (fresh submission (Option.mem_toList.mp new)).1
  have distinct : ((exchange.take stamp input session).submissions.map (·.localId)).Nodup := by
    have before := posted.distinct
    simp only [take, Course.take, submissions, List.map_append] at before ⊢
    cases made : (session.take stamp input).submission with
    | none => simpa using before
    | some submission =>
        have new := (fresh submission made).2
        rw [List.nodup_append]
        refine ⟨before, by simp, ?_⟩
        rintro earlier member _ last rfl
        simp only [Option.toList_some, List.map_cons, List.map_nil, List.mem_singleton] at last
        rw [last] at member
        exact new member
  have count : (exchange.take stamp input session).places.length =
      (exchange.take stamp input session).submissions.length := by
    have before := posted.count
    simp only [take, Course.take, submissions, List.length_append] at before ⊢
    cases (session.take stamp input).submission <;> simp [before]
  cases given : input.action? with
  | none =>
      obtain ⟨state, submission⟩ := take_leaves stamp session given
      have same : (exchange.take stamp input session).state = exchange.state :=
        state.trans (next_frame next).2.2.1
      have silent : exchange.course.origin? input = none := by
        cases origin : exchange.course.origin? input with
        | none => rfl
        | some number =>
            obtain ⟨_, rfl⟩ := origin_outcome origin
            cases given
      refine posted_of_same posted same ?_ ?_ ?_ (List.prefix_refl _)
      · simp [take, Course.take, submissions, submission]
      · simp [take, submission]
      · simp [take_heard, silent]
  | some action =>
      have state := take_state stamp next given
      refine ⟨?_, ?_, ?_, count, take_given posted next given, ours, distinct, ?_, ?_⟩
      · rw [state]
        exact State.apply_orderly stamp action posted.orderly
      · rw [state]
        exact State.apply_bounded stamp action exchange.state
      · rw [state]
        exact State.apply_counted stamp action posted.orderly posted.counted
      · intro number submission place message
        exact take_held booked aligned posted next given
      · intro place message
        exact take_sent booked posted next given

end

theorem reached_posted (reached : exchange.Reached own) : exchange.Posted own := by
  induction reached with
  | start =>
      refine ⟨State.empty_orderly, Nat.zero_le _, Nat.le_refl _, rfl, nofun, nofun, .nil, ?_, ?_⟩
      · rintro number submission place message ⟨found, _⟩
        cases found
      · intro place message held
        cases State.holds_messages held
  | next earlier step induction =>
      cases step with
      | ask caller command proper handed =>
          obtain ⟨_, rfl⟩ := ask_frame handed
          exact posted_of_same induction rfl rfl rfl rfl (List.prefix_refl _)
      | answer number reply foreign pending made =>
          exact posted_of_same induction (report_state _ _) rfl rfl rfl (List.prefix_append _ _)
      | take offer stamp next fresh =>
          exact take_posted (reached_booked earlier) (reached_aligned earlier) induction next fresh

/-- Whatever is taken next, what is sent is submitted once, trimmed, if it is admitted, and then
stands at the next place. Nothing else is submitted. -/
def SubmitsOnce (exchange : Exchange Caller) : Prop :=
  (∀ offer stamp input session, exchange.course.session.next? offer = some (input, session) →
    (∀ text, input.action? = some (.send text) →
      (session.take stamp input).submission =
          (if exchange.state.Admits text then some ⟨stamp.id, Text.trim text⟩ else none) ∧
        (exchange.state.Admits text → (exchange.take stamp input session).state.Holds
          exchange.state.nextPlace (.plain stamp .user (Text.trim text)))) ∧
    ((∀ text, input.action? ≠ some (.send text)) →
      (session.take stamp input).submission = none)) ∧
  exchange.course.taken.filterMap (·.made) = List.range exchange.submissions.length ∧
  ∀ entry ∈ exchange.course.taken, Makes exchange.submissions entry

/-- No submission is answered twice, and no answer is taken twice or for another submission. -/
def HearsOnce (exchange : Exchange Caller) : Prop :=
  (exchange.replies.map (·.1)).Nodup ∧ exchange.heard.Nodup ∧
  (∀ entry ∈ exchange.course.taken, ∀ number, entry.origin = some number →
    exchange.Result number entry.action) ∧
  ∀ entry ∈ exchange.course.taken, ∀ localId serverId,
    entry.action = .sendAccepted localId serverId → ∃ number, entry.origin = some number

/-- An acceptance that is taken next is that of a submission which was not heard of before. It
renames the single message of the user with the submission's local identifier, if that is held
and the server's identifier is valid, and changes nothing else. -/
def AdoptsOwn (exchange : Exchange Caller) : Prop :=
  ∀ offer stamp input session localId serverId,
    exchange.course.session.next? offer = some (input, session) →
    input.action? = some (.sendAccepted localId serverId) →
    ∃ number submission, exchange.submissions[number]? = some submission ∧
      submission.localId = localId ∧ (number, .ok serverId) ∈ exchange.replies ∧
      number ∉ exchange.heard ∧
      ((State.Lacks exchange.state.messages localId ∧
          (exchange.take stamp input session).state = exchange.state) ∨
        ∃ earlier message later, exchange.state.messages = earlier ++ message :: later ∧
          message.role = .user ∧ message.id = localId ∧
          State.Lacks (earlier ++ later) localId ∧
          (exchange.take stamp input session).state =
            { exchange.state with
              messages :=
                earlier ++ { message with id := State.adopted localId serverId } :: later })

/-- Once every answer was taken, what is held of a submission is its own content under the
identifier that its own answer gave it. -/
def SettlesAll (exchange : Exchange Caller) : Prop :=
  exchange.course.away = [] → exchange.course.waiting = [] →
    ∀ number submission place message, exchange.Put number submission place →
      exchange.state.Holds place message →
        message.role = .user ∧ message.content = submission.content ∧
          ∃ reply, (number, reply) ∈ exchange.replies ∧ message.id = nameAfter submission reply

theorem reached_submits (reached : exchange.Reached own) : exchange.SubmitsOnce := by
  have booked := reached_booked reached
  refine ⟨?_, booked.numbered, booked.made⟩
  intro offer stamp input session next
  have same : session.state = exchange.state := (next_frame next).2.2.1
  constructor
  · intro text given
    have submission := (take_submission stamp session given).1 text rfl
    rw [same] at submission
    refine ⟨submission, ?_⟩
    intro admitted
    rw [take_state stamp next given]
    exact State.apply_send_holds stamp admitted
  · intro other
    cases given : input.action? with
    | none => exact (take_leaves stamp session given).2
    | some action =>
        refine (take_submission stamp session given).2 fun text asked => ?_
        rw [asked] at given
        exact other text given

theorem reached_hears (reached : exchange.Reached own) : exchange.HearsOnce := by
  have booked := reached_booked reached
  have aligned := reached_aligned reached
  refine ⟨?_, heard_nodup aligned, booked.origins, booked.accepted⟩
  have every := aligned.accounted.nodup_iff.mpr List.nodup_range
  rw [List.append_assoc] at every
  exact booked.answered.nodup_iff.mpr (List.nodup_append.mp every).2.1

theorem reached_adopts (reached : exchange.Reached own) : exchange.AdoptsOwn := by
  have booked := reached_booked reached
  have posted := reached_posted reached
  intro offer stamp input session localId serverId next given
  obtain ⟨number, origin, submission, reply, found, member, result⟩ :=
    next_accepted booked next given
  cases reply with
  | error error => cases result
  | ok answered =>
    obtain ⟨rfl, rfl⟩ := Action.sendAccepted.inj result
    have ours := posted.ours submission (List.mem_of_getElem? found)
    have state : (exchange.take stamp input session).state =
        { exchange.state.accept submission.localId serverId with
          messages := Conversation.newest
            (exchange.state.accept submission.localId serverId).messages } := by
      rw [← State.apply_accept stamp]
      exact take_state stamp next given
    refine ⟨number, submission, found, rfl, member,
      next_unheard (reached_aligned reached) origin, ?_⟩
    rw [state]
    rcases own_single posted ours with
      lacks | ⟨earlier, message, later, split, user, named, others⟩
    · left
      refine ⟨lacks, ?_⟩
      rw [State.accept_lacking serverId lacks, State.newest_of_bounded posted.bounded]
    · right
      refine ⟨earlier, message, later, split, user, named, others, ?_⟩
      have renamed := State.accept_single serverId split user named fun other later =>
        others other (List.mem_append_right _ later)
      have fits : State.Bounded { exchange.state with
          messages := earlier ++ { message with id := State.adopted submission.localId serverId } ::
            later } := by
        have bounded := posted.bounded
        simp only [State.Bounded, split, List.length_append, List.length_cons] at bounded ⊢
        exact bounded
      rw [renamed, State.newest_of_bounded fits]

theorem reached_settles (reached : exchange.Reached own) : exchange.SettlesAll := by
  intro answered taken number submission place message put held
  obtain ⟨user, content, named⟩ :=
    (reached_posted reached).held number submission place message put held
  refine ⟨user, content, ?_⟩
  rcases named with ⟨unheard, _⟩ | ⟨reply, member, _, same⟩
  · have accounted := (reached_aligned reached).accounted
    rw [answered, taken, List.append_nil, List.nil_append] at accounted
    have made := (List.getElem?_eq_some_iff.mp put.1).1
    exact absurd (accounted.mem_iff.mpr (List.mem_range.mpr made)) unheard
  · exact ⟨reply, member, same⟩

/-- Local identifiers are fresh, and the server gives none of them. Then what is sent is submitted
once, and what it is answered with is heard once, is told by its own message, and by nothing
else. -/
theorem reached_paired (reached : exchange.Reached own) :
    exchange.SubmitsOnce ∧ exchange.HearsOnce ∧ exchange.AdoptsOwn ∧ exchange.SettlesAll :=
  ⟨reached_submits reached, reached_hears reached, reached_adopts reached,
    reached_settles reached⟩

/-! Two sends that overlap, answered the other way round. -/

open Course (quietly written stampOf)

section

variable {messages later : List Message} {streaming arriving : Bool} {away : List Nat}
  {submissions : List Submission} {taken : List Taken} {stamp : Message.Stamp}
  {places : List Place} {replies : List (Nat × Except ServiceError String)}

theorem quietly_asks {action : Action} {submission : Option Submission}
    (reached : Reached own ⟨quietly messages streaming submissions away taken, places, replies⟩)
    (applied : (written messages streaming).apply stamp action =
      (written later arriving, submission))
    (proper : Proper own (.dispatch action))
    (fresh : ∀ made ∈ submission, Fresh own submissions made) :
    Reached own
      ⟨quietly later arriving (submissions ++ submission.toList)
        (away ++ (submission.map fun _ => submissions.length).toList)
        (taken ++ [⟨action, none, submission.map fun _ => submissions.length⟩]),
        places ++ (submission.map fun _ => ⟨0, messages.length⟩).toList, replies⟩ := by
  have asked := Reached.next reached (.ask () (.dispatch action) proper rfl)
  have heard := Reached.next asked (.take .nothing stamp rfl
    (by simpa only [Session.take, perform, Session.apply, quietly, applied, Exchange.submissions]
      using fresh))
  simp only [quietly, take, Course.take, Session.take, perform, Session.apply, applied] at heard
  rw [quietly, List.length_append]
  exact heard

theorem quietly_hears {number : Nat} {submission : Submission}
    {reply : Except ServiceError String}
    (reached : Reached own ⟨quietly messages streaming submissions away taken, places, replies⟩)
    (foreign : Foreign own reply) (pending : number ∈ away)
    (made : submissions[number]? = some submission)
    (applied : (written messages streaming).apply stamp (outcome submission reply) =
      (written later arriving, none)) :
    Reached own
      ⟨quietly later arriving submissions (away.erase number)
        (taken ++ [⟨outcome submission reply, some number, none⟩]),
        places, replies ++ [(number, reply)]⟩ := by
  have answered := Reached.next reached (.answer number reply foreign pending made)
  have next : (Exchange.answer number submission reply
      ⟨quietly messages streaming submissions away taken, places, replies⟩).course.session.next?
        .nothing = some (.outcome (outcome submission reply),
          (quietly messages streaming submissions away taken).session) := rfl
  have heard := Reached.next answered (.take .nothing stamp next
    (by
      simp only [Session.take, Session.apply, quietly, applied, Option.not_mem_none,
        false_implies, implies_true]))
  simp only [quietly, take, Course.take, answer, Course.answer, Session.take, Session.apply,
    applied, Option.map_none, Option.toList_none, List.append_nil] at heard
  rw [quietly, List.length_append]
  exact heard

end

/-- The identifiers of the two sends. -/
def given (id : String) : Prop := id = "1" ∨ id = "2"

instance (id : String) : Decidable (given id) := inferInstanceAs (Decidable (_ ∨ _))

def crossed : Exchange Unit :=
  { course :=
      quietly [.plain (stampOf "s1") .user "a", .plain (stampOf "s2") .user "b"] true
        [⟨"1", "a"⟩, ⟨"2", "b"⟩] []
        [⟨.send "a", none, some 0⟩, ⟨.done none, none, none⟩, ⟨.send "b", none, some 1⟩,
          ⟨.sendAccepted "2" "s2", some 1, none⟩, ⟨.sendAccepted "1" "s1", some 0, none⟩]
    places := [⟨0, 0⟩, ⟨0, 1⟩]
    replies := [(1, .ok "s2"), (0, .ok "s1")] }

theorem crossed_reached : crossed.Reached given := by
  have begun : Reached given ⟨quietly [] false [] [] [], [], []⟩ := .start
  have first := quietly_asks begun Course.first_sent trivial
    (by rintro _ ⟨⟩; exact ⟨.inl rfl, by rintro ⟨⟩⟩)
  have ended := @quietly_asks _ _ [.plain (stampOf "1") .user "a"] _ false _ _ _ (stampOf "") _ _
    (.done none) none first rfl trivial (by rintro _ ⟨⟩)
  have second := quietly_asks ended Course.second_sent trivial
    (by rintro _ ⟨⟩; exact ⟨.inr rfl, by decide⟩)
  have later := @quietly_hears _ _
    [.plain (stampOf "1") .user "a", .plain (stampOf "s2") .user "b"] _ true _ _ _ (stampOf "") _ _
    1 ⟨"2", "b"⟩ (.ok "s2") second (by rintro _ ⟨⟩; decide) (by decide) rfl rfl
  exact @quietly_hears _ _
    [.plain (stampOf "s1") .user "a", .plain (stampOf "s2") .user "b"] _ true _ _ _ (stampOf "") _ _
    0 ⟨"1", "a"⟩ (.ok "s1") later (by rintro _ ⟨⟩; decide) (by decide) rfl rfl

theorem crossed_paired :
    crossed.Reached given ∧ crossed.course.away = [] ∧ crossed.course.waiting = [] ∧
      crossed.state.messages.map (fun message => (message.id, message.content)) =
        [("s1", "a"), ("s2", "b")] ∧
      (crossed.SubmitsOnce ∧ crossed.HearsOnce ∧ crossed.AdoptsOwn ∧ crossed.SettlesAll) :=
  ⟨crossed_reached, rfl, rfl, rfl, reached_paired crossed_reached⟩

end Exchange

end LiveChat.Session
