import LiveChat.Session.Basic
import Mathlib.Data.List.Forall2

/-!
A session among those who use it: commands are handed over at any time, every submission is
answered once and at any time after it was made, and the events of a chat arrive as they please.
The account that is kept beside the session tells the outcomes of different submissions apart,
which the session itself does not.
-/

set_option autoImplicit false

namespace LiveChat.Session

open Conversation (Action Submission Message)

/-- An action that was taken, the submission whose outcome it is, and the one it led to. -/
structure Taken where
  action : Action
  origin : Option Nat
  made : Option Nat

structure Course (Caller : Type) where
  session : Session Caller
  /-- Every submission that was made. Its number is its place. -/
  submissions : List Submission
  /-- Those that are not answered yet. -/
  away : List Nat
  /-- Those whose outcomes wait in the session, in the same order. -/
  waiting : List Nat
  taken : List Taken

namespace Course

variable {Caller : Type}

def new : Course Caller :=
  { session := .new, submissions := [], away := [], waiting := [], taken := [] }

/-- The submission whose outcome comes next. -/
def origin? (course : Course Caller) : Input Caller → Option Nat
  | .outcome _ => course.waiting.head?
  | _ => none

def waitingAfter (course : Course Caller) : Input Caller → List Nat
  | .outcome _ => course.waiting.tail
  | _ => course.waiting

/-- What the account says of an input that stands for an action. -/
def record (made : Option Nat) (input : Input Caller) (course : Course Caller) : Option Taken :=
  input.action?.map fun action => ⟨action, course.origin? input, made⟩

/-- The session takes an input. What it submits is away from now on. -/
def take (stamp : Message.Stamp) (input : Input Caller) (session : Session Caller)
    (course : Course Caller) : Course Caller :=
  let turn := session.take stamp input
  let made := turn.submission.map fun _ => course.submissions.length
  { session := turn.session
    submissions := course.submissions ++ turn.submission.toList
    away := course.away ++ made.toList
    waiting := course.waitingAfter input
    taken := course.taken ++ (course.record made input).toList }

/-- A submission is answered. A session that has stopped does not hear of it. -/
def answer (number : Nat) (action : Action) (course : Course Caller) : Course Caller :=
  { course with
    session := course.session.report action
    away := course.away.erase number
    waiting := course.waiting ++ [number] }

inductive Step : Course Caller → Course Caller → Prop where
  | ask {course : Course Caller} {session : Session Caller} (caller : Caller) (command : Command)
      (handed : course.session.ask? caller command = some session) :
      Step course { course with session }
  | answer {course : Course Caller} {submission : Submission} (number : Nat)
      (reply : Except ServiceError String) (pending : number ∈ course.away)
      (made : course.submissions[number]? = some submission) :
      Step course (course.answer number (outcome submission reply))
  | take {course : Course Caller} {session : Session Caller} {input : Input Caller}
      (offer : Offer) (stamp : Message.Stamp)
      (next : course.session.next? offer = some (input, session)) :
      Step course (course.take stamp input session)

inductive Reached : Course Caller → Prop where
  | start : Reached new
  | next {before after : Course Caller} (reached : Reached before) (step : Step before after) :
      Reached after

end Course

/-! What a session does with an input, seen from its conversation. -/

variable {Caller : Type} {session rest : Session Caller} {input : Input Caller}

theorem take_applies {action : Action} (stamp : Message.Stamp) (session : Session Caller)
    (given : input.action? = some action) :
    (session.take stamp input).session.state = (session.state.apply stamp action).1 ∧
      (session.take stamp input).submission = (session.state.apply stamp action).2 := by
  cases input with
  | request asked =>
      obtain ⟨caller, command⟩ := asked
      cases command with
      | dispatch dispatched =>
          cases given
          exact ⟨rfl, rfl⟩
      | attach queue => cases given
      | detach => cases given
      | shutdown => cases given
  | outcome reported =>
      cases given
      exact ⟨rfl, rfl⟩
  | event heard =>
      cases given
      exact ⟨rfl, rfl⟩
  | silence => cases given

theorem take_leaves (stamp : Message.Stamp) (session : Session Caller)
    (given : input.action? = none) :
    (session.take stamp input).session.state = session.state ∧
      (session.take stamp input).submission = none := by
  cases input with
  | request asked =>
      obtain ⟨caller, command⟩ := asked
      cases command with
      | dispatch dispatched => cases given
      | attach queue => exact ⟨rfl, rfl⟩
      | detach => exact ⟨rfl, rfl⟩
      | shutdown => exact ⟨rfl, rfl⟩
  | outcome reported => cases given
  | event heard => cases given
  | silence => exact ⟨rfl, rfl⟩

/-- Only an outcome that is taken is gone from those that wait. -/
theorem next_frame {offer : Offer} (next : session.next? offer = some (input, rest)) :
    session.stopped = false ∧ rest.stopped = false ∧ rest.state = session.state ∧
      ((∃ action, input = .outcome action ∧ session.outcomes = action :: rest.outcomes) ∨
        ((∀ action, input ≠ .outcome action) ∧ rest.outcomes = session.outcomes)) := by
  unfold next? at next
  split at next
  · cases next
  · next alive =>
    have alive : session.stopped = false := by simpa using alive
    split at next
    · cases next
      exact ⟨alive, alive, rfl, .inr ⟨nofun, rfl⟩⟩
    · next empty waiting =>
      cases next
      exact ⟨alive, alive, rfl, .inl ⟨_, rfl, waiting⟩⟩
    · cases next
      exact ⟨alive, alive, rfl, .inr ⟨nofun, rfl⟩⟩
    · cases next
      exact ⟨alive, alive, rfl, .inr ⟨nofun, rfl⟩⟩
    · cases next

theorem ask_handed {caller : Caller} {command : Command}
    (handed : session.ask? caller command = some rest) :
    rest = { session with requests := session.requests ++ [⟨caller, command⟩] } := by
  unfold ask? at handed
  split at handed
  · cases handed
  · cases handed
    rfl

theorem ask_frame {caller : Caller} {command : Command}
    (handed : session.ask? caller command = some rest) :
    ∃ requests, rest = { session with requests } :=
  ⟨_, ask_handed handed⟩

theorem report_outcomes (action : Action) (session : Session Caller) :
    ∃ outcomes, session.report action = { session with outcomes } := by
  unfold report
  split <;> exact ⟨_, rfl⟩

theorem report_state (action : Action) (session : Session Caller) :
    (session.report action).state = session.state := by
  obtain ⟨outcomes, same⟩ := report_outcomes action session
  rw [same]

theorem apply_session (stamp : Message.Stamp) (action : Action) (session : Session Caller) :
    (session.apply stamp action).session =
      { session with
        state := (session.state.apply stamp action).1, published := session.published + 1 } := by
  simp only [apply, turnOf]

/-- After a turn the outcomes wait as before, unless the session has stopped. -/
theorem take_outcomes (stamp : Message.Stamp) (input : Input Caller) (session : Session Caller) :
    (session.take stamp input).session.stopped = true ∨
      (session.take stamp input).session.outcomes = session.outcomes := by
  cases input with
  | request asked =>
      obtain ⟨caller, command⟩ := asked
      cases command with
      | dispatch action => simp only [take, perform, apply_session, or_true]
      | attach queue => exact .inr rfl
      | detach => exact .inr rfl
      | shutdown => exact .inl rfl
  | outcome action => simp only [take, apply_session, or_true]
  | event heard => simp only [take, apply_session, or_true]
  | silence => exact .inr rfl

/-- The requests that are left were there before, and so was the one that is taken. -/
theorem next_requests {offer : Offer}
    (next : session.next? offer = some (input, rest)) :
    (∀ request, input = .request request → request ∈ session.requests) ∧
      ∀ request ∈ rest.requests, request ∈ session.requests := by
  simp only [next?, (next_frame next).1, Bool.false_eq_true, if_false] at next
  split at next
  · next first later waiting =>
    cases next
    rw [waiting]
    refine ⟨?_, fun request member => List.mem_cons_of_mem _ member⟩
    rintro _ ⟨⟩
    exact List.mem_cons_self
  · cases next
    exact ⟨nofun, fun _ => id⟩
  · cases next
    exact ⟨nofun, fun _ => id⟩
  · cases next
    exact ⟨nofun, fun _ => id⟩
  · cases next

theorem take_requests (stamp : Message.Stamp) (input : Input Caller) (session : Session Caller) :
    ∀ request ∈ (session.take stamp input).session.requests, request ∈ session.requests := by
  cases input with
  | request asked =>
      obtain ⟨caller, command⟩ := asked
      cases command with
      | dispatch action => simp only [Session.take, perform, apply_session, imp_self, implies_true]
      | shutdown => exact nofun
      | _ => exact fun _ => id
  | outcome action => simp only [Session.take, apply_session, imp_self, implies_true]
  | event heard => simp only [Session.take, apply_session, imp_self, implies_true]
  | silence => exact fun _ => id

namespace Course

/-- The action is what the submission of this number was answered with. -/
def Answers (submissions : List Submission) (number : Nat) (action : Action) : Prop :=
  ∃ submission reply, submissions[number]? = some submission ∧ action = outcome submission reply

/-- The account is right: each outcome, waiting or taken, is that of the submission named beside
it, and each submission is unanswered, waiting or taken once. -/
structure Aligned (course : Course Caller) : Prop where
  waiting : course.session.stopped = false →
    List.Forall₂ (Answers course.submissions) course.waiting course.session.outcomes
  origins : ∀ entry ∈ course.taken, ∀ number, entry.origin = some number →
    Answers course.submissions number entry.action
  accounted : (course.away ++ course.waiting ++ course.taken.filterMap (·.origin)).Perm
    (List.range course.submissions.length)

variable {course before after : Course Caller}

theorem answers_append {submissions : List Submission} {number : Nat} {action : Action}
    (more : List Submission) (answers : Answers submissions number action) :
    Answers (submissions ++ more) number action := by
  obtain ⟨submission, reply, found, same⟩ := answers
  obtain ⟨bound, _⟩ := List.getElem?_eq_some_iff.mp found
  exact ⟨submission, reply, (List.getElem?_append_left bound).trans found, same⟩

theorem answer_aligned {submission : Submission} {number : Nat}
    (reply : Except ServiceError String) (pending : number ∈ course.away)
    (made : course.submissions[number]? = some submission) (aligned : course.Aligned) :
    (course.answer number (outcome submission reply)).Aligned := by
  refine ⟨?_, aligned.origins, ?_⟩
  · intro alive
    have living : course.session.stopped = false := by
      simp only [answer, report] at alive
      split at alive
      · next stopped => exact alive
      · exact alive
    simp only [answer, report, living, Bool.false_eq_true, if_false]
    exact List.rel_append (aligned.waiting living)
      (.cons ⟨submission, reply, made, rfl⟩ .nil)
  · refine List.Perm.trans ?_ aligned.accounted
    have erased := List.perm_cons_erase pending
    simp only [answer, List.perm_iff_count, List.count_append] at erased ⊢
    intro item
    have counted := erased item
    simp only [List.count_cons, List.count_nil] at counted ⊢
    omega

theorem record_origin (made : Option Nat) (input : Input Caller) (course : Course Caller) :
    (course.record made input).toList.filterMap (·.origin) = (course.origin? input).toList := by
  cases input with
  | outcome action =>
      simp only [record, Input.action?, origin?, Option.map_some, Option.toList_some]
      cases course.waiting.head? <;> rfl
  | request asked =>
      simp only [record, origin?]
      cases (Input.request asked).action? <;> rfl
  | event heard => rfl
  | silence => rfl

theorem waiting_after_origin (input : Input Caller) (course : Course Caller) :
    (course.origin? input).toList ++ course.waitingAfter input = course.waiting := by
  cases input with
  | outcome action => cases order : course.waiting <;> simp [origin?, waitingAfter, order]
  | _ => rfl

/-- A submission that is made gets the next number. -/
theorem numbers_after (submission : Option Submission) (submissions : List Submission) :
    List.range (submissions ++ submission.toList).length =
      List.range submissions.length ++ (submission.map fun _ => submissions.length).toList := by
  cases submission with
  | none => simp
  | some submission => simp [List.range_succ]

theorem take_accounted (stamp : Message.Stamp) (input : Input Caller) (session : Session Caller)
    (aligned : course.Aligned) :
    ((course.take stamp input session).away ++ (course.take stamp input session).waiting ++
      (course.take stamp input session).taken.filterMap (·.origin)).Perm
    (List.range (course.take stamp input session).submissions.length) := by
  have accounted := aligned.accounted
  rw [← waiting_after_origin input course] at accounted
  simp only [take, numbers_after, List.filterMap_append, record_origin, List.perm_iff_count,
    List.count_append] at accounted ⊢
  intro item
  have counted := accounted item
  omega

/-- What is taken from those that wait goes with the number that is named first, whatever the
outcomes that wait have to do with their numbers. -/
theorem next_related {related : Nat → Action → Prop} {session : Session Caller}
    {input : Input Caller} {offer : Offer}
    (next : course.session.next? offer = some (input, session))
    (waiting : List.Forall₂ related course.waiting course.session.outcomes) :
    (∀ action, input = .outcome action →
        ∃ number, course.origin? input = some number ∧ related number action) ∧
      List.Forall₂ related (course.waitingAfter input) session.outcomes := by
  rcases (next_frame next).2.2.2 with ⟨action, rfl, front⟩ | ⟨other, same⟩
  · rw [front] at waiting
    cases names : course.waiting with
    | nil =>
        rw [names] at waiting
        cases waiting
    | cons number tail =>
        rw [names] at waiting
        obtain ⟨goes, others⟩ := List.forall₂_cons.mp waiting
        simp only [origin?, waitingAfter, names, List.tail_cons, List.head?_cons]
        refine ⟨?_, others⟩
        rintro _ ⟨⟩
        exact ⟨number, rfl, goes⟩
  · refine ⟨fun action given => absurd given (other action), ?_⟩
    rw [same]
    cases input with
    | outcome action => exact absurd rfl (other action)
    | _ => exact waiting

theorem take_aligned {session : Session Caller} {input : Input Caller} {offer : Offer}
    (stamp : Message.Stamp) (next : course.session.next? offer = some (input, session))
    (aligned : course.Aligned) : (course.take stamp input session).Aligned := by
  obtain ⟨named, waiting⟩ := next_related next (aligned.waiting (next_frame next).1)
  refine ⟨?_, ?_, take_accounted stamp input session aligned⟩
  · intro lasting
    rcases take_outcomes stamp input session with stopped | outcomes
    · exact absurd (stopped.symm.trans lasting) nofun
    · simp only [Course.take, outcomes]
      exact waiting.imp fun _ _ => answers_append _
  · intro entry member number given
    rcases List.mem_append.mp member with earlier | new
    · exact answers_append _ (aligned.origins entry earlier number given)
    · obtain ⟨action, stands, rfl⟩ := Option.map_eq_some_iff.mp (Option.mem_toList.mp new)
      cases input with
      | outcome reported =>
          cases stands
          obtain ⟨first, origin, answers⟩ := named action rfl
          obtain rfl := Option.some.inj (origin.symm.trans given)
          exact answers_append _ answers
      | _ => cases given

theorem step_aligned (step : Step before after) (aligned : before.Aligned) : after.Aligned := by
  cases step with
  | ask caller command handed =>
      obtain ⟨requests, rfl⟩ := ask_frame handed
      exact ⟨aligned.waiting, aligned.origins, aligned.accounted⟩
  | answer number reply pending made => exact answer_aligned reply pending made aligned
  | take offer stamp next => exact take_aligned stamp next aligned

theorem reached_aligned (reached : Reached course) : course.Aligned := by
  induction reached with
  | start => exact ⟨fun _ => .nil, nofun, .refl _⟩
  | next _ step induction => exact step_aligned step induction

/-! What a session with nothing else to do takes at once. -/

theorem reached_dispatch (stamp : Message.Stamp) (caller : Caller) (action : Action)
    (reached : Reached course) (alive : course.session.stopped = false)
    (idle : course.session.requests = []) :
    Reached (course.take stamp (.request ⟨caller, .dispatch action⟩) course.session) := by
  obtain ⟨⟨state, published, requests, outcomes, events, stopped⟩, _, _, _, _⟩ := course
  simp only at alive idle
  subst alive idle
  exact .next (.next reached (.ask caller (.dispatch action) rfl)) (.take .nothing stamp rfl)

theorem reached_event (stamp : Message.Stamp) (event : Stream.ChatEvent)
    (reached : Reached course) (alive : course.session.stopped = false)
    (idle : course.session.requests = []) (heard : course.session.outcomes = []) :
    Reached (course.take stamp (.event event) course.session) := by
  have next : course.session.next? (.event event) = some (.event event, course.session) := by
    simp [next?, alive, idle, heard]
  exact .next reached (.take (.event event) stamp next)

theorem reached_outcome {submission : Submission} (stamp : Message.Stamp) (number : Nat)
    (reply : Except ServiceError String) (reached : Reached course)
    (alive : course.session.stopped = false) (idle : course.session.requests = [])
    (heard : course.session.outcomes = []) (pending : number ∈ course.away)
    (made : course.submissions[number]? = some submission) :
    Reached ((course.answer number (outcome submission reply)).take stamp
      (.outcome (outcome submission reply)) course.session) := by
  have answered := Reached.next reached (.answer number reply pending made)
  obtain ⟨⟨state, published, requests, outcomes, events, stopped⟩, _, _, _, _⟩ := course
  simp only at alive idle heard
  subst alive idle heard
  exact .next answered (.take .nothing stamp rfl)

end Course

end LiveChat.Session
