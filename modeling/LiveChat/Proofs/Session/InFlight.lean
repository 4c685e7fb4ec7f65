import LiveChat.Proofs.Conversation.Flag
import LiveChat.Proofs.Session.Runs
import Mathlib.Data.List.DropRight

/-!
When the flag of a session is up. A send is in flight until the reply ends, the list is replaced,
or its own submission fails. The flag follows this and the reply that arrives, except that the
failure of another submission lowers it as well: a failure does not say which submission failed.
-/

set_option autoImplicit false

namespace LiveChat.Session

open Conversation (Action State Submission Quiet Message)

namespace Taken

/-- What ends a send of this number. -/
def Ends (number : Nat) (entry : Taken) : Prop :=
  match entry.action with
  | .done _ => True
  | .clear => True
  | .loadHistory _ => True
  | .sendFailed _ => entry.origin = some number
  | _ => False

/-- A failure that is not the failure of this submission. -/
def FailsOther (number : Nat) (entry : Taken) : Prop :=
  (∃ error, entry.action = .sendFailed error) ∧ entry.origin ≠ some number

theorem settles_iff (number : Nat) (entry : Taken) :
    entry.action.Settles ↔ entry.Ends number ∨ entry.FailsOther number := by
  obtain ⟨action, origin, made⟩ := entry
  cases action with
  | sendFailed error =>
      simp only [Action.Settles, Ends, FailsOther, Action.sendFailed.injEq, exists_eq', true_and]
      exact (iff_of_true trivial (em (origin = some number)))
  | _ => simp [Action.Settles, Ends, FailsOther]

end Taken

/-- The last submission that was made. -/
def latestSend? (taken : List Taken) : Option Nat := (taken.filterMap (·.made)).getLast?

/-- What was taken since. -/
def sinceSend (taken : List Taken) : List Taken := taken.rtakeWhile (·.made.isNone)

/-- The last send that was accepted is in flight. -/
def InFlight (taken : List Taken) : Prop :=
  ∃ number, latestSend? taken = some number ∧ ∀ entry ∈ sinceSend taken, ¬entry.Ends number

/-- Another submission failed since the last send was accepted. -/
def Crossed (taken : List Taken) : Prop :=
  ∃ number, latestSend? taken = some number ∧ ∃ entry ∈ sinceSend taken, entry.FailsOther number

/-- Nothing lowered the flag since the last send was accepted. -/
def Raised (taken : List Taken) : Prop :=
  (∃ number, latestSend? taken = some number) ∧ ∀ entry ∈ sinceSend taken, ¬entry.action.Settles

theorem raised_iff (taken : List Taken) : Raised taken ↔ InFlight taken ∧ ¬Crossed taken := by
  constructor
  · rintro ⟨⟨number, latest⟩, untouched⟩
    constructor
    · refine ⟨number, latest, fun entry member ends => ?_⟩
      exact untouched entry member ((entry.settles_iff number).mpr (.inl ends))
    · rintro ⟨other, _, entry, member, fails⟩
      exact untouched entry member ((entry.settles_iff other).mpr (.inr fails))
  · rintro ⟨⟨number, latest, unended⟩, uncrossed⟩
    refine ⟨⟨number, latest⟩, fun entry member settles => ?_⟩
    rcases (entry.settles_iff number).mp settles with ends | fails
    · exact unended entry member ends
    · exact uncrossed ⟨number, latest, entry, member, fails⟩

theorem raised_sent (taken : List Taken) (action : Action) (origin : Option Nat) (number : Nat) :
    Raised (taken ++ [⟨action, origin, some number⟩]) := by
  constructor
  · exact ⟨number, by simp [latestSend?]⟩
  · simp [sinceSend]

theorem raised_taken (taken : List Taken) (action : Action) (origin : Option Nat) :
    Raised (taken ++ [⟨action, origin, none⟩]) ↔ Raised taken ∧ ¬action.Settles := by
  have latest : latestSend? (taken ++ [⟨action, origin, none⟩]) = latestSend? taken := by
    simp [latestSend?]
  have since : sinceSend (taken ++ [⟨action, origin, none⟩]) =
      sinceSend taken ++ [⟨action, origin, none⟩] := by
    simp [sinceSend]
  simp only [Raised, latest, since, List.mem_append, List.mem_singleton, or_imp, forall_and,
    forall_eq, and_assoc]

namespace Course

variable {Caller : Type} {course before after : Course Caller}

/-- The flag is up while a reply arrives, and while nothing lowered it since the last send. -/
def Flagged (course : Course Caller) : Prop :=
  course.session.state.streaming = true ↔
    course.session.state.Arriving ∨ Raised course.taken

/-- An action moves the flag, the reply and the account together. -/
theorem flagged_of_effect {action : Action} {state next : State} {taken : List Taken}
    {submission : Option Submission} {origin : Option Nat} {number : Nat}
    (effect : State.Effect action state next submission)
    (flagged : state.streaming = true ↔ state.Arriving ∨ Raised taken) :
    next.streaming = true ↔ next.Arriving ∨
      Raised (taken ++ [⟨action, origin, submission.map fun _ => number⟩]) := by
  cases effect with
  | sent submission asked raised =>
      exact iff_of_true raised (.inr (raised_sent taken action origin number))
  | settled settles lowered quiet =>
      rw [Option.map_none, raised_taken]
      refine iff_of_false (by simp [lowered]) ?_
      rintro (arriving | ⟨_, lasting⟩)
      · exact State.quiet_not_arriving quiet arriving
      · exact lasting settles
  | joined lasting raised arriving => exact iff_of_true raised (.inl arriving)
  | kept lasting flag reply =>
      rw [Option.map_none, raised_taken, flag, reply, and_iff_left lasting]
      exact flagged

theorem take_flagged {session : Session Caller} {input : Input Caller} (stamp : Message.Stamp)
    (same : session.state = course.session.state) (flagged : course.Flagged) :
    (course.take stamp input session).Flagged := by
  cases given : input.action? with
  | none =>
      obtain ⟨state, _⟩ := take_leaves stamp session given
      simpa only [Flagged, take, state, same, record, given, Option.map_none, Option.toList_none,
        List.append_nil] using flagged
  | some action =>
      obtain ⟨state, submission⟩ := take_applies stamp session given
      have effect := State.apply_effect stamp action session.state
      rw [← state, ← submission, same] at effect
      have entry : (course.take stamp input session).taken = course.taken ++
          [⟨action, course.origin? input,
            (session.take stamp input).submission.map fun _ => course.submissions.length⟩] := by
        simp only [take, record, given, Option.map_some, Option.toList_some]
      rw [Flagged, entry]
      exact flagged_of_effect effect flagged

theorem step_flagged (step : Step before after) (flagged : before.Flagged) : after.Flagged := by
  cases step with
  | ask caller command handed =>
      obtain ⟨requests, rfl⟩ := ask_frame handed
      exact flagged
  | answer number reply pending made =>
      simpa only [Flagged, answer, report_state] using flagged
  | take offer stamp next => exact take_flagged stamp (next_frame next).2.2.1 flagged

theorem reached_flagged (reached : Reached course) : course.Flagged := by
  induction reached with
  | start =>
      refine iff_of_false nofun ?_
      rintro (⟨reply, last, _⟩ | ⟨⟨number, latest⟩, _⟩)
      · cases last
      · cases latest
  | next _ step induction => exact step_flagged step induction

/-- The flag is up while a reply arrives, and while the last send is in flight unless another
submission failed meanwhile. So it tells what is in flight except after such a failure with no
reply since. Any failure lowers it and ends the reply that arrives. -/
theorem reached_flag_exact (reached : Reached course) :
    (course.session.state.streaming = true ↔
      course.session.state.Arriving ∨ (InFlight course.taken ∧ ¬Crossed course.taken)) ∧
    ((course.session.state.streaming = true ↔
        course.session.state.Arriving ∨ InFlight course.taken) ↔
      (InFlight course.taken → Crossed course.taken → course.session.state.Arriving)) ∧
    ∀ stamp error,
      (course.session.state.apply stamp (.sendFailed error)).1.streaming = false ∧
        Quiet (course.session.state.apply stamp (.sendFailed error)).1.messages := by
  have flagged : course.session.state.streaming = true ↔
      course.session.state.Arriving ∨ (InFlight course.taken ∧ ¬Crossed course.taken) := by
    rw [← raised_iff]
    exact reached_flagged reached
  refine ⟨flagged, ?_, ?_⟩
  · rw [flagged]
    tauto
  · intro stamp error
    have effect := State.apply_effect stamp (.sendFailed error) course.session.state
    generalize course.session.state.apply stamp (.sendFailed error) = result at effect ⊢
    obtain ⟨next, submission⟩ := result
    cases effect with
    | sent submission asked => cases asked.choose_spec
    | settled _ lowered quiet => exact ⟨lowered, quiet⟩
    | joined lasting => exact absurd trivial lasting
    | kept lasting => exact absurd trivial lasting

/-- A conversation that was never replaced. -/
def written (messages : List Message) (streaming : Bool) : State :=
  { messages, streaming, epoch := 0, appended := messages.length }

/-- A course in which nothing waits to be taken. -/
def quietly (messages : List Message) (streaming : Bool) (submissions : List Submission)
    (away : List Nat) (taken : List Taken) : Course Unit :=
  { session :=
      { state := written messages streaming, published := taken.length, requests := []
        outcomes := [], events := none, stopped := false }
    submissions, away, waiting := [], taken }

variable {messages later : List Message} {streaming arriving : Bool} {away : List Nat}
  {submissions : List Submission} {taken : List Taken} {stamp : Message.Stamp}

theorem quietly_dispatch {action : Action} {submission : Option Submission}
    (reached : Reached (quietly messages streaming submissions away taken))
    (applied : (written messages streaming).apply stamp action =
      (written later arriving, submission)) :
    Reached (quietly later arriving (submissions ++ submission.toList)
      (away ++ (submission.map fun _ => submissions.length).toList)
      (taken ++ [⟨action, none, submission.map fun _ => submissions.length⟩])) := by
  have next := reached_dispatch stamp () action reached rfl rfl
  simp only [quietly, Course.take, Session.take, Session.perform, Session.apply, applied] at next
  rw [quietly, List.length_append]
  exact next

theorem quietly_event {event : Stream.ChatEvent}
    (reached : Reached (quietly messages streaming submissions away taken))
    (applied : (written messages streaming).apply stamp (.ofChat event) =
      (written later arriving, none)) :
    Reached (quietly later arriving submissions away
      (taken ++ [⟨.ofChat event, none, none⟩])) := by
  have next := reached_event stamp event reached rfl rfl rfl
  simp only [quietly, Course.take, Session.take, Session.apply, applied, Option.map_none,
    Option.toList_none, List.append_nil] at next
  rw [quietly, List.length_append]
  exact next

def stampOf (id : String) : Message.Stamp := { id, time := default }

/-- Two sends. The reply to the first has ended though its submission is not answered yet, and
the reply to the second has begun. -/
def overlapping : Course Unit :=
  quietly
    [.plain (stampOf "1") .user "a", .plain (stampOf "2") .user "b", .reply (stampOf "3") "c"]
    true [⟨"1", "a"⟩, ⟨"2", "b"⟩] [0, 1]
    [⟨.send "a", none, some 0⟩, ⟨.done none, none, none⟩, ⟨.send "b", none, some 1⟩,
      ⟨.token "c", none, none⟩]

/-- The first submission fails after all. -/
def lateFailure : Course Unit :=
  let failure := outcome ⟨"1", "a"⟩ (.error (.status 500 ""))
  (overlapping.answer 0 failure).take (stampOf "4") (.outcome failure) overlapping.session

theorem first_sent :
    (written [] false).apply (stampOf "1") (.send "a") =
      (written [.plain (stampOf "1") .user "a"] true, some ⟨"1", "a"⟩) := by
  have sent := State.send_accepted (stampOf "1") (written [] false) rfl
    (show Text.trim "a" = "a" from rfl) (by decide) (by decide)
  simp only [State.apply, State.perform, sent]
  rfl

theorem second_sent :
    (written [.plain (stampOf "1") .user "a"] false).apply (stampOf "2") (.send "b") =
      (written [.plain (stampOf "1") .user "a", .plain (stampOf "2") .user "b"] true,
        some ⟨"2", "b"⟩) := by
  have sent := State.send_accepted (stampOf "2")
    (written [.plain (stampOf "1") .user "a"] false) rfl
    (show Text.trim "b" = "b" from rfl) (by decide) (by decide)
  simp only [State.apply, State.perform, sent]
  rfl

theorem overlapping_reached : Reached overlapping := by
  have begun : Reached (quietly [] false [] [] []) := .start
  have first := quietly_dispatch begun first_sent
  have ended := @quietly_event _ [.plain (stampOf "1") .user "a"] _ false _ _ _ (stampOf "")
    (.done none) first rfl
  have second := quietly_dispatch ended second_sent
  exact @quietly_event _ _ _ true _ _ _ (stampOf "3") (.token "c") second rfl

theorem late_failure_reached : Reached lateFailure :=
  reached_outcome (stampOf "4") 0 (.error (.status 500 "")) overlapping_reached rfl rfl rfl
    (by decide) rfl

theorem late_failure_in_flight : InFlight lateFailure.taken := by
  have since : sinceSend lateFailure.taken =
      [⟨.token "c", none, none⟩, ⟨.sendFailed "server answered 500: ", some 0, none⟩] := rfl
  refine ⟨1, rfl, ?_⟩
  rw [since]
  simp [Taken.Ends]

theorem late_failure_lowered : lateFailure.session.state.streaming = false := rfl

/-- The flag and the reply of the second send are lost though it is still in flight. -/
theorem late_failure_lowers_flag :
    Reached lateFailure ∧ overlapping.session.state.Arriving ∧ InFlight lateFailure.taken ∧
      ¬(lateFailure.session.state.streaming = true ↔
        lateFailure.session.state.Arriving ∨ InFlight lateFailure.taken) := by
  refine ⟨late_failure_reached, ⟨_, rfl, rfl, rfl⟩, late_failure_in_flight, ?_⟩
  intro same
  have raised := same.mpr (.inr late_failure_in_flight)
  rw [late_failure_lowered] at raised
  cases raised

theorem late_failure_crossed : Reached lateFailure ∧ Crossed lateFailure.taken := by
  refine ⟨late_failure_reached, ?_⟩
  by_contra uncrossed
  have raised := (reached_flag_exact late_failure_reached).1.mpr
    (.inr ⟨late_failure_in_flight, uncrossed⟩)
  rw [late_failure_lowered] at raised
  cases raised

end Course

end LiveChat.Session
