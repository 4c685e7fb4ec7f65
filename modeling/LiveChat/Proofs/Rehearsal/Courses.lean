import LiveChat.Proofs.Rehearsal.Wires
import LiveChat.Proofs.Session.Runs
import LiveChat.Rehearsal.Operator

/-!
The session of a world goes along a course. Each submission is a job of the world with the same
number, and is away until its job is over. So what is shown of every course is true of the session
while all tasks go on.
-/

set_option autoImplicit false

namespace LiveChat.Rehearsal

open LiveChat.Stream (Connection)
open Conversation (Action)
open Session (Course)

/-- A job that is not over will be answered. -/
def Stage.Pending : Stage → Prop
  | .over => False
  | _ => True

namespace Job

/-- What a job may come to: it is still its submission's, and gives an answer when it ends. -/
def GoesOn (job : Job) (outcome : Job × Service × Option Action) : Prop :=
  outcome.1.submission = job.submission ∧
    ((outcome.2.2 = none ∧ (outcome.1.stage.Pending → job.stage.Pending)) ∨
      ∃ reply, job.stage.Pending ∧ outcome.1.stage = .over ∧
        outcome.2.2 = some (Session.outcome job.submission reply))

variable {job : Job}

theorem answer_goes_on (service : Service) (reply : Except Session.ServiceError String)
    (pending : job.stage.Pending) : job.GoesOn (job.answer service reply) := by
  unfold answer
  split
  · exact ⟨rfl, .inl ⟨rfl, fun _ => pending⟩⟩
  · exact ⟨rfl, .inr ⟨reply, pending, rfl, rfl⟩⟩

theorem send_goes_on (service : Service) (messages : Url) (now retries : Nat)
    (pending : job.stage.Pending) : job.GoesOn (job.send service messages now retries) := by
  unfold send
  split
  · exact ⟨rfl, .inl ⟨rfl, fun _ => pending⟩⟩
  · next result _ _ => exact ⟨rfl, .inr ⟨idOf result, pending, rfl, rfl⟩⟩

theorem advance_goes_on (job : Job) (service : Service) (now : Nat) :
    job.GoesOn (job.advance service now) := by
  obtain ⟨submission, stage⟩ := job
  unfold advance
  cases stage with
  | held reply => exact answer_goes_on service reply trivial
  | fresh =>
      cases service.remote with
      | some messages => exact send_goes_on service messages now 0 trivial
      | none => exact answer_goes_on _ _ trivial
  | waiting retries due =>
      cases service.remote with
      | some messages =>
          simp only
          split
          · exact ⟨rfl, .inl ⟨rfl, id⟩⟩
          · exact send_goes_on service messages now retries trivial
      | none => exact ⟨rfl, .inl ⟨rfl, id⟩⟩
  | _ => exact ⟨rfl, .inl ⟨rfl, id⟩⟩

end Job

namespace World

variable {world before after : World}

/-- All that the session has to do with, the queue it listens to apart. -/
def sides (world : World) : Option (Session Caller) × List Job := (world.session, world.jobs)

/-- The course is that of the world's session. -/
structure Accompanies (course : Course Caller) (world : World) : Prop where
  session : world.session = some course.session
  submissions : course.submissions = world.jobs.map Job.submission
  away : ∀ index job, world.jobs[index]? = some job → job.stage.Pending → index ∈ course.away

/-- The session has gone on along its course. -/
def Continues (before after : World) : Prop :=
  ∀ course : Course Caller, course.Reached → before.Accompanies course →
    ∃ next : Course Caller, next.Reached ∧ after.Accompanies next

theorem continues_trans {middle : World} (first : Continues before middle)
    (second : Continues middle after) : Continues before after := by
  intro course reached accompanies
  obtain ⟨next, nextReached, nextAccompanies⟩ := first course reached accompanies
  exact second next nextReached nextAccompanies

theorem accompanies_of_sides {course : Course Caller} (same : after.sides = before.sides)
    (accompanies : before.Accompanies course) : after.Accompanies course := by
  obtain ⟨session, jobs⟩ := Prod.mk.inj same
  obtain ⟨present, submissions, away⟩ := accompanies
  refine ⟨session.trans present, ?_, ?_⟩
  · rw [jobs]
    exact submissions
  · rw [jobs]
    exact away

theorem continues_of_sides (same : after.sides = before.sides) : Continues before after :=
  fun course reached accompanies => ⟨course, reached, accompanies_of_sides same accompanies⟩

theorem sides_of_alike (alike : Alike before after) : after.sides = before.sides := by
  obtain ⟨_, _, _, rfl⟩ := alike
  rfl

theorem wake_sides (task : Task) (world : World) : (world.wake task).sides = world.sides :=
  sides_of_alike (wake_alike task world)

theorem rouse_sides (world : World) : world.rouse.sides = world.sides :=
  sides_of_alike world.rouse_alike

theorem rouse_parked_sides (world : World) : world.rouseParked.sides = world.sides :=
  sides_of_alike world.rouse_parked_alike

theorem set_answer_sides (caller : Caller) (answer : Answer) (world : World) :
    (world.setAnswer caller answer).sides = world.sides :=
  sides_of_alike (set_answer_alike caller answer world)

theorem tell_sides (answer : Answer) (callers : List Caller) (world : World) :
    (callers.foldl (fun world caller => world.setAnswer caller answer) world).sides =
      world.sides :=
  sides_of_alike (fold_alike _ (fun _ _ => set_answer_alike _ _ _) callers world)

/-! What happens to the connection is nothing to the session. -/

theorem drop_line_sides (world : World) : world.dropLine.sides = world.sides := by
  unfold dropLine
  split <;> rfl

theorem close_sides (world : World) : world.close.sides = world.sides := by
  rw [close, sides_of_alike (fold_alike _ (fun _ _ => set_answer_alike _ _ _) _ _)]
  exact world.drop_line_sides

theorem follow_sides (outputs : List Connection.Output) (world : World) :
    (world.follow outputs).sides = world.sides := by
  unfold follow
  split
  · exact world.drop_line_sides
  · split
    · exact world.drop_line_sides
    · rfl

theorem signal_sides (signal : Connection.Signal) (world : World) :
    (world.signal signal).sides = world.sides := by
  have finished : ∀ world : World,
      ((if world.ended then world.close else world).rouse).sides = world.sides := by
    intro world
    rw [rouse_sides]
    split
    · exact world.close_sides
    · rfl
  exact (finished _).trans (follow_sides _ (world.notified signal))

theorem connection_turn_sides (turned : world.connectionTurn = some after) :
    after.sides = world.sides := by
  cases (connection_turn_cases turned).2 with
  | @order caller order rest waiting =>
      rw [set_answer_sides]
      cases order with
      | report => rfl
      | signal signal => exact signal_sides _ _
  | signal steady => exact signal_sides _ _
  | unpark ready => exact rouse_sides _
  | payload => exact rouse_sides _
  | opened => exact signal_sides _ _
  | failed error => exact signal_sides _ _

/-! The turns of the session. -/

theorem take_event_sides (queue : Option Nat) (world : World) :
    (world.takeEvent queue).sides = world.sides := by
  unfold takeEvent
  split
  · rfl
  · split
    · rfl
    · exact rouse_parked_sides _

theorem drop_queue_sides (queue : Option Nat) (world : World) :
    (world.dropQueue queue).sides = world.sides := by
  unfold dropQueue
  split
  · rfl
  · split
    · rfl
    · exact rouse_parked_sides _

theorem carry_on_sides (turn : Session.Turn Caller) (world : World) :
    (world.carryOn turn).sides =
      (some turn.session,
        world.jobs ++ (turn.submission.map fun submission => ⟨submission, .fresh⟩).toList) := by
  have jobs : (world.dropQueue turn.left).jobs = world.jobs :=
    congrArg Prod.snd (drop_queue_sides turn.left world)
  have submitted : ∀ (submission : Option Conversation.Submission) (world : World),
      (world.submit submission).sides =
        (world.sides.1,
          world.sides.2 ++ (submission.map fun submission => ⟨submission, .fresh⟩).toList) := by
    intro submission world
    cases submission with
    | none => simp [submit, sides]
    | some submission => exact wake_sides _ _
  simp only [carryOn]
  rw [tell_sides, tell_sides, submitted, sides_of_alike (wake_if_alike _ _ _), ← jobs]
  rfl

theorem take_accompanies {course : Course Caller} {input : Session.Input Caller}
    {rest : Session Caller} (stamp : Conversation.Message.Stamp)
    (accompanies : world.Accompanies course)
    (sides : after.sides = (some (rest.take stamp input).session,
      world.jobs ++
        ((rest.take stamp input).submission.map fun submission => ⟨submission, .fresh⟩).toList)) :
    after.Accompanies (course.take stamp input rest) := by
  obtain ⟨session, jobs⟩ := Prod.mk.inj sides
  have count : course.submissions.length = world.jobs.length := by
    rw [accompanies.submissions, List.length_map]
  refine ⟨session, ?_, ?_⟩
  · rw [jobs, List.map_append, ← accompanies.submissions]
    simp only [Course.take]
    cases (rest.take stamp input).submission <;> rfl
  · intro index job found pending
    rw [jobs] at found
    simp only [Course.take, List.mem_append]
    by_cases earlier : index < world.jobs.length
    · rw [List.getElem?_append_left earlier] at found
      exact .inl (accompanies.away index job found pending)
    · right
      rw [List.getElem?_append_right (by omega)] at found
      cases made : (rest.take stamp input).submission with
      | none => simp [made] at found
      | some submission =>
          have last : index = world.jobs.length := by
            obtain ⟨bound, _⟩ := List.getElem?_eq_some_iff.mp found
            simp only [made, Option.map_some, Option.toList_some, List.length_singleton] at bound
            omega
          simp [last, count]

theorem carry_on_accompanies {course : Course Caller} {input : Session.Input Caller}
    {rest : Session Caller} {moved : World} {stamp : Conversation.Message.Stamp}
    (accompanies : world.Accompanies course) (same : moved.sides = world.sides) :
    (moved.carryOn (rest.take stamp input)).Accompanies (course.take stamp input rest) := by
  have jobs : moved.jobs = world.jobs := congrArg Prod.snd same
  apply take_accompanies stamp accompanies
  rw [carry_on_sides, jobs]

theorem session_turn_continues (turned : world.sessionTurn = some after) :
    Continues world after := by
  simp only [sessionTurn, Option.bind_eq_bind, Option.bind_eq_some_iff, Option.some.injEq] at turned
  obtain ⟨session, present, ⟨input, rest⟩, next, rfl⟩ := turned
  intro course reached accompanies
  obtain rfl := Option.some.inj (present.symm.trans accompanies.session)
  refine ⟨_, .next reached (.take _ _ next), carry_on_accompanies accompanies ?_⟩
  simp only
  split
  · exact take_event_sides _ world
  · rfl

theorem set_submissions {jobs : List Job} {index : Nat} {job next : Job}
    (found : jobs[index]? = some job) (same : next.submission = job.submission) :
    (jobs.set index next).map Job.submission = jobs.map Job.submission := by
  obtain ⟨bound, rfl⟩ := List.getElem?_eq_some_iff.mp found
  have inside : index < (jobs.map Job.submission).length := by
    rw [List.length_map]
    exact bound
  have kept : jobs[index].submission = (jobs.map Job.submission)[index] :=
    (List.getElem_map _).symm
  rw [List.map_set, same, kept, List.set_getElem_self]

/-- A job that goes on takes its own place, and every other keeps its place. -/
theorem placed_cases {jobs : List Job} {index place : Nat} {job next other : Job}
    (found : jobs[index]? = some job) (placed : (jobs.set index next)[place]? = some other) :
    (place = index ∧ other = next) ∨ (place ≠ index ∧ jobs[place]? = some other) := by
  by_cases here : index = place
  · subst here
    obtain ⟨bound, _⟩ := List.getElem?_eq_some_iff.mp found
    rw [List.getElem?_set_self bound] at placed
    exact .inl ⟨rfl, (Option.some.inj placed).symm⟩
  · rw [List.getElem?_set_ne here] at placed
    exact .inr ⟨Ne.symm here, placed⟩

/-- The job's place in the world is its submission's number in the course. -/
theorem answer_accompanies {course : Course Caller} {index : Nat} {job next : Job}
    {service : Service} {reply : Except Session.ServiceError String}
    (accompanies : world.Accompanies course) (found : world.jobs[index]? = some job)
    (same : next.submission = job.submission) (finished : next.stage = .over) :
    ({ world with jobs := world.jobs.set index next, service }.report
      (Session.outcome job.submission reply)).Accompanies
        (course.answer index (Session.outcome job.submission reply)) := by
  obtain ⟨present, submissions, away⟩ := accompanies
  simp only [report, present]
  apply accompanies_of_sides (wake_sides _ _)
  refine ⟨rfl, submissions.trans (set_submissions found same).symm, ?_⟩
  intro place other placed pending
  rcases placed_cases found placed with ⟨_, rfl⟩ | ⟨elsewhere, kept⟩
  · rw [finished] at pending
    exact pending.elim
  · exact (List.mem_erase_of_ne elsewhere).mpr (away place other kept pending)

theorem report_continues {index : Nat} {job : Job} {outcome : Job × Service × Option Action}
    (found : world.jobs[index]? = some job) (goesOn : job.GoesOn outcome) :
    Continues world (((outcome.2.2.map
      { world with jobs := world.jobs.set index outcome.1, service := outcome.2.1 }.report).getD
        { world with jobs := world.jobs.set index outcome.1, service := outcome.2.1 })) := by
  obtain ⟨next, service, action⟩ := outcome
  rintro course reached accompanies
  rcases goesOn with ⟨same, ⟨silent, pending⟩ | ⟨reply, pending, finished, said⟩⟩
  · simp only at silent pending
    obtain ⟨present, submissions, away⟩ := accompanies
    refine ⟨course, reached, ?_⟩
    simp only [silent, Option.map_none, Option.getD_none]
    refine ⟨present, submissions.trans (set_submissions found same).symm, ?_⟩
    intro place other placed lasting
    rcases placed_cases found placed with ⟨rfl, rfl⟩ | ⟨_, kept⟩
    · exact away place job found (pending lasting)
    · exact away place other kept lasting
  · simp only at said finished
    simp only [said, Option.map_some, Option.getD_some]
    have made : course.submissions[index]? = some job.submission := by
      rw [accompanies.submissions, List.getElem?_map, found, Option.map_some]
    have waited := accompanies.away index job found pending
    exact ⟨_, .next reached (.answer index reply waited made),
      answer_accompanies accompanies found same finished⟩

theorem job_turn_continues {index : Nat} (turned : world.jobTurn index = some after) :
    Continues world after := by
  unfold jobTurn at turned
  split at turned
  · cases turned
  · next job found =>
    split at turned
    · cases turned
    · cases turned
      exact report_continues found (job.advance_goes_on world.service world.now)

theorem request_continues (caller : Caller) (command : Session.Command) (world : World) :
    Continues world (world.request caller command) := by
  unfold request
  split
  · exact continues_of_sides (set_answer_sides _ _ _)
  · next session handed =>
    refine continues_trans ?_ (continues_of_sides (wake_sides _ _))
    rintro course reached ⟨present, submissions, away⟩
    rw [present, Option.bind_some] at handed
    exact ⟨_, .next reached (.ask caller command handed), rfl, submissions, away⟩

theorem changes_turn_sides (turned : world.changesTurn = some after) :
    after.sides = world.sides := by
  unfold changesTurn at turned
  split at turned
  · cases turned
    exact rouse_parked_sides _
  · cases turned

/-! The terminal. -/

theorem order_sides (caller : Caller) (order : Order) (world : World) :
    (world.order caller order).sides = world.sides := by
  unfold World.order
  split
  · exact set_answer_sides _ _ _
  · exact wake_sides _ _

theorem finish_console_sides (failure : Option String) (console : Console) (world : World) :
    (world.finishConsole failure console).sides = world.sides :=
  wake_sides _ _

theorem continues_of_beside (beside : Beside world after) : Continues world after := by
  obtain ⟨_, _, _, _, _, rfl⟩ := beside
  exact continues_of_sides rfl

theorem console_turn_continues (turned : world.consoleTurn = some after) :
    Continues world after := by
  cases console_turn_cases turned with
  | quiet beside => exact continues_of_beside beside
  | asks beside command =>
      exact continues_trans (continues_of_beside beside) (request_continues .console command _)
  | orders beside proper =>
      exact continues_trans (continues_of_beside beside) (continues_of_sides (order_sides _ _ _))
  | reads console present taken => exact continues_of_sides rfl
  | leaves failure console => exact continues_of_sides (finish_console_sides _ _ _)

theorem turn_continues {task : Task} (turned : world.turn task = some after) :
    Continues world after := by
  cases task with
  | connection => exact continues_of_sides (connection_turn_sides turned)
  | session => exact session_turn_continues turned
  | changes => exact continues_of_sides (changes_turn_sides turned)
  | console => exact console_turn_continues turned
  | job index => exact job_turn_continues turned

theorem continues_kept : Kept Continues where
  alike same := continues_of_sides (sides_of_alike same)
  clock _ _ := continues_of_sides rfl
  trans := continues_trans
  turn := turn_continues

theorem setup_accompanied {setup : Operator.Setup} {capacity : Nat}
    (present : setup.session = some capacity) : setup.world.Accompanies Course.new :=
  ⟨by simp only [Operator.Setup.world, present, Option.map_some, Course.new], rfl, nofun⟩

/-- While the tasks take turns and the clock moves, the session stays on a course. -/
theorem advance_continues (now target : Nat) {course : Course Caller} (reached : course.Reached)
    (accompanies : world.Accompanies course) :
    ∃ next : Course Caller, next.Reached ∧ (world.advanceFrom now target).Accompanies next :=
  continues_kept.advance now target world course reached accompanies

end World

end LiveChat.Rehearsal
