import LiveChat.Proofs.Session.Attached
import LiveChat.Proofs.Session.Fences

/-!
A session that was torn down stays as it is. What was queued for it is gone, and what is parked, on
its way or read later reaches no queue that it listens to. A detach does not stop an attach that is
on its way, and so the session hears the chat again if that is carried out after it.
-/

set_option autoImplicit false

namespace LiveChat.Session

open Conversation (Action Message State)
open LiveChat.Stream (Channel ChatEvent Connection Dispatcher)

namespace Junction

variable {start before after final junction : Junction} {queue number : Nat}
  {incidents later : List Incident} {incident : Incident} {channel : Channel ChatEvent}

variable {settings : Stream.Settings} {chat changes notices : Option Nat}

theorem take_published (stamp : Message.Stamp) (input : Input Nat) (session : Session Nat) :
    (session.take stamp input).session.published =
      session.published + input.action?.toList.length := by
  cases input with
  | request asked =>
      obtain ⟨caller, command⟩ := asked
      cases command with
      | dispatch action => simp only [Session.take, perform, apply_session]; rfl
      | _ => rfl
  | outcome action => simp only [Session.take, apply_session]; rfl
  | event event => simp only [Session.take, apply_session]; rfl
  | silence => rfl

theorem step_state (step : Step before incident after) :
    after.session.state = (incident.action?.toList).foldl State.after before.session.state ∧
      after.session.published = before.session.published + incident.action?.toList.length := by
  cases step with
  | @ask number command found =>
      obtain ⟨requests, answers, asked⟩ := ask_asks number command before
      rw [asked]
      exact ⟨rfl, rfl⟩
  | @take session input offer stamp offers next =>
      have state := (next_frame next).2.2.1
      have published := (next_listens next).2.1
      simp only [Incident.action?, take, take_published, published]
      cases given : input.action? with
      | none => exact ⟨(take_leaves stamp session given).1.trans state, rfl⟩
      | some action =>
          rw [(take_applies stamp session given).1, state]
          exact ⟨rfl, rfl⟩
  | report action =>
      obtain ⟨outcomes, same⟩ := report_outcomes action before.session
      rw [same]
      exact ⟨rfl, rfl⟩
  | _ => exact ⟨rfl, rfl⟩

/-- The conversation is what the actions that were taken make of it, in their order. -/
theorem run_state (run : Run start incidents final) :
    final.session.state = (incidents.filterMap Incident.action?).foldl State.after
        start.session.state ∧
      final.session.published =
        start.session.published + (incidents.filterMap Incident.action?).length := by
  induction run with
  | start => exact ⟨rfl, rfl⟩
  | next run step induction =>
      obtain ⟨state, published⟩ := induction
      obtain ⟨next, count⟩ := step_state step
      rw [List.filterMap_append, List.foldl_append, ← state, List.length_append, ← Nat.add_assoc,
        ← published]
      exact ⟨next, count⟩

/-- A call that was agreed to was carried out in a turn of the session. -/
theorem run_granted {command : Command} {phase : Phase}
    (run : Run (.new settings chat changes notices) incidents junction)
    (found : junction.errands[number]? = some ⟨command, phase⟩)
    (granted : (number, .ok ()) ∈ junction.answers) :
    ∃ earlier stamp since,
      incidents = earlier ++ .took stamp (.request ⟨number, command⟩) :: since := by
  induction run generalizing phase with
  | start => cases granted
  | @next incidents before after incident run step induction =>
      have asked := (run_fenced run).1
      -- The call was made before, because it was answered then or is taken now.
      have same : ∀ {other : Command} {former : Phase},
          before.errands[number]? = some ⟨other, former⟩ → other = command := by
        intro other former there
        obtain ⟨later, kept⟩ := step_command step there
        exact congrArg Errand.command (Option.some.inj (kept.symm.trans found))
      rcases granted_cases step granted with
        earlier | ⟨stamp, taken, session, offer, rfl, offers, next, rfl⟩
      · have bound := asked.answers _ earlier
        have there : before.errands[number]? = some ⟨_, _⟩ := List.getElem?_eq_getElem bound
        obtain rfl := same there
        obtain ⟨first, stamp, since, parts⟩ := induction there earlier
        refine ⟨first, stamp, since ++ [incident], ?_⟩
        rw [parts, List.append_assoc, List.cons_append]
      · obtain ⟨former, there⟩ := asked.requests _ ((next_requests next).1 _ rfl)
        obtain rfl := same there
        exact ⟨incidents, stamp, [], rfl⟩

/-! After a session was torn down. -/

/-- Nothing of the chat is heard, the conversation is what was asked for and what was submitted
make of it, and no queue that was made for the session holds anything. -/
structure Still (start : Junction) (incidents : List Incident) (final : Junction) : Prop where
  unheard : ∀ incident ∈ incidents, ¬incident.Hears
  state : final.session.state =
    (incidents.filterMap Incident.action?).foldl State.after start.session.state
  published : final.session.published =
    start.session.published + (incidents.filterMap Incident.action?).length
  empty : ∀ queue, final.Offered queue → final.Spent queue

/-- Without a queue to listen to, the session hears nothing and gets none. -/
theorem step_unattached (step : Step before incident after) (deaf : before.session.events = none)
    (unattached : ¬incident.Attaches) : after.session.events = none ∧ ¬incident.Hears := by
  cases step with
  | @ask number command found =>
      obtain ⟨requests, answers, asked⟩ := ask_asks number command before
      rw [asked]
      exact ⟨deaf, id⟩
  | @take session input offer stamp offers next =>
      obtain ⟨events, _, _, heard⟩ := next_listens next
      cases input with
      | request asked =>
          obtain ⟨caller, command⟩ := asked
          refine ⟨?_, id⟩
          cases command with
          | dispatch action =>
              simp only [take, Session.take, perform, apply_session]
              exact events.trans deaf
          | attach queue => exact absurd trivial unattached
          | detach => rfl
          | shutdown => rfl
      | outcome action =>
          refine ⟨?_, id⟩
          simp only [take, Session.take, apply_session]
          exact events.trans deaf
      | event event =>
          obtain rfl := heard event rfl
          obtain ⟨queue, _, _, listening, _⟩ := offers
          rw [deaf] at listening
          cases listening
      | silence => exact ⟨rfl, id⟩
  | report action =>
      obtain ⟨outcomes, same⟩ := report_outcomes action before.session
      rw [same]
      exact ⟨deaf, id⟩
  | desert idle => exact ⟨rfl, id⟩
  | _ => exact ⟨deaf, id⟩

theorem step_detached {stamp : Message.Stamp}
    (step : Step before (.took stamp (.request ⟨number, .detach⟩)) after) :
    after.session.events = none := by
  cases step
  rfl

/-- An attach is on its way to the session. -/
def AttachComes (junction : Junction) : Prop :=
  (∃ errand ∈ junction.errands, (∃ queue, errand.command = .attach queue) ∧ errand.phase = .begun) ∨
    ∃ request ∈ junction.session.requests, ∃ queue, request.command = .attach queue

theorem set_phase_coming {phase : Phase} (later : phase ≠ .begun)
    (coming : (before.setPhase number phase).AttachComes) : before.AttachComes := by
  rcases coming with ⟨⟨command, _⟩, member, attach, rfl⟩ | asked
  · obtain ⟨place, found⟩ := List.mem_iff_getElem?.mp member
    rcases set_phase_cases found with ⟨same, _⟩ | there
    · exact absurd same.symm later
    · exact .inl ⟨_, List.mem_of_getElem? there, attach, rfl⟩
  · exact .inr asked

theorem begin_coming {command : Command} {capacity : Nat}
    (other : ¬(Incident.begun command).OffersQueue)
    (coming : (before.begin command capacity).AttachComes) : before.AttachComes := by
  rcases coming with ⟨errand, member, ⟨queue, attach⟩, begun⟩ | asked
  · rcases List.mem_append.mp member with earlier | new
    · exact .inl ⟨errand, earlier, ⟨queue, attach⟩, begun⟩
    · rw [List.mem_singleton.mp new] at attach
      obtain rfl : command = .attach queue := attach
      exact absurd trivial other
  · exact .inr asked

/-- What asks the session was on its way before. -/
theorem ask_coming {command : Command} (found : before.errands[number]? = some ⟨command, .begun⟩)
    (coming : (before.ask number command).AttachComes) : before.AttachComes := by
  have earlier (phased : (before.setPhase number .asked).AttachComes) : before.AttachComes :=
    set_phase_coming (by rintro ⟨⟩) phased
  unfold ask at coming
  split at coming
  · exact earlier coming
  · next session handed =>
    rw [ask_handed handed] at coming
    rcases coming with begun | ⟨request, member, queue, attach⟩
    · exact earlier (.inl begun)
    · rcases List.mem_append.mp member with waiting | new
      · exact .inr ⟨request, waiting, queue, attach⟩
      · rw [List.mem_singleton.mp new] at attach
        exact .inl ⟨_, List.mem_of_getElem? found, ⟨queue, attach⟩, rfl⟩

/-- An attach is carried out only if it was on its way, and comes on its way as its call begins. -/
theorem step_coming (step : Step before incident after) (free : ¬before.AttachComes)
    (other : ¬incident.OffersQueue) : ¬after.AttachComes ∧ ¬incident.Attaches := by
  cases step with
  | begin command capacity made => exact ⟨mt (begin_coming other) free, id⟩
  | ask found => exact ⟨mt (ask_coming found) free, id⟩
  | giveBack found answered => exact ⟨mt (set_phase_coming (by rintro ⟨⟩)) free, id⟩
  | abandon found waiting => exact ⟨mt (set_phase_coming (by rintro ⟨⟩)) free, id⟩
  | @take session input offer stamp offers next =>
      obtain ⟨first, rest⟩ := next_requests next
      constructor
      · rintro (begun | ⟨request, member, attach⟩)
        · exact free (.inl begun)
        · exact free (.inr ⟨request, rest request (take_requests stamp _ _ request member), attach⟩)
      · intro attaches
        cases input with
        | request request =>
            obtain ⟨caller, command⟩ := request
            cases command with
            | attach queue => exact free (.inr ⟨_, first _ rfl, queue, rfl⟩)
            | _ => exact attaches
        | _ => exact attaches
  | report action =>
      obtain ⟨outcomes, same⟩ := report_outcomes action before.session
      rw [same]
      exact ⟨free, id⟩
  | desert idle =>
      refine ⟨?_, id⟩
      rintro (begun | ⟨_, member, _⟩)
      · exact free (.inl begun)
      · cases member
  | _ => exact ⟨free, id⟩

/-- A session that has stopped takes nothing more. -/
theorem step_stopped (step : Step before incident after) (stopped : before.session.stopped = true) :
    after.session.stopped = true ∧ ¬incident.Takes := by
  cases step with
  | @ask number command found =>
      obtain ⟨requests, answers, asked⟩ := ask_asks number command before
      rw [asked]
      exact ⟨stopped, id⟩
  | take stamp offers next =>
      rw [(next_frame next).1] at stopped
      cases stopped
  | report action =>
      obtain ⟨outcomes, same⟩ := report_outcomes action before.session
      rw [same]
      exact ⟨stopped, id⟩
  | desert idle => exact ⟨rfl, id⟩
  | _ => exact ⟨stopped, id⟩

theorem step_shut_down {stamp : Message.Stamp}
    (step : Step before (.took stamp (.request ⟨number, .shutdown⟩)) after) :
    after.session.stopped = true := by
  cases step
  rfl

/-- After a turn that carried out a call to detach, the session is still until it carries out a call
to attach. -/
theorem detached_still {carrying middle : Junction} {first since : List Incident}
    {stamp : Message.Stamp} (run : Run (.new settings chat changes notices) first carrying)
    (carried : Step carrying (.took stamp (.request ⟨number, .detach⟩)) middle)
    (between : Run middle since after) (rest : Run after later final)
    (unattached : ∀ incident ∈ since ++ later, ¬incident.Attaches) : Still after later final := by
  obtain ⟨earlier_free, later_free⟩ := List.forall_mem_append.mp unattached
  obtain ⟨deaf, _⟩ := between.keeps step_unattached (step_detached carried) earlier_free
  obtain ⟨still, unheard⟩ := rest.keeps step_unattached deaf later_free
  obtain ⟨state, published⟩ := run_state rest
  refine ⟨unheard, state, published, ?_⟩
  intro queue offered
  rcases (run_fenced (((run.next carried).append between).append rest)).2.offered queue offered with
    attached | spent
  · rw [still] at attached
    cases attached
  · exact spent

/-- After a turn that carried out a call to shut down, nothing is taken. -/
theorem shut_down_still {carrying middle : Junction} {since : List Incident}
    {stamp : Message.Stamp}
    (carried : Step carrying (.took stamp (.request ⟨number, .shutdown⟩)) middle)
    (between : Run middle since after) (rest : Run after later final) :
    final.session.state = after.session.state ∧
      final.session.published = after.session.published ∧
      ∀ incident ∈ later, ¬incident.Takes := by
  have each : ∀ {before incident after}, Step before incident after →
      before.session.stopped = true → True → after.session.stopped = true ∧ ¬incident.Takes :=
    fun step stopped _ => step_stopped step stopped
  obtain ⟨stopped, _⟩ := between.keeps each (step_shut_down carried) fun _ _ => trivial
  obtain ⟨_, untaken⟩ := rest.keeps each stopped fun _ _ => trivial
  have idle : later.filterMap Incident.action? = [] := by
    rw [List.filterMap_eq_nil_iff]
    intro incident member
    cases incident with
    | took stamp input => exact absurd trivial (untaken _ member)
    | _ => rfl
  obtain ⟨state, published⟩ := run_state rest
  rw [idle] at state published
  exact ⟨state, published, untaken⟩

/-- When a call to detach has come back, the session is still as long as no attach was carried out
after it. So it is if no attach was on its way when the detach was carried out and none has begun
since. None is carried out after the call has come back if none is on its way then and none begins.
When a call to shut down has come back, the session takes nothing more, whatever is asked, answered
or sent. -/
theorem torn_down_still (settings : Stream.Settings) (chat changes notices : Option Nat)
    {earlier later : List Incident} {before after final : Junction} {number : Nat}
    (run : Run (.new settings chat changes notices) earlier before)
    (back : Step before (.returned number (.ok ())) after) (rest : Run after later final) :
    (before.errands[number]? = some ⟨.detach, .asked⟩ →
      (∃ first stamp since carrying,
        earlier = first ++ .took stamp (.request ⟨number, .detach⟩) :: since ∧
        Run (.new settings chat changes notices) first carrying ∧
        (¬carrying.AttachComes → (∀ incident ∈ since ++ later, ¬incident.OffersQueue) →
          (∀ incident ∈ since ++ later, ¬incident.Attaches) ∧ Still after later final)) ∧
      (∀ first stamp since, earlier = first ++ .took stamp (.request ⟨number, .detach⟩) :: since →
        (∀ incident ∈ since ++ later, ¬incident.Attaches) → Still after later final) ∧
      (¬after.AttachComes → (∀ incident ∈ later, ¬incident.OffersQueue) →
        ∀ incident ∈ later, ¬incident.Attaches)) ∧
    (before.errands[number]? = some ⟨.shutdown, .asked⟩ →
      final.session.state = after.session.state ∧
        final.session.published = after.session.published ∧
        ∀ incident ∈ later, ¬incident.Takes) := by
  have granted : (number, .ok ()) ∈ before.answers := by
    cases back with
    | giveBack found answered => exact answered
  constructor
  · intro found
    have still : ∀ first stamp since,
        earlier = first ++ .took stamp (.request ⟨number, .detach⟩) :: since →
          (∀ incident ∈ since ++ later, ¬incident.Attaches) → Still after later final := by
      rintro first stamp since rfl unattached
      obtain ⟨_, _, first_run, carried, between⟩ := run.through rfl
      refine detached_still first_run carried (between.next back) rest ?_
      simp only [List.append_assoc, List.forall_mem_append, List.forall_mem_singleton]
        at unattached ⊢
      exact ⟨unattached.1, id, unattached.2⟩
    refine ⟨?_, still, fun free others => (rest.keeps step_coming free others).2⟩
    obtain ⟨first, stamp, since, parts⟩ := run_granted run found granted
    obtain ⟨carrying, _, first_run, carried, between⟩ := run.through parts
    refine ⟨first, stamp, since, carrying, parts, first_run, ?_⟩
    intro free others
    obtain ⟨coming, _⟩ := step_coming carried free id
    have allowed : ∀ incident ∈ since ++ [.returned number (.ok ())] ++ later,
        ¬incident.OffersQueue := by
      simp only [List.append_assoc, List.forall_mem_append, List.forall_mem_singleton] at others ⊢
      exact ⟨others.1, id, others.2⟩
    obtain ⟨_, free_since⟩ := ((between.next back).append rest).keeps step_coming coming allowed
    have unattached : ∀ incident ∈ since ++ later, ¬incident.Attaches := by
      simp only [List.append_assoc, List.forall_mem_append] at free_since ⊢
      exact ⟨free_since.1, free_since.2.2⟩
    exact ⟨unattached, still first stamp since parts unattached⟩
  · intro found
    obtain ⟨first, stamp, since, rfl⟩ := run_granted run found granted
    obtain ⟨_, _, _, carried, between⟩ := run.through rfl
    exact shut_down_still carried (between.next back) rest

/-! A session leaves while one event is queued for it and another is on its way. -/

open Coupling (tokenA tokenB)

def stamp : Message.Stamp := { id := "", time := default }

/-- A session that is attached to a live connection, by a call that has come back. -/
def listening (read : Nat) (items : List ChatEvent) (handing : Option (Nat × ChatEvent)) :
    Junction :=
  { dispatcher := .crowded read items none, handing
    session := { Session.new with events := some 0 }
    errands := [⟨.attach 0, .returned (.ok ())⟩], answers := [(0, .ok ())] }

def attaching : List Incident :=
  [.begun (.attach 0), .asked 0, .took stamp (.request ⟨0, .attach 0⟩), .returned 0 (.ok ()),
    .moved ⟨0, 0, .signal .connect⟩, .moved ⟨1, 0, .signal .opened⟩]

theorem attaching_run :
    Run (.new .standard none (some 1) none) attaching (listening 0 [] none) := by
  have begun := Run.start.next (@Step.begin (.new .standard none (some 1) none) (.attach 0) 1
    (by rintro _ ⟨⟩; rfl))
  have asked := begun.next (@Step.ask _ 0 (.attach 0) rfl)
  have taken := asked.next (@Step.take _ _ _ .nothing stamp trivial rfl)
  have back := taken.next (@Step.giveBack _ 0 (.attach 0) (.ok ()) rfl (by decide))
  have connecting := back.next
    (.move ⟨0, 0, .signal .connect⟩ trivial (.signal .connect rfl trivial))
  exact connecting.next (.move ⟨1, 0, .signal .opened⟩ trivial (.signal .opened rfl rfl))

def leaving : List Incident :=
  attaching ++ [.moved ⟨2, 0, .payload tokenA⟩, .picked tokenB, .begun .detach, .asked 1,
    .took stamp (.request ⟨1, .detach⟩)]

/-- That junction after the call to detach, with a queue that nobody reads. -/
def left (handing : Option (Nat × ChatEvent)) (phase : Phase) : Junction :=
  { dispatcher := { Dispatcher.crowded 2 [] none with handler := none, chats := [⟨1, [], false⟩] }
    handing, session := .new
    errands := [⟨.attach 0, .returned (.ok ())⟩, ⟨.detach, phase⟩]
    answers := [(0, .ok ()), (1, .ok ())] }

theorem token_queued :
    Dispatcher.Step 2 0 (.crowded 0 [] none) (.payload tokenA)
      (.crowded 1 [.token "a"] none) := by
  have first := Dispatcher.crowded_receives.1
  exact first ▸ .payload tokenA rfl rfl rfl

theorem token_read :
    (listening 1 [.token "a"] none).dispatcher.connection.read
        (listening 1 [.token "a"] none).dispatcher.settings tokenB =
      ((listening 2 [.token "a"] none).dispatcher.connection, some (.chat (.token "b"))) := by
  have parsed : Stream.Event.parse
      (listening 1 [.token "a"] none).dispatcher.settings.payloadLimit tokenB =
        .ok (.chatToken "b") := Coupling.tokens_parsed.2
  simp only [Connection.read, parsed]
  rfl

theorem leaving_run :
    Run (.new .standard none (some 1) none) leaving (left (some (0, .token "b")) .asked) := by
  have queued : Run (.new .standard none (some 1) none)
      (attaching ++ [.moved ⟨2, 0, .payload tokenA⟩]) (listening 1 [.token "a"] none) :=
    attaching_run.next (.move ⟨2, 0, .payload tokenA⟩ trivial token_queued)
  have picked := queued.next (@Step.pick (listening 1 [.token "a"] none) _ (.token "b") 0 tokenB rfl
    rfl rfl rfl token_read rfl)
  have begun := picked.next (@Step.begin _ .detach 0 (by rintro _ ⟨⟩))
  have asked := begun.next (@Step.ask _ 1 .detach rfl)
  have taken := asked.next (@Step.take _ _ _ .nothing stamp trivial rfl)
  exact taken

theorem left_still :
    Run (.new .standard none (some 1) none) leaving (left (some (0, .token "b")) .asked) ∧
      Step (left (some (0, .token "b")) .asked) (.returned 1 (.ok ()))
        (left (some (0, .token "b")) (.returned (.ok ()))) ∧
      Still (left (some (0, .token "b")) (.returned (.ok ()))) [.handed]
        (left none (.returned (.ok ()))) := by
  have back : Step (left (some (0, .token "b")) .asked) (.returned 1 (.ok ()))
      (left (some (0, .token "b")) (.returned (.ok ()))) :=
    @Step.giveBack _ 1 .detach (.ok ()) rfl (by decide)
  have rest : Run (left (some (0, .token "b")) (.returned (.ok ()))) [.handed]
      (left none (.returned (.ok ()))) := Run.start.next (@Step.hand _ (.token "b") 0 rfl)
  have torn := torn_down_still .standard none (some 1) none leaving_run back rest
  refine ⟨leaving_run, back, (torn.1 rfl).2.1 (leaving.take 10) stamp [] rfl ?_⟩
  rintro incident member attaches
  rw [List.mem_singleton.mp member] at attaches
  exact attaches

/-! A call to attach that has begun before asks the session after the detach. -/

def overtaking : List Incident :=
  [.begun (.attach 0), .begun .detach, .asked 1, .asked 0, .took stamp (.request ⟨1, .detach⟩),
    .took stamp (.request ⟨0, .attach 0⟩)]

/-- No call begins any more. -/
def overtaken : List Incident :=
  [.returned 0 (.ok ()), .moved ⟨0, 0, .signal .connect⟩, .moved ⟨1, 0, .signal .opened⟩,
    .moved ⟨2, 0, .payload tokenA⟩, .took stamp (.event (.token "a"))]

def attentive : Session Nat :=
  { Session.new with events := some 0 }

/-- A junction whose session was attached after it was detached. -/
def reattached (dispatcher : Dispatcher) (session : Session Nat) (attach detach : Phase) :
    Junction :=
  { dispatcher, handing := none, session
    errands := [⟨.attach 0, attach⟩, ⟨.detach, detach⟩], answers := [(1, .ok ()), (0, .ok ())] }

/-- Both calls were answered, and neither has come back. -/
def crossed : Junction :=
  reattached { Dispatcher.new .standard none (some 1) none with chats := [⟨1, [], true⟩] }
    attentive .asked .asked

def detached : Junction :=
  crossed.giveBack 1 .detach (.ok ())

/-- The session has heard an event. -/
def overheard : Junction :=
  reattached (.crowded 1 [] none)
    { attentive with state := State.empty.after (stamp, .token "a"), published := 1 }
    (.returned (.ok ())) (.returned (.ok ()))

theorem overtaking_run : Run (.new .standard none (some 1) none) overtaking crossed := by
  have entered := Run.start.next (@Step.begin (.new .standard none (some 1) none) (.attach 0) 1
    (by rintro _ ⟨⟩; rfl))
  have begun := entered.next (@Step.begin _ .detach 0 (by rintro _ ⟨⟩))
  have asked := begun.next (@Step.ask _ 1 .detach rfl)
  have both := asked.next (@Step.ask _ 0 (.attach 0) rfl)
  have left := both.next (@Step.take _ _ _ .nothing stamp trivial rfl)
  have attached := left.next (@Step.take _ _ _ .nothing stamp trivial rfl)
  exact attached

theorem overtaken_run : Run detached overtaken overheard := by
  have placed := Run.start.next (@Step.giveBack detached 0 (.attach 0) (.ok ()) rfl
    (.tail _ (.head _)))
  have connecting := placed.next
    (.move ⟨0, 0, .signal .connect⟩ trivial (.signal .connect rfl trivial))
  have opened : Run detached (overtaken.take 3)
      (reattached (.crowded 0 [] none) attentive (.returned (.ok ())) (.returned (.ok ()))) :=
    connecting.next (.move ⟨1, 0, .signal .opened⟩ trivial (.signal .opened rfl rfl))
  have queued : Run detached (overtaken.take 4)
      (reattached (.crowded 1 [.token "a"] none) attentive (.returned (.ok ()))
        (.returned (.ok ()))) :=
    opened.next (.move ⟨2, 0, .payload tokenA⟩ trivial token_queued)
  have heard := queued.next (@Step.take _ _ _ (.event (.token "a")) stamp
    ⟨0, _, _, rfl, rfl, rfl⟩ rfl)
  exact heard

/-- The call to detach has come back and no call to attach begins, but an event changes the
conversation, since an attach was on its way. -/
theorem overtaken_heard :
    Run (.new .standard none (some 1) none) overtaking crossed ∧
      Step crossed (.returned 1 (.ok ())) detached ∧
      Run detached overtaken overheard ∧ (∀ incident ∈ overtaken, ¬incident.OffersQueue) ∧
      .took stamp (.event (.token "a")) ∈ overtaken ∧
      detached.session.state.messages = [] ∧
      overheard.session.state.messages = [.reply stamp "a"] := by
  have back : Step crossed (.returned 1 (.ok ())) detached := .giveBack rfl (.head _)
  refine ⟨overtaking_run, back, overtaken_run, ?_, by simp [overtaken], rfl, rfl⟩
  simp [overtaken, Incident.OffersQueue]

end Junction

end LiveChat.Session
