import LiveChat.Proofs.Http.Patience
import LiveChat.Rehearsal.World
import Mathlib.Algebra.Order.BigOperators.Group.List

/-!
Calls of the service over HTTP, from the first request to the result. A call sends the same request
again as long as the server asks for patience, three times at most, and waits as it is told; with
the first other reply it is over. Meanwhile others may be served.
-/

set_option autoImplicit false

namespace LiveChat.Rehearsal

open Http
open Session (ServiceError)

/-- The reply to the next request. -/
def Service.next (service : Service) : Reply := service.responses.headD (.failed Service.silence)

/-- What has come of a call: the replies, the requests, and the waits between them in
milliseconds. -/
structure Trail where
  replies : List Reply
  requests : List Request
  waits : List Nat

variable {messages : Url} {call : ChatService.Call} {service after : Service} {retries now : Nat}

/-! One attempt. -/

/-- What follows from the verdict on a reply. -/
def progress (now : Nat) (call : ChatService.Call) (retries : Nat) : Verdict → Progress
  | .retry delay => .waiting (retries + 1) (now + tick delay.nanoseconds)
  | .done outcome => .done (ChatService.finish call outcome)

theorem attempt_eq (service : Service) (messages : Url) (call : ChatService.Call)
    (retries now : Nat) :
    service.attempt messages now call retries =
      (progress now call retries (judge retries service.next),
        { service with
          responses := service.responses.drop 1
          requests := service.requests ++ [ChatService.request messages call] }) := by
  unfold Service.attempt Service.ask Service.next
  cases judge retries (service.responses.headD (.failed Service.silence)) <;> rfl

theorem attempt_requests {made : Progress}
    (attempted : service.attempt messages now call retries = (made, after)) :
    after.requests = service.requests ++ [ChatService.request messages call] := by
  rw [attempt_eq, Prod.mk.injEq] at attempted
  rw [← attempted.2]

theorem tick_of_millis (millis : Nat) :
    tick (Time.Duration.ofMillis millis).nanoseconds = millis := by
  simp only [tick, Time.Duration.ofMillis]
  omega

theorem attempt_waiting {later due : Nat}
    (attempted : service.attempt messages now call retries = (.waiting later due, after)) :
    later = retries + 1 ∧ retries < 3 ∧ service.next.asksPatience = true ∧
      ∃ response, service.next = .answered response ∧ Waits retries response (due - now) := by
  rw [attempt_eq, Prod.mk.injEq] at attempted
  have judged := judge_judged retries service.next
  cases verdict : judge retries service.next with
  | done outcome =>
      rw [verdict] at attempted
      cases attempted.1
  | retry delay =>
      rw [verdict] at attempted judged
      cases judged with
      | again early answered asks waits =>
          cases attempted.1
          rw [tick_of_millis, Nat.add_sub_cancel_left]
          exact ⟨rfl, early, asks, _, answered, waits⟩

theorem attempt_done {result : Except ServiceError ChatService.Result}
    (attempted : service.attempt messages now call retries = (.done result, after)) :
    ∃ outcome, result = ChatService.finish call outcome ∧
      Judged retries service.next (.done outcome) := by
  rw [attempt_eq, Prod.mk.injEq] at attempted
  have judged := judge_judged retries service.next
  cases verdict : judge retries service.next with
  | retry delay =>
      rw [verdict] at attempted
      cases attempted.1
  | done outcome =>
      rw [verdict] at attempted judged
      cases attempted.1
      exact ⟨outcome, rfl, judged⟩

/-! The whole call. -/

/-- A call under way: it was tried so many times, and is tried again once the time is due. -/
inductive Pursuing (messages : Url) (call : ChatService.Call) : Nat → Nat → Trail → Prop where
  | fresh {start : Nat} : Pursuing messages call 0 start ⟨[], [], []⟩
  | again {retries due now later next : Nat} {trail : Trail} {service after : Service}
      {sent : List Request} (pursuing : Pursuing messages call retries due trail)
      (passed : due ≤ now)
      (attempted : service.attempt messages now call retries = (.waiting later next, after))
      (added : after.requests = service.requests ++ sent) :
      Pursuing messages call later next
        ⟨trail.replies ++ [service.next], trail.requests ++ sent, trail.waits ++ [next - now]⟩

/-- A call with its result. -/
inductive Pursuit (messages : Url) (call : ChatService.Call) :
    Trail → Except ServiceError ChatService.Result → Prop where
  | ends {retries due now : Nat} {trail : Trail} {service after : Service} {sent : List Request}
      {result : Except ServiceError ChatService.Result}
      (pursuing : Pursuing messages call retries due trail)
      (passed : due ≤ now)
      (attempted : service.attempt messages now call retries = (.done result, after))
      (added : after.requests = service.requests ++ sent) :
      Pursuit messages call
        ⟨trail.replies ++ [service.next], trail.requests ++ sent, trail.waits⟩ result

/-- Every reply asked for patience, and every wait was as it was told. -/
structure Trail.Patient (messages : Url) (call : ChatService.Call) (retries : Nat)
    (trail : Trail) : Prop where
  few : retries ≤ 3
  replies : trail.replies.length = retries
  asked : ∀ reply ∈ trail.replies, reply.asksPatience = true
  requests : trail.requests = List.replicate retries (ChatService.request messages call)
  count : trail.waits.length = retries
  waits : ∀ {index wait : Nat}, trail.waits[index]? = some wait →
    ∃ response, trail.replies[index]? = some (.answered response) ∧ Waits index response wait

theorem added_request {made : Progress} {sent : List Request}
    (attempted : service.attempt messages now call retries = (made, after))
    (added : after.requests = service.requests ++ sent) :
    sent = [ChatService.request messages call] :=
  List.append_cancel_left (added.symm.trans (attempt_requests attempted))

theorem pursuing_patient {due : Nat} {trail : Trail}
    (pursuing : Pursuing messages call retries due trail) :
    trail.Patient messages call retries := by
  induction pursuing with
  | fresh =>
      exact {
        few := Nat.zero_le 3
        replies := rfl
        asked := nofun
        requests := rfl
        count := rfl
        waits := nofun }
  | @again retries due now later next trail service after sent _ _ attempted added induction =>
      obtain ⟨rfl, early, asks, response, answered, waits⟩ := attempt_waiting attempted
      exact {
        few := early
        replies := by rw [List.length_append, induction.replies, List.length_singleton]
        asked := by
          intro reply member
          rcases List.mem_append.mp member with earlier | last
          · exact induction.asked reply earlier
          · rw [List.mem_singleton.mp last]
            exact asks
        requests := by
          rw [induction.requests, added_request attempted added]
          exact List.replicate_succ'.symm
        count := by rw [List.length_append, induction.count, List.length_singleton]
        waits := by
          intro index wait found
          have together : trail.replies.length = trail.waits.length :=
            induction.replies.trans induction.count.symm
          rcases Nat.lt_or_ge index trail.waits.length with earlier | last
          · rw [List.getElem?_append_left earlier] at found
            rw [List.getElem?_append_left (together ▸ earlier)]
            exact induction.waits found
          · rw [List.getElem?_append_right last, List.getElem?_singleton] at found
            obtain ⟨here, same⟩ := Option.ite_none_right_eq_some.mp found
            have place : index = retries := by
              have count := induction.count
              omega
            rw [List.getElem?_append_right (together ▸ last), together, here,
              ← Option.some.inj same, place]
            exact ⟨response, congrArg some answered, waits⟩ }

/-! The replies of a script are heard one after the other, and then no more. -/

def heard (script : List Reply) : List Reply := script ++ [.failed Service.silence]

/-- How many replies ask for patience before the first that does not. -/
def patience (script : List Reply) : Nat := (script.takeWhile Reply.asksPatience).length

/-- The first reply that does not ask for patience. -/
def decisive (script : List Reply) : Reply :=
  (script.dropWhile Reply.asksPatience).headD (.failed Service.silence)

/-- How a call goes that hears the replies of a script. -/
structure Pursued (messages : Url) (call : ChatService.Call) (script : List Reply) (trail : Trail)
    (result : Except ServiceError ChatService.Result) : Prop where
  requests : trail.requests =
    List.replicate (1 + min 3 (patience script)) (ChatService.request messages call)
  replies : trail.replies = (heard script).take (1 + min 3 (patience script))
  /-- Nothing is sent again but after a reply that asks for patience. -/
  again : ∀ reply ∈ trail.replies.dropLast, reply.asksPatience = true
  count : trail.waits.length = min 3 (patience script)
  waits : ∀ {index wait : Nat}, trail.waits[index]? = some wait →
    ∃ response, trail.replies[index]? = some (.answered response) ∧ Waits index response wait
  total : trail.waits.sum ≤ 90000
  spent : 3 < patience script → ∃ response retryAfter,
    script[3]? = some (.answered response) ∧
      (∀ seconds, retryAfter = some seconds ↔ response.Tells seconds) ∧
      result = .error (.rateLimited retryAfter)
  settled : patience script ≤ 3 → ∃ outcome, Comes (decisive script) outcome ∧
    result = ChatService.finish call outcome

theorem heard_split (script : List Reply) :
    (heard script).takeWhile Reply.asksPatience = script.takeWhile Reply.asksPatience ∧
      (heard script).dropWhile Reply.asksPatience =
        heard (script.dropWhile Reply.asksPatience) := by
  induction script with
  | nil => exact ⟨rfl, rfl⟩
  | cons reply rest induction =>
      rw [heard, List.cons_append]
      cases asks : reply.asksPatience with
      | true =>
          rw [List.takeWhile_cons_of_pos asks, List.takeWhile_cons_of_pos asks,
            List.dropWhile_cons_of_pos asks, List.dropWhile_cons_of_pos asks]
          exact ⟨congrArg _ induction.1, induction.2⟩
      | false =>
          have content : ¬reply.asksPatience = true := by simp [asks]
          rw [List.takeWhile_cons_of_neg content, List.takeWhile_cons_of_neg content,
            List.dropWhile_cons_of_neg content, List.dropWhile_cons_of_neg content]
          exact ⟨rfl, rfl⟩

section

variable {script earlier : List Reply} {last : Reply}
  (start : earlier ++ [last] <+: heard script)
  (asked : ∀ reply ∈ earlier, reply.asksPatience = true)

include start asked

theorem settled_script (content : last.asksPatience = false) :
    patience script = earlier.length ∧ decisive script = last := by
  obtain ⟨rest, parts⟩ := start
  have other : ¬last.asksPatience = true := by simp [content]
  have ⟨taken, dropped⟩ := heard_split script
  rw [← parts, List.append_assoc, List.singleton_append] at taken dropped
  rw [List.takeWhile_append_of_pos asked, List.takeWhile_cons_of_neg other,
    List.append_nil] at taken
  rw [List.dropWhile_append_of_pos asked, List.dropWhile_cons_of_neg other] at dropped
  refine ⟨congrArg List.length taken.symm, ?_⟩
  unfold decisive
  cases left : script.dropWhile Reply.asksPatience with
  | nil =>
      rw [left] at dropped
      exact (List.cons.inj dropped).1.symm
  | cons reply others =>
      rw [left] at dropped
      exact (List.cons.inj dropped).1.symm

theorem spent_script (asks : last.asksPatience = true) :
    earlier.length < patience script ∧ script[earlier.length]? = some last := by
  obtain ⟨rest, parts⟩ := start
  have all : ∀ reply ∈ earlier ++ [last], reply.asksPatience = true := by
    intro reply member
    rcases List.mem_append.mp member with before | here
    · exact asked reply before
    · rw [List.mem_singleton.mp here]
      exact asks
  have taken := (heard_split script).1
  rw [← parts, List.takeWhile_append_of_pos all] at taken
  have place : (script.takeWhile Reply.asksPatience)[earlier.length]? = some last := by
    rw [← taken, List.append_assoc, List.getElem?_append_right (Nat.le_refl _), Nat.sub_self]
    rfl
  obtain ⟨within, _⟩ := List.getElem?_eq_some_iff.mp place
  refine ⟨within, ?_⟩
  rw [← List.takeWhile_append_dropWhile (p := Reply.asksPatience) (l := script),
    List.getElem?_append_left within]
  exact place

end

theorem Trail.Patient.total {trail : Trail} (patient : trail.Patient messages call retries) :
    trail.waits.sum ≤ 90000 := by
  have short : ∀ wait ∈ trail.waits, wait ≤ 30000 := by
    intro wait member
    obtain ⟨index, found⟩ := List.mem_iff_getElem?.mp member
    obtain ⟨response, _, waits⟩ := patient.waits found
    obtain ⟨within, _⟩ := List.getElem?_eq_some_iff.mp found
    have few := patient.few
    have count := patient.count
    exact waits.short (by omega)
  have most : trail.waits.sum ≤ trail.waits.length * 30000 :=
    List.sum_le_card_nsmul trail.waits 30000 short
  have few := patient.few
  have count := patient.count
  omega

theorem pursuit_pursued {script : List Reply} {trail : Trail}
    {result : Except ServiceError ChatService.Result} (start : trail.replies <+: heard script)
    (pursuit : Pursuit messages call trail result) :
    Pursued messages call script trail result := by
  cases pursuit with
  | @ends retries due now trail service after sent result pursuing passed attempted added =>
      have patient := pursuing_patient pursuing
      obtain ⟨outcome, rfl, judged⟩ := attempt_done attempted
      have number := patient.replies
      have few := patient.few
      -- The call has gone on as often as the script allows, whichever way it ends.
      have turns : min 3 (patience script) = retries := by
        cases judged with
        | final content comes =>
            have settled := (settled_script start patient.asked content).1
            omega
        | spent late answered asks told =>
            have spent := (spent_script start patient.asked asks).1
            omega
      have length : (trail.replies ++ [service.next]).length = 1 + min 3 (patience script) := by
        rw [List.length_append, List.length_singleton, number, turns, Nat.add_comm]
      exact {
        requests := by
          rw [patient.requests, added_request attempted added, turns, Nat.add_comm]
          exact List.replicate_succ'.symm
        replies := by
          rw [← length]
          exact List.prefix_iff_eq_take.mp start
        again := by
          rw [List.dropLast_concat]
          exact patient.asked
        count := patient.count.trans turns.symm
        waits := by
          intro index wait found
          obtain ⟨response, answered, waits⟩ := patient.waits found
          obtain ⟨within, _⟩ := List.getElem?_eq_some_iff.mp answered
          refine ⟨response, ?_, waits⟩
          rw [List.getElem?_append_left within]
          exact answered
        total := patient.total
        spent := by
          intro more
          cases judged with
          | final content comes =>
              have settled := (settled_script start patient.asked content).1
              omega
          | @spent response retryAfter late answered asks told =>
              have place := (spent_script start patient.asked asks).2
              rw [number, answered, show retries = 3 by omega] at place
              exact ⟨response, retryAfter, place, told, rfl⟩
        settled := by
          intro enough
          cases judged with
          | final content comes =>
              have settled := (settled_script start patient.asked content).2
              exact ⟨outcome, settled ▸ comes, rfl⟩
          | spent late answered asks told =>
              have spent := (spent_script start patient.asked asks).1
              omega }

/-! Every script is followed to its end: such a call makes the exchange over the script. -/

section

variable {due : Nat} {trail : Trail} {reply : Reply}
  (pursuing : Pursuing messages call retries due trail)

include pursuing

theorem pursuit_ends {outcome : Except ServiceError Response}
    (verdict : judge retries reply = .done outcome) :
    Pursuit messages call
      ⟨trail.replies ++ [reply], trail.requests ++ [ChatService.request messages call],
        trail.waits⟩ (ChatService.finish call outcome) := by
  let service : Service := { Service.new none with responses := [reply] }
  have attempted := attempt_eq service messages call retries due
  have next : service.next = reply := rfl
  rw [next, verdict] at attempted
  exact .ends pursuing (Nat.le_refl due) attempted rfl

theorem pursuing_again {delay : Time.Duration}
    (verdict : judge retries reply = .retry delay) :
    Pursuing messages call (retries + 1) (due + tick delay.nanoseconds)
      ⟨trail.replies ++ [reply], trail.requests ++ [ChatService.request messages call],
        trail.waits ++ [tick delay.nanoseconds]⟩ := by
  let service : Service := { Service.new none with responses := [reply] }
  have attempted := attempt_eq service messages call retries due
  have next : service.next = reply := rfl
  rw [next, verdict] at attempted
  have again := Pursuing.again pursuing (Nat.le_refl due) attempted rfl
  rwa [Nat.add_sub_cancel_left] at again

theorem exchange_pursuit (script : List Reply) :
    let exchange := Http.exchange Service.silence retries script
    ∃ replies requests, replies <+: heard script ∧ exchange.rest = script.drop replies.length ∧
      Pursuit messages call
        ⟨trail.replies ++ replies, trail.requests ++ requests,
          trail.waits ++ exchange.waits.map fun delay => tick delay.nanoseconds⟩
        (ChatService.finish call exchange.result) := by
  induction script generalizing retries due trail with
  | nil =>
      have silent : judge retries (.failed Service.silence) =
          .done (.error (.request Service.silence)) := rfl
      have ends := pursuit_ends pursuing silent
      refine ⟨_, [ChatService.request messages call], List.prefix_rfl, rfl, ?_⟩
      simp only [Http.exchange, List.map_nil, List.append_nil]
      exact ends
  | cons reply rest induction =>
      cases verdict : judge retries reply with
      | done outcome =>
          have ends := pursuit_ends pursuing verdict
          refine ⟨[reply], [ChatService.request messages call],
            List.prefix_append [reply] (heard rest), ?_, ?_⟩
          · simp only [Http.exchange, verdict]
            rfl
          · simp only [Http.exchange, verdict, List.map_nil, List.append_nil]
            exact ends
      | retry delay =>
          obtain ⟨replies, requests, start, left, pursuit⟩ :=
            induction (pursuing_again pursuing verdict)
          simp only [List.append_assoc, List.singleton_append] at pursuit
          refine ⟨reply :: replies, ChatService.request messages call :: requests,
            List.cons_prefix_cons.mpr ⟨rfl, start⟩, ?_, ?_⟩
          · simp only [Http.exchange, verdict]
            exact left
          · simp only [Http.exchange, verdict, List.map_cons]
            exact pursuit

end

/-- However the service is used meanwhile, a call goes as its script of replies says, and the
exchange over a script is such a call. -/
theorem pursuit_exact (messages : Url) (call : ChatService.Call) (script : List Reply) :
    let exchange := Http.exchange Service.silence 0 script
    (∃ trail, trail.replies <+: heard script ∧
        trail.waits = exchange.waits.map (fun delay => tick delay.nanoseconds) ∧
        Pursuit messages call trail (ChatService.finish call exchange.result)) ∧
      ∀ {trail : Trail} {result : Except ServiceError ChatService.Result},
        trail.replies <+: heard script → Pursuit messages call trail result →
          Pursued messages call script trail result := by
  have fresh : Pursuing messages call 0 0 ⟨[], [], []⟩ := .fresh
  obtain ⟨replies, requests, start, _, pursuit⟩ := exchange_pursuit fresh script
  exact ⟨⟨_, start, rfl, pursuit⟩, pursuit_pursued⟩

def turnedAway (told : String) : Reply :=
  .answered { status := 429, headers := [("Retry-After", told)], body := ⟨[], false⟩ }

/-- Four replies that ask for patience, and one that nobody hears any more. -/
def turningAway : List Reply :=
  [turnedAway "31", turnedAway "Fri, 31 Dec 1999 23:59:59 GMT", turnedAway " +1 ",
    turnedAway "3600", .failed "late"]

def resource : Url :=
  { scheme := "http"
    authority := some { user := "", password := "", host := .domain "localhost", port := none }
    path := .segments ["messages"], query := none, fragment := none }

/-- A long wait is cut, a date is not read, and the fourth number is passed on as it is. -/
theorem turning_away_pursued :
    ∃ trail, trail.replies <+: heard turningAway ∧
      Pursuit resource .history trail (.error (.rateLimited (some 3600))) ∧
      Pursued resource .history turningAway trail (.error (.rateLimited (some 3600))) ∧
      trail.requests = List.replicate 4 (ChatService.request resource .history) ∧
      trail.waits = [30000, 2000, 1000] := by
  have spent : (Http.exchange Service.silence 0 turningAway).result =
      .error (.rateLimited (some 3600)) := rfl
  have told : (Http.exchange Service.silence 0 turningAway).waits =
      [.ofSeconds 30, .ofSeconds 2, .ofSeconds 1] := by decide +kernel
  obtain ⟨⟨trail, start, waits, pursuit⟩, exact⟩ := pursuit_exact resource .history turningAway
  rw [spent] at pursuit
  rw [told] at waits
  have pursued := exact start pursuit
  exact ⟨trail, start, pursuit, pursued, pursued.requests, waits⟩

/-! Those who call: a submission on its way, and the terminal that fetches the records. -/

namespace Job

/-- A job that waits to be tried again has come there by a call that submits its message. -/
def Underway (messages : Url) (job : Job) : Prop :=
  match job.stage with
  | .fresh => True
  | .held _ => False
  | .waiting retries due =>
      ∃ trail, Pursuing messages (.submit job.submission.content) retries due trail
  | .over => True

variable {job : Job}

theorem send_pursues {due : Nat} {trail : Trail}
    (pursuing : Pursuing messages (.submit job.submission.content) retries due trail)
    (passed : due ≤ now) :
    let outcome := job.send service messages now retries
    outcome.1.Underway messages ∧ ∀ action, outcome.2.2 = some action →
      ∃ trail result, Pursuit messages (.submit job.submission.content) trail result ∧
        action = job.outcome (idOf result) := by
  unfold send
  split
  · next later next after attempted =>
    exact ⟨⟨_, .again pursuing passed attempted (attempt_requests attempted)⟩, nofun⟩
  · next result after attempted =>
    refine ⟨trivial, ?_⟩
    rintro _ ⟨⟩
    exact ⟨_, result, .ends pursuing passed attempted (attempt_requests attempted), rfl⟩

theorem advance_pursues (remote : service.remote = some messages)
    (underway : job.Underway messages) :
    let outcome := job.advance service now
    outcome.1.Underway messages ∧ ∀ action, outcome.2.2 = some action →
      ∃ trail result, Pursuit messages (.submit job.submission.content) trail result ∧
        action = job.outcome (idOf result) := by
  obtain ⟨submission, stage⟩ := job
  cases stage with
  | fresh =>
      simp only [advance, remote]
      have fresh : Pursuing messages (.submit submission.content) 0 now ⟨[], [], []⟩ := .fresh
      exact send_pursues fresh (Nat.le_refl now)
  | held reply => exact underway.elim
  | waiting retries due =>
      obtain ⟨trail, pursuing⟩ := underway
      simp only [advance, remote]
      split
      · exact ⟨⟨trail, pursuing⟩, nofun⟩
      · next passed => exact send_pursues pursuing (Nat.le_of_not_lt passed)
  | _ => exact ⟨trivial, nofun⟩

end Job

theorem fetch_turn_pursues {world next : World} {console : Console} {due : Nat} {trail : Trail}
    (remote : world.service.remote = some messages)
    (pursuing : Pursuing messages .history retries due trail)
    (turned : world.fetchTurn retries due console = some next) :
    (∃ service later alarm trail, Pursuing messages .history later alarm trail ∧
        next = { world with service }.setConsole { console with stage := .fetching later alarm }) ∨
      ∃ service trail result, Pursuit messages .history trail result ∧
        next = { world with service }.fetched (recordsOf result) console := by
  unfold World.fetchTurn at turned
  split at turned
  · cases turned
  · next passed =>
    have passed := Nat.le_of_not_lt passed
    rw [remote] at turned
    simp only at turned
    split at turned
    · next later alarm service attempted =>
      cases turned
      exact .inl ⟨service, later, alarm, _,
        .again pursuing passed attempted (attempt_requests attempted), rfl⟩
    · next result service attempted =>
      cases turned
      exact .inr ⟨service, _, result,
        .ends pursuing passed attempted (attempt_requests attempted), rfl⟩

end LiveChat.Rehearsal
