import LiveChat.Proofs.Conversation.Chronicle
import LiveChat.Proofs.Conversation.Records
import LiveChat.Proofs.Session.Serial
import Mathlib.Logic.Relation

/-!
A handle that has the history fetched and loaded, while others go on. What was fetched is loaded
once, or not at all; but the messages are counted in the state that is seen after the answer, so
whatever was added in between counts as well.
-/

set_option autoImplicit false

namespace LiveChat.Conversation.Chronicle

theorem run_kept (chronicle : Chronicle) (rest : List (Message.Stamp × Action))
    (kept : ∀ entry ∈ rest, entry.2.replaces = false) :
    Continues chronicle (rest.foldl after chronicle) := by
  induction rest generalizing chronicle with
  | nil => exact continues_self chronicle
  | cons entry rest induction =>
      have step := after_continues chronicle (kept entry List.mem_cons_self)
      have later : ∀ other ∈ rest, other.2.replaces = false := fun other member =>
        kept other (List.mem_cons_of_mem entry member)
      exact continues_trans step (induction (chronicle.after entry) later)

/-- As many are held as were added since the list was last replaced, up to the limit. -/
theorem script_length (script : List (Message.Stamp × Action)) :
    (ofScript script).state.messages.length = min maxMessages (ofScript script).state.appended := by
  have counted := (ofScript script).counted
  have each : ∀ (before : State) (entry : Message.Stamp × Action), before.Bounded →
      (before.after entry).Bounded :=
    fun before entry _ => State.apply_bounded entry.1 entry.2 before
  have bounded : (ofScript script).state.Bounded := by
    rw [script_state]
    exact State.script_keeps script each (Nat.zero_le _)
  cases gone : (ofScript script).gone with
  | nil =>
      rw [gone, List.length_nil, Nat.zero_add] at counted
      rw [counted, Nat.min_eq_right bounded]
  | cons first rest =>
      have full := (script_sheds script).full (gone ▸ List.cons_ne_nil first rest)
      rw [full, Nat.min_eq_left]
      omega

theorem loaded (chronicle : Chronicle) (stamp : Message.Stamp) (records : List Json) :
    (chronicle.after (stamp, .loadHistory records)).state.messages = ofRecords records := by
  simp only [after, State.after, State.apply_fst, State.perform, State.replace]
  exact newest_few (newest_length _)

/-- After the records, more and more is added to them, unless the list is replaced again. -/
theorem loaded_appended (earlier since : List (Message.Stamp × Action)) (stamp : Message.Stamp)
    (records : List Json) (kept : ∀ entry ∈ since, entry.2.replaces = false) :
    let final := (ofScript (earlier ++ (stamp, .loadHistory records) :: since)).state
    ∃ added, final.appended = (ofRecords records).length + added ∧ (since = [] → added = 0) := by
  let restored := (ofScript earlier).after (stamp, .loadHistory records)
  have parts : ofScript (earlier ++ (stamp, .loadHistory records) :: since) =
      since.foldl after restored := by
    rw [ofScript, List.foldl_append, List.foldl_cons]
    rfl
  have start : restored.state.appended = (ofRecords records).length := by
    rw [← loaded (ofScript earlier) stamp records]
    exact (after_replaced (ofScript earlier) rfl).2
  have grown := continues_appended (run_kept restored since kept)
  rw [start] at grown
  rw [parts]
  refine ⟨(since.foldl after restored).state.appended - (ofRecords records).length, by omega, ?_⟩
  rintro rfl
  rw [List.foldl_nil, start, Nat.sub_self]

end LiveChat.Conversation.Chronicle

namespace LiveChat.Session

open Conversation (Action Chronicle Message maxMessages ofRecords)

namespace Ledger

/-- A step in which this handle calls nothing. -/
structure Elsewhere (handle : Nat) (before after : Ledger) : Prop where
  step : Step before after
  quiet : ∀ command, after ≠ before.call handle command

/-- What others do while this handle waits. -/
def Meanwhile (handle : Nat) : Ledger → Ledger → Prop := Relation.ReflTransGen (Elsewhere handle)

/-- A handle fetches the history and loads it, and gives the number of messages that it then sees.
Between any two of its own steps others may do what they like. -/
inductive Refreshed (handle : Nat) (start : Ledger) :
    Except ServiceError (List Json) → Ledger → Except SessionError Nat → Prop where
  | unfetched {error : ServiceError} {finish : Ledger}
      (fetching : Meanwhile handle start finish) :
      Refreshed handle start (.error error) finish (.error (.service error))
  | refused {records : List Json} {fetched finish : Ledger}
      (fetching : Meanwhile handle start fetched)
      (loading : Meanwhile handle (fetched.call handle (.dispatch (.loadHistory records))) finish)
      (answer : (fetched.calls.length, .error .closed) ∈ finish.returned) :
      Refreshed handle start (.ok records) finish (.error .closed)
  | counted {records : List Json} {fetched finish : Ledger}
      (fetching : Meanwhile handle start fetched)
      (loading : Meanwhile handle (fetched.call handle (.dispatch (.loadHistory records))) finish)
      (answer : (fetched.calls.length, .ok ()) ∈ finish.returned) :
      Refreshed handle start (.ok records) finish (.ok finish.session.state.messages.length)

/-- The handle has made this call since. -/
def MadeSince (handle : Nat) (start finish : Ledger) (number : Nat) : Prop :=
  start.calls.length ≤ number ∧ ∃ command, finish.calls[number]? = some ⟨handle, command⟩

variable {handle : Nat} {start before after ledger : Ledger}

theorem call_calls (handle : Nat) (command : Command) (ledger : Ledger) :
    (ledger.call handle command).calls = ledger.calls ++ [⟨handle, command⟩] := by
  rw [call_frame]

theorem elsewhere_calls (elsewhere : Elsewhere handle before after) :
    ∃ others, after.calls = before.calls ++ others ∧ ∀ call ∈ others, call.handle ≠ handle := by
  obtain ⟨step, quiet⟩ := elsewhere
  cases step with
  | call other command =>
      refine ⟨[⟨other, command⟩], call_calls other command before, ?_⟩
      rintro call member rfl
      rw [List.mem_singleton.mp member] at quiet
      exact quiet command rfl
  | _ => exact ⟨[], (List.append_nil _).symm, nofun⟩

theorem meanwhile_calls (meanwhile : Meanwhile handle before after) :
    ∃ others, after.calls = before.calls ++ others ∧ ∀ call ∈ others, call.handle ≠ handle := by
  induction meanwhile with
  | refl => exact ⟨[], (List.append_nil _).symm, nofun⟩
  | tail _ elsewhere induction =>
      obtain ⟨first, earlier, others⟩ := induction
      obtain ⟨second, later, strangers⟩ := elsewhere_calls elsewhere
      refine ⟨first ++ second, by rw [later, earlier, List.append_assoc], ?_⟩
      intro call member
      rcases List.mem_append.mp member with old | new
      · exact others call old
      · exact strangers call new

theorem meanwhile_reached (reached : Reached before) (meanwhile : Meanwhile handle before after) :
    Reached after := by
  induction meanwhile with
  | refl => exact reached
  | tail _ elsewhere induction => exact .next induction elsewhere.step

variable {finish fetched : Ledger} {number : Nat}

theorem loading_reached {command : Command} (reached : Reached start)
    (fetching : Meanwhile handle start fetched)
    (loading : Meanwhile handle (fetched.call handle command) finish) : Reached finish :=
  meanwhile_reached (.next (meanwhile_reached reached fetching) (.call handle command)) loading

theorem made_nowhere (meanwhile : Meanwhile handle start finish) (number : Nat) :
    ¬MadeSince handle start finish number := by
  rintro ⟨late, command, found⟩
  obtain ⟨others, whole, strangers⟩ := meanwhile_calls meanwhile
  rw [whole, List.getElem?_append_right late] at found
  exact strangers _ (List.mem_of_getElem? found) rfl

theorem call_stays {command : Command}
    (loading : Meanwhile handle (fetched.call handle command) finish) :
    ∃ later, finish.calls = fetched.calls ++ ⟨handle, command⟩ :: later ∧
      ∀ call ∈ later, call.handle ≠ handle := by
  obtain ⟨later, whole, others⟩ := meanwhile_calls loading
  rw [call_calls, List.append_assoc, List.singleton_append] at whole
  exact ⟨later, whole, others⟩

theorem call_found {command : Command}
    (loading : Meanwhile handle (fetched.call handle command) finish) :
    finish.calls[fetched.calls.length]? = some ⟨handle, command⟩ := by
  obtain ⟨later, whole, _⟩ := call_stays loading
  rw [whole, List.getElem?_append_right (Nat.le_refl _), Nat.sub_self]
  rfl

theorem made_once {command : Command} (fetching : Meanwhile handle start fetched)
    (loading : Meanwhile handle (fetched.call handle command) finish) (number : Nat) :
    MadeSince handle start finish number ↔ number = fetched.calls.length := by
  obtain ⟨earlier, before, strangers⟩ := meanwhile_calls fetching
  obtain ⟨later, whole, others⟩ := call_stays loading
  constructor
  · rintro ⟨late, called, found⟩
    rw [whole] at found
    rcases Nat.lt_trichotomy number fetched.calls.length with less | same | more
    · rw [List.getElem?_append_left less, before, List.getElem?_append_right late] at found
      exact absurd rfl (strangers _ (List.mem_of_getElem? found))
    · exact same
    · rw [List.getElem?_append_right more.le] at found
      obtain ⟨beyond, place⟩ : ∃ beyond, number - fetched.calls.length = beyond + 1 :=
        Nat.exists_eq_succ_of_ne_zero (by omega)
      rw [place, List.getElem?_cons_succ] at found
      exact absurd rfl (others _ (List.mem_of_getElem? found))
  · rintro rfl
    have longer : start.calls.length ≤ fetched.calls.length := by
      rw [before, List.length_append]
      exact Nat.le_add_right _ _
    exact ⟨longer, command, call_found loading⟩

/-- The records were loaded once. The count is that of all messages added since the list was last
replaced, up to the limit: of the records and of whatever was added to them, unless they were
replaced in turn. -/
structure Loaded (records : List Json) (number : Nat) (finish : Ledger) (count : Nat) : Prop where
  once : takenFrom (.call number) finish.taken = [.loadHistory records]
  seen : count = min maxMessages finish.session.state.appended
  added : ∃ earlier stamp since,
    finish.taken = earlier ++ ⟨stamp, .loadHistory records, .call number⟩ :: since ∧
      ((∀ entry ∈ since, entry.action.replaces = false) →
        ∃ added, finish.session.state.appended = (ofRecords records).length + added ∧
          (since = [] → added = 0))

/-- What a result tells about the calls that the handle made for it. -/
inductive Reports (handle : Nat) (start finish : Ledger) :
    Except ServiceError (List Json) → Except SessionError Nat → Prop where
  | unfetched {error : ServiceError}
      (unmade : ∀ number, ¬MadeSince handle start finish number) :
      Reports handle start finish (.error error) (.error (.service error))
  | refused {records : List Json} {number : Nat}
      (only : ∀ other, MadeSince handle start finish other ↔ other = number)
      (untaken : takenFrom (.call number) finish.taken = []) :
      Reports handle start finish (.ok records) (.error .closed)
  | counted {records : List Json} {number count : Nat}
      (only : ∀ other, MadeSince handle start finish other ↔ other = number)
      (loaded : Loaded records number finish count) :
      Reports handle start finish (.ok records) (.ok count)

theorem reached_length (reached : Reached finish) :
    finish.session.state.messages.length = min maxMessages finish.session.state.appended := by
  rw [(reached_serial reached).folded.state, ← Chronicle.script_state]
  exact Chronicle.script_length _

theorem once_loaded {records : List Json} (reached : Reached finish)
    (once : takenFrom (.call number) finish.taken = [.loadHistory records]) :
    Loaded records number finish finish.session.state.messages.length := by
  refine ⟨once, reached_length reached, ?_⟩
  obtain ⟨earlier, entry, since, parts, _, same, _⟩ := List.filterMap_eq_cons_iff.mp once
  obtain ⟨stamp, action, source⟩ := entry
  obtain ⟨rfl, taken⟩ := Option.ite_none_right_eq_some.mp same
  cases taken
  refine ⟨earlier, stamp, since, parts, fun kept => ?_⟩
  let row := fun entry : Entry => (entry.stamp, entry.action)
  have state := (reached_serial reached).folded.state
  rw [parts, List.map_append, List.map_cons, ← Chronicle.script_state] at state
  have kept : ∀ entry ∈ since.map row, entry.2.replaces = false := by
    intro entry member
    obtain ⟨taken, inside, rfl⟩ := List.mem_map.mp member
    exact kept taken inside
  obtain ⟨added, appended, unmoved⟩ :=
    Chronicle.loaded_appended (earlier.map row) (since.map row) stamp records kept
  rw [state]
  exact ⟨added, appended, fun alone => unmoved (alone ▸ rfl)⟩

/-- If nothing could be fetched, or the session is closed, nothing was loaded for the handle. Else
its one call was carried out once, and the result counts the records and all that was added to them
until it was read. -/
theorem refreshed_reports {fetched : Except ServiceError (List Json)}
    {result : Except SessionError Nat} (reached : Reached start)
    (refreshed : Refreshed handle start fetched finish result) :
    Reports handle start finish fetched result := by
  cases refreshed with
  | unfetched fetching => exact .unfetched (made_nowhere fetching)
  | @refused records fetched _ fetching loading answer =>
      have late := loading_reached reached fetching loading
      exact .refused (made_once fetching loading) ((reached_serial late).refused _ answer)
  | @counted records fetched _ fetching loading answer =>
      have late := loading_reached reached fetching loading
      have once := (reached_serial late).carriedOut _ _ (call_found loading) answer
      exact .counted (made_once fetching loading) (once_loaded late once)

theorem elsewhere_of_calls (step : Step before after) (same : after.calls = before.calls) :
    Elsewhere handle before after := by
  refine ⟨step, fun command called => ?_⟩
  have longer := congrArg (fun ledger => ledger.calls.length) called
  simp only [call_calls, same, List.length_append, List.length_singleton] at longer
  omega

/-- Nothing was fetched, but the notice of a failed submission comes in before the count. -/
theorem crowded_refresh : ∃ finish, Refreshed 0 new (.ok []) finish (.ok 1) := by
  let stamp : Message.Stamp := { id := "1", time := default }
  let asked := new.call 0 (.dispatch (.loadHistory []))
  have reported : Meanwhile 0 asked _ :=
    .single (elsewhere_of_calls (.report (.sendFailed "timed out")) rfl)
  have restored := reported.tail
    (elsewhere_of_calls (@Step.take _ _ _ .nothing stamp trivial rfl) rfl)
  obtain ⟨finish, noticed, answer, one⟩ : ∃ finish, Meanwhile 0 asked finish ∧
      (0, .ok ()) ∈ finish.returned ∧ finish.session.state.messages.length = 1 :=
    ⟨_, restored.tail (elsewhere_of_calls (@Step.take _ _ _ .nothing stamp trivial rfl) rfl),
      List.mem_cons_self, by decide +kernel⟩
  exact ⟨finish, one ▸ .counted .refl noticed answer⟩

theorem crowded_refresh_reports :
    Reached new ∧ ∃ finish, Refreshed 0 new (.ok []) finish (.ok 1) ∧
      Reports 0 new finish (.ok []) (.ok 1) := by
  obtain ⟨finish, refreshed⟩ := crowded_refresh
  exact ⟨.start, finish, refreshed, refreshed_reports .start refreshed⟩

/-- The count is not always that of the records. -/
theorem refresh_miscounts :
    ¬∀ (handle : Nat) (start finish : Ledger) (records : List Json) (count : Nat), Reached start →
      Refreshed handle start (.ok records) finish (.ok count) →
        count = (ofRecords records).length := by
  intro counts
  obtain ⟨finish, refreshed⟩ := crowded_refresh
  have one := counts 0 new finish [] 1 .start refreshed
  revert one
  decide

end Ledger

end LiveChat.Session
