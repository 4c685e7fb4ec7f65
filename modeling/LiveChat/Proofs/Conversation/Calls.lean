import LiveChat.Proofs.Conversation.Chronicle
import LiveChat.Proofs.Conversation.Tokens
import Mathlib.Data.List.Induction
import Mathlib.Logic.Function.Basic

/-!
The calls of a reply pair up by name, the last that was started with the first result. The search
through all calls for the newest one that is running finds what a stack of each name has on top.
-/

set_option autoImplicit false

namespace LiveChat.Conversation

namespace ToolCall

/-- The call is of this name and still running. -/
def runs (name : String) (call : ToolCall) : Bool := call.tool = name && call.status = .running

def ended (success : Bool) (call : ToolCall) : ToolCall :=
  { call with status := if success then ToolStatus.success else ToolStatus.error }

theorem runs_iff (name : String) (call : ToolCall) :
    call.runs name = true ↔ call.tool = name ∧ call.status = .running := by
  simp [runs]

theorem ended_not_runs (name : String) (success : Bool) (call : ToolCall) :
    (call.ended success).runs name = false := by
  cases success <;> simp [runs, ended]

end ToolCall

/-- Every call is there as it was started, and what it once came to it still is. More may follow. -/
def Lasting (old new : List ToolCall) : Prop :=
  ∀ (index : Nat) (call : ToolCall), old[index]? = some call →
    ∃ now, new[index]? = some now ∧ now.subject = call.subject ∧
      (call.status ≠ .running → now.status = call.status)

/-- The calls of a reply and, by name, the places of those that are running, the newest first. -/
structure Roster where
  calls : List ToolCall
  running : String → List Nat

namespace Roster

def empty : Roster := { calls := [], running := fun _ => [] }

def start (tool : String) (args : Json) (roster : Roster) : Roster :=
  if roster.calls.length < maxTools then
    { calls := roster.calls ++ [{ tool, args := capToolArgs args, status := .running }]
      running := Function.update roster.running tool (roster.calls.length :: roster.running tool) }
  else roster

/-- A result is for the call on top of the stack of its name. -/
def finish (tool : String) (success : Bool) (roster : Roster) : Roster :=
  match roster.running tool with
  | [] => roster
  | place :: others =>
      { calls := roster.calls.modify place (.ended success)
        running := Function.update roster.running tool others }

def after (roster : Roster) : Action → Roster
  | .toolStarted tool args => roster.start tool args
  | .toolFinished tool success => roster.finish tool success
  | _ => roster

def ofTurn (turn : List (Message.Stamp × Action)) : Roster :=
  turn.foldl (fun roster entry => roster.after entry.2) empty

end Roster

/-! Places. -/

/-- The places of the items that pass the test, the last one first. -/
def places {Item : Type} (test : Item → Bool) (items : List Item) : List Nat :=
  ((items.zipIdx.filter fun entry => test entry.1).map (·.2)).reverse

variable {Item : Type} {test : Item → Bool} {change : Item → Item} {items : List Item}

theorem places_concat (test : Item → Bool) (items : List Item) (item : Item) :
    places test (items ++ [item]) =
      if test item then items.length :: places test items else places test items := by
  rw [places, List.zipIdx_append, List.filter_append, List.map_append, List.reverse_append]
  cases passes : test item <;> simp [places, passes]

theorem place_found {place : Nat} (member : place ∈ places test items) :
    ∃ item, items[place]? = some item ∧ test item = true := by
  obtain ⟨⟨item, _⟩, inside, rfl⟩ := List.mem_map.mp (List.mem_reverse.mp member)
  obtain ⟨placed, passes⟩ := List.mem_filter.mp inside
  exact ⟨item, List.mk_mem_zipIdx_iff_getElem?.mp placed, passes⟩

/-- To change the last item that passes is to change the item at the first of the places. -/
theorem update_last_places (test : Item → Bool) (change : Item → Item) (items : List Item) :
    State.updateLast test change items =
      match places test items with
      | [] => items
      | place :: _ => items.modify place change := by
  induction items using List.reverseRecOn with
  | nil => rfl
  | append_singleton items item induction =>
      rw [State.updateLast_append, places_concat]
      cases passes : test item with
      | true =>
          have inside : items.length < (items ++ [item]).length := by simp
          simp [List.modify_eq_take_cons_drop inside]
      | false =>
          simp only [Bool.false_eq_true, if_false, induction]
          cases found : places test items with
          | nil => rfl
          | cons place others =>
              obtain ⟨_, placed, _⟩ := place_found (found ▸ List.mem_cons_self :
                place ∈ places test items)
              obtain ⟨inside, _⟩ := List.getElem?_eq_some_iff.mp placed
              have reached : place < (items ++ [item]).length := by
                rw [List.length_append]
                omega
              dsimp only
              rw [List.modify_eq_take_cons_drop inside, List.modify_eq_take_cons_drop reached,
                List.take_append_of_le_length (by omega), List.getElem_append_left inside,
                List.drop_append_of_le_length (by omega), List.append_assoc, List.cons_append]

/-- What passes no more has lost its place. -/
theorem places_update_last (passed : ∀ item, test (change item) = false) (items : List Item) :
    places test (State.updateLast test change items) = (places test items).tail := by
  induction items using List.reverseRecOn with
  | nil => rfl
  | append_singleton items item induction =>
      rw [State.updateLast_append, places_concat]
      cases passes : test item with
      | true => simp [places_concat, passed]
      | false => simp [places_concat, passes, induction]

/-- The places for another test are the same if nothing that changes passes it. -/
theorem places_update_other {other : Item → Bool}
    (same : ∀ item, test item = true → other (change item) = other item) (items : List Item) :
    places other (State.updateLast test change items) = places other items := by
  have viewed : ∀ items : List Item, places other items = places id (items.map other) := by
    intro items
    induction items using List.reverseRecOn with
    | nil => rfl
    | append_singleton items item induction =>
        rw [List.map_append, List.map_singleton, places_concat, places_concat, induction,
          List.length_map, id]
  rw [viewed, State.update_last_map other test change same, ← viewed]

/-! Rosters. -/

namespace Roster

/-- The stacks have the places of all calls that are running. -/
def Sound (roster : Roster) : Prop :=
  ∀ name, roster.running name = places (ToolCall.runs name) roster.calls

variable {roster : Roster}

theorem empty_sound : empty.Sound := fun _ => rfl

theorem start_sound (tool : String) (args : Json) (sound : roster.Sound) :
    (roster.start tool args).Sound := by
  unfold start
  split
  · intro name
    dsimp only
    rw [places_concat]
    by_cases own : name = tool
    · have passes : ToolCall.runs name { tool, args := capToolArgs args, status := .running } =
          true := by simp [ToolCall.runs, own]
      rw [own] at passes ⊢
      rw [Function.update_self, if_pos passes, sound tool]
    · have fails : ¬ToolCall.runs name { tool, args := capToolArgs args, status := .running } =
          true := by simp [ToolCall.runs, Ne.symm own]
      rw [Function.update_of_ne own, if_neg fails, sound name]
  · exact sound

/-- The call on top of the stack is the last one of its name that is running. -/
theorem finish_calls (tool : String) (success : Bool) (sound : roster.Sound) :
    (roster.finish tool success).calls =
      State.updateLast (ToolCall.runs tool) (.ended success) roster.calls := by
  rw [update_last_places, ← sound tool, finish]
  cases roster.running tool <;> rfl

theorem finish_sound (tool : String) (success : Bool) (sound : roster.Sound) :
    (roster.finish tool success).Sound := by
  intro name
  rw [finish_calls tool success sound]
  by_cases own : name = tool
  · rw [own, places_update_last (ToolCall.ended_not_runs tool success), ← sound tool, finish]
    cases stack : roster.running tool with
    | nil => exact stack
    | cons place others => exact Function.update_self tool others roster.running
  · rw [places_update_other, ← sound name, finish]
    · cases roster.running tool with
      | nil => rfl
      | cons place others => exact Function.update_of_ne own others roster.running
    · intro call passes
      have named := ((call.runs_iff tool).mp passes).1
      have fails : call.runs name = false := by simp [ToolCall.runs, named, Ne.symm own]
      rw [fails, ToolCall.ended_not_runs]

theorem after_sound (action : Action) (sound : roster.Sound) : (roster.after action).Sound := by
  cases action with
  | toolStarted tool args => exact start_sound tool args sound
  | toolFinished tool success => exact finish_sound tool success sound
  | _ => exact sound

theorem of_turn_sound (turn : List (Message.Stamp × Action)) : (ofTurn turn).Sound :=
  List.foldlRecOn turn _ empty_sound fun _ sound entry _ => after_sound entry.2 sound

theorem of_turn_append (earlier later : List (Message.Stamp × Action)) :
    ofTurn (earlier ++ later) =
      later.foldl (fun roster entry => roster.after entry.2) (ofTurn earlier) :=
  List.foldl_append

/-! What becomes of a call. -/

theorem lasting_self (calls : List ToolCall) : Lasting calls calls :=
  fun _ call found => ⟨call, found, rfl, fun _ => rfl⟩

theorem lasting_trans {old middle new : List ToolCall} (first : Lasting old middle)
    (second : Lasting middle new) : Lasting old new := by
  intro index call found
  obtain ⟨between, reached, subject, status⟩ := first index call found
  obtain ⟨now, last, still, settled⟩ := second index between reached
  refine ⟨now, last, still.trans subject, fun done => ?_⟩
  have same := status done
  exact (settled (same ▸ done)).trans same

theorem after_lasting (action : Action) (sound : roster.Sound) :
    Lasting roster.calls (roster.after action).calls := by
  cases action with
  | toolStarted tool args =>
      simp only [after, start]
      split
      · intro index call found
        obtain ⟨inside, _⟩ := List.getElem?_eq_some_iff.mp found
        exact ⟨call, (List.getElem?_append_left inside).trans found, rfl, fun _ => rfl⟩
      · exact lasting_self _
  | toolFinished tool success =>
      simp only [after, finish]
      cases stack : roster.running tool with
      | nil => exact lasting_self _
      | cons place others =>
          intro index call found
          by_cases own : place = index
          · -- Only a call that is running is on a stack.
            obtain ⟨top, placed, passes⟩ := place_found
              (sound tool ▸ stack ▸ List.mem_cons_self : place ∈ places (ToolCall.runs tool) _)
            rw [own, found] at placed
            cases placed
            have running := ((call.runs_iff tool).mp passes).2
            refine ⟨call.ended success, ?_, rfl, fun done => absurd running done⟩
            dsimp only
            rw [List.getElem?_modify, found, Option.map_eq_map, Option.map_some, if_pos own]
          · refine ⟨call, ?_, rfl, fun _ => rfl⟩
            dsimp only
            rw [List.getElem?_modify_ne _ _ own, found]
  | _ => exact lasting_self _

theorem run_lasting (later : List (Message.Stamp × Action)) (sound : roster.Sound) :
    Lasting roster.calls
      (later.foldl (fun roster entry => roster.after entry.2) roster).calls := by
  induction later generalizing roster with
  | nil => exact lasting_self _
  | cons entry rest induction =>
      exact lasting_trans (after_lasting entry.2 sound) (induction (after_sound entry.2 sound))

/-- Whatever is stored of the arguments is within the limit. -/
theorem after_args {action : Action} (counted : action.Counted) (sound : roster.Sound)
    (small : ∀ call ∈ roster.calls, call.args.size ≤ maxToolArgs) :
    ∀ call ∈ (roster.after action).calls, call.args.size ≤ maxToolArgs := by
  cases action with
  | toolStarted tool args =>
      simp only [after, start]
      split
      · intro call member
        rcases List.mem_append.mp member with before | added
        · exact small call before
        · rw [List.mem_singleton.mp added]
          exact cap_tool_args_size_le counted
      · exact small
  | toolFinished tool success =>
      intro call member
      rw [after, finish_calls tool success sound] at member
      rcases State.update_last_mem member with same | ⟨old, inside, _, rfl⟩
      · exact small call same
      · exact small old inside
  | _ => exact small

theorem of_turn_args {turn : List (Message.Stamp × Action)}
    (counted : ∀ entry ∈ turn, entry.2.Counted) :
    ∀ call ∈ (ofTurn turn).calls, call.args.size ≤ maxToolArgs := by
  have both : (ofTurn turn).Sound ∧
      ∀ call ∈ (ofTurn turn).calls, call.args.size ≤ maxToolArgs := by
    refine List.foldlRecOn (motive := fun roster : Roster =>
      roster.Sound ∧ ∀ call ∈ roster.calls, call.args.size ≤ maxToolArgs)
      turn _ ⟨empty_sound, nofun⟩ ?_
    rintro roster ⟨sound, small⟩ entry member
    exact ⟨after_sound entry.2 sound, after_args (counted entry member) sound small⟩
  exact both.2

end Roster

/-! The reply. -/

namespace State

variable {state : State} {reply : Message} {action : Action} {roster : Roster}

theorem after_open (state : State) (entry : Message.Stamp × Action) :
    (state.after entry).openReply? = (state.perform entry.1 entry.2).1.openReply? := by
  rw [after, apply_fst, openReply?, last?, newest_last]
  rfl

theorem set_last_open {next : Message} (opened : next.isOpenReply = true) :
    (state.setLast next).openReply? = some next :=
  open_of_last List.getLast?_concat opened

theorem accept_open (localId serverId : String) (arriving : state.openReply? = some reply) :
    (state.accept localId serverId).openReply? = some reply := by
  obtain ⟨last, streaming, agent⟩ := open_reply_last arriving
  have other : (decide (reply.role = .user) && decide (reply.id = localId)) = false := by
    simp [agent]
  simp only [accept]
  split
  · refine open_of_last ?_ (reply.open_reply_iff.mpr ⟨streaming, agent⟩)
    dsimp only
    rw [← messages_split last, updateLast_append, other, if_neg Bool.false_ne_true, List.getLast?_concat]
  · exact arriving

/-- While a reply arrives it stays the same one, and its calls are those of the roster. -/
theorem after_roster (stamp : Message.Stamp) (arriving : state.openReply? = some reply)
    (lasting : action.Sustains) (sound : roster.Sound) (same : reply.tools = roster.calls) :
    ∃ next, (state.after (stamp, action)).openReply? = some next ∧ next.id = reply.id ∧
      next.timestamp = reply.timestamp ∧ next.tools = (roster.after action).calls := by
  have opened := reply.open_reply_iff.mpr (open_reply_last arriving).2
  rw [after_open]
  cases action with
  | token text =>
      simp only [perform, token, arriving]
      split
      · exact ⟨reply, arriving, rfl, rfl, same⟩
      · exact ⟨_, set_last_open opened, rfl, rfl, same⟩
  | toolStarted tool args =>
      simp only [perform, toolStarted, arriving, Roster.after, Roster.start, ← same]
      split
      · exact ⟨_, set_last_open opened, rfl, rfl, rfl⟩
      · exact ⟨reply, arriving, rfl, rfl, same⟩
  | toolFinished tool success =>
      obtain ⟨last, _, agent⟩ := open_reply_last arriving
      have answered : state.last?.filter (·.role = .agent) = some reply := by
        rw [last, Option.filter_some, if_pos (decide_eq_true agent)]
      simp only [perform, toolFinished, answered]
      refine ⟨_, set_last_open opened, rfl, rfl, ?_⟩
      rw [Roster.after, Roster.finish_calls tool success sound, ← same]
      rfl
  | sendAccepted localId serverId =>
      exact ⟨reply, accept_open localId serverId arriving, rfl, rfl, same⟩
  | _ => exact lasting.elim

theorem run_roster {turn : List (Message.Stamp × Action)} (arriving : state.openReply? = some reply)
    (sustained : ∀ entry ∈ turn, entry.2.Sustains) (sound : roster.Sound)
    (same : reply.tools = roster.calls) :
    ∃ next, (turn.foldl after state).openReply? = some next ∧ next.id = reply.id ∧
      next.timestamp = reply.timestamp ∧
      next.tools = (turn.foldl (fun roster entry => roster.after entry.2) roster).calls := by
  induction turn generalizing state reply roster with
  | nil => exact ⟨reply, arriving, rfl, rfl, same⟩
  | cons entry rest induction =>
      obtain ⟨lasting, others⟩ := List.forall_mem_cons.mp sustained
      simp only [List.foldl_cons]
      obtain ⟨next, opened, id, time, tools⟩ := after_roster entry.1 arriving lasting sound same
      obtain ⟨last, reached, sameId, sameTime, calls⟩ :=
        induction opened others (Roster.after_sound entry.2 sound) tools
      exact ⟨last, reached, sameId.trans id, sameTime.trans time, calls⟩

/-- The reply that a token brings has the calls of the roster, whatever sustains it. -/
theorem token_roster {turn : List (Message.Stamp × Action)} (stamp : Message.Stamp) {text : String}
    (settled : state.openReply? = none) (short : text.utf8ByteSize ≤ maxContent)
    (sustained : ∀ entry ∈ turn, entry.2.Sustains) :
    ∃ reply, (turn.foldl after (state.after (stamp, .token text))).openReply? = some reply ∧
      reply.id = stamp.id ∧ reply.timestamp = stamp.time ∧
      reply.tools = (Roster.ofTurn turn).calls := by
  have brought : (state.after (stamp, .token text)).openReply? = some (.reply stamp text) := by
    rw [after_open]
    simp only [perform, token, settled, if_neg (Nat.not_lt.mpr short)]
    exact open_of_last List.getLast?_concat rfl
  exact run_roster brought sustained Roster.empty_sound rfl

/-- Whatever was done to an empty conversation, a reply that a token brings then has the calls of
the roster until something ends it. No call is ever taken away, moved or renamed, none that has ended
changes again, and whatever is stored of the arguments is within the limit. -/
theorem script_calls_paired (script turn : List (Message.Stamp × Action)) (stamp : Message.Stamp)
    (text : String) (settled : (script.foldl after empty).openReply? = none)
    (short : text.utf8ByteSize ≤ maxContent) (sustained : ∀ entry ∈ turn, entry.2.Sustains) :
    ∃ reply, (turn.foldl after
          ((script.foldl after empty).after (stamp, .token text))).openReply? = some reply ∧
      reply.id = stamp.id ∧ reply.timestamp = stamp.time ∧
      reply.tools = (Roster.ofTurn turn).calls ∧
      (∀ earlier later, turn = earlier ++ later → ∃ old, (earlier.foldl after
          ((script.foldl after empty).after (stamp, .token text))).openReply? = some old ∧
        Lasting old.tools reply.tools) ∧
      ((∀ entry ∈ turn, entry.2.Counted) →
        ∀ call ∈ reply.tools, call.args.size ≤ maxToolArgs) := by
  obtain ⟨reply, arriving, id, time, tools⟩ := token_roster stamp settled short sustained
  refine ⟨reply, arriving, id, time, tools, ?_, ?_⟩
  · rintro earlier later rfl
    have before := (List.forall_mem_append.mp sustained).1
    obtain ⟨old, opened, _, _, calls⟩ := token_roster stamp settled short before
    refine ⟨old, opened, ?_⟩
    rw [calls, tools, Roster.of_turn_append]
    exact Roster.run_lasting later (Roster.of_turn_sound earlier)
  · intro counted
    rw [tools]
    exact Roster.of_turn_args counted

/-- Two calls of one name and one of another, of which the second ends first. -/
def nested : List (Message.Stamp × Action) :=
  [({ id := "local-3", time := default }, .toolStarted "search" (.object [])),
    ({ id := "local-4", time := default }, .toolStarted "search" (.object [])),
    ({ id := "local-5", time := default }, .token " and reading"),
    ({ id := "local-6", time := default }, .toolStarted "read" (.object [])),
    ({ id := "local-7", time := default }, .toolFinished "search" false),
    ({ id := "local-8", time := default }, .toolFinished "write" true),
    ({ id := "local-9", time := default }, .toolFinished "search" true)]

theorem nested_calls :
    (Roster.ofTurn nested).calls =
      [⟨"search", .object [], .success⟩, ⟨"search", .object [], .error⟩,
        ⟨"read", .object [], .running⟩] := by
  rfl

theorem nested_calls_paired :
    (asked.foldl after empty).openReply? = none ∧ "Searching".utf8ByteSize ≤ maxContent ∧
      (∀ entry ∈ nested, entry.2.Sustains) ∧
      ∃ reply, (nested.foldl after ((asked.foldl after empty).after
          ({ id := "local-2", time := default }, .token "Searching"))).openReply? = some reply ∧
        reply.id = "local-2" ∧
        reply.tools = [⟨"search", .object [], .success⟩, ⟨"search", .object [], .error⟩,
          ⟨"read", .object [], .running⟩] := by
  have settled : (asked.foldl after empty).openReply? = none := rfl
  have short : "Searching".utf8ByteSize ≤ maxContent := by decide
  have sustained : ∀ entry ∈ nested, entry.2.Sustains := by simp [nested, Action.Sustains]
  obtain ⟨reply, arriving, id, _, tools, _⟩ :=
    script_calls_paired asked nested _ "Searching" settled short sustained
  exact ⟨settled, short, sustained, reply, arriving, id, tools.trans nested_calls⟩

end State

end LiveChat.Conversation
