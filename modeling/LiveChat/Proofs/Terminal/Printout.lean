import LiveChat.Proofs.Terminal.Snapshots

/-!
What a conversation without calls looks like in the end. However its snapshots were chosen, the
pieces that were printed for them make up the text that printing every message once would give, as
long as no snapshot is so late that the message that was open before it is gone.
-/

set_option autoImplicit false

namespace LiveChat.Conversation

/-- Only what is said comes of it: no calls, no records of the past and no new start. -/
def Action.Verbal : Action → Prop
  | .send _ => True
  | .sendAccepted _ _ => True
  | .sendFailed _ => True
  | .token _ => True
  | .done _ => True
  | _ => False

/-- Nothing is attached to the message. -/
def Message.Bare (message : Message) : Prop := message.tools = [] ∧ message.cards = []

namespace State

variable {state : State} {action : Action}

theorem append_bare {earlier : List Message} {message : Message}
    (bare : ∀ old ∈ earlier, old.Bare) (last : message.Bare) :
    ∀ other ∈ earlier ++ [message], other.Bare :=
  List.forall_mem_append.mpr ⟨bare, List.forall_mem_singleton.mpr last⟩

theorem finalize_bare (serverId : Option String) (bare : ∀ old ∈ state.messages, old.Bare) :
    ∀ message ∈ (state.finalize serverId).messages, message.Bare := by
  intro message member
  obtain ⟨old, inside, same⟩ := List.mem_map.mp member
  split at same
  · rw [← same]
    exact bare old inside
  · rw [← same]
    exact bare old inside

theorem perform_bare (stamp : Message.Stamp) (verbal : action.Verbal)
    (bare : ∀ message ∈ state.messages, message.Bare) :
    ∀ message ∈ (state.perform stamp action).1.messages, message.Bare := by
  cases action with
  | send text =>
      simp only [perform, send]
      split
      · exact bare
      · exact append_bare bare ⟨rfl, rfl⟩
  | sendAccepted localId serverId =>
      simp only [perform, accept]
      split
      · intro message member
        rcases update_last_mem member with same | ⟨old, inside, _, rfl⟩
        · exact bare message same
        · exact bare old inside
      · exact bare
  | sendFailed error => exact append_bare (finalize_bare none bare) ⟨rfl, rfl⟩
  | token text =>
      simp only [perform, token]
      split
      · next reply arriving =>
        split
        · exact bare
        · have before := bare reply (List.mem_of_getLast? (open_reply_last arriving).1)
          exact append_bare (fun old member => bare old (List.dropLast_subset _ member)) before
      · split
        · exact bare
        · exact append_bare bare ⟨rfl, rfl⟩
  | done messageId => exact finalize_bare _ bare
  | _ => exact verbal.elim

end State

namespace Chronicle

variable {earlier later chronicle : Chronicle} {entry : Message.Stamp × Action}

theorem verbal_keeps {action : Action} (verbal : action.Verbal) : action.replaces = false := by
  cases action with
  | loadHistory records => exact verbal.elim
  | clear => exact verbal.elim
  | _ => rfl

theorem after_bare (verbal : entry.2.Verbal) (bare : ∀ message ∈ chronicle.all, message.Bare) :
    ∀ message ∈ (chronicle.after entry).all, message.Bare := by
  have held : ∀ message ∈ chronicle.state.messages, message.Bare :=
    fun message member => bare message (List.mem_append_right _ member)
  intro message member
  rw [after_all, verbal_keeps verbal] at member
  rcases List.mem_append.mp member with gone | made
  · exact bare message (List.mem_append_left _ gone)
  · exact State.perform_bare entry.1 verbal held message made

theorem script_bare {script : List (Message.Stamp × Action)}
    (verbal : ∀ entry ∈ script, entry.2.Verbal) :
    ∀ message ∈ (ofScript script).all, message.Bare :=
  List.foldlRecOn (motive := fun chronicle : Chronicle => ∀ message ∈ chronicle.all, message.Bare)
    script after nofun fun _ bare entry member => after_bare (verbal entry member) bare

theorem verbal_continues {rest : List (Message.Stamp × Action)}
    (verbal : ∀ entry ∈ rest, entry.2.Verbal) : Continues chronicle (rest.foldl after chronicle) := by
  induction rest generalizing chronicle with
  | nil => exact continues_self chronicle
  | cons entry rest induction =>
      obtain ⟨here, others⟩ := List.forall_mem_cons.mp verbal
      exact continues_trans (after_continues chronicle (verbal_keeps here)) (induction others)

/-- Of all that was added only the last message can still be arriving, and that is a reply. -/
theorem all_orderly (sheds : chronicle.Sheds) : Quiet chronicle.all.dropLast := by
  intro message member
  by_cases empty : chronicle.state.messages = []
  · rw [all, empty, List.append_nil] at member
    exact sheds.quiet message (List.dropLast_subset _ member)
  · rw [all, List.dropLast_append_of_ne_nil empty] at member
    rcases List.mem_append.mp member with gone | held
    · exact sheds.quiet message gone
    · exact chronicle.orderly.earlier message held

theorem streaming_agent (sheds : chronicle.Sheds) {message : Message}
    (member : message ∈ chronicle.all) (streaming : message.streaming = true) :
    message.role = .agent := by
  rcases List.mem_append.mp member with gone | held
  · rw [sheds.quiet message gone] at streaming
    cases streaming
  · rcases State.mem_messages held with before | last
    · rw [chronicle.orderly.earlier message before] at streaming
      cases streaming
    · exact (chronicle.orderly.last message last streaming).1

/-- The messages from an index on are held if the first that is held is not after it. -/
theorem drop_all {index : Nat} (older : chronicle.state.base ≤ index) :
    chronicle.state.messages.drop (index - chronicle.state.base) = chronicle.all.drop index := by
  have gone : chronicle.gone.length ≤ index := by rwa [← base_gone]
  rw [all, base_gone, List.drop_append, List.drop_eq_nil_of_le gone, List.nil_append]

/-- What was added last is still held if not too many messages were added after it. -/
theorem close_base (sheds : later.Sheds)
    (close : later.state.appended < earlier.state.appended + maxMessages) :
    later.state.base ≤ earlier.state.appended - 1 := by
  rw [base_gone]
  by_cases kept : later.gone = []
  · rw [kept]
    exact Nat.zero_le _
  · have full := sheds.full kept
    have counted := later.counted
    omega

end Chronicle

end LiveChat.Conversation

namespace LiveChat.Terminal

open Conversation

namespace Renderer

/-- A message as it is printed by itself. -/
def line (message : Message) : String :=
  roleLabel message.role ++ " " ++ message.content ++ (if message.streaming then "" else "\n")

/-- The messages, each printed once. -/
def printout (messages : List Message) : String := String.join (messages.map line)

variable {renderer : Renderer} {state : State} {shown : OpenMessage} {message : Message}
variable {earlier later : Chronicle}

theorem printout_append (first second : List Message) :
    printout (first ++ second) = printout first ++ printout second := by
  rw [printout, List.map_append, String.join_append]
  rfl

/-! One message. -/

theorem attachments_bare (bare : message.Bare) : attachments message = "" := by
  simp [attachments, bare.1, bare.2]

theorem continued_bare {rest : List Char} (bare : message.Bare)
    (found : afterOctets? shown.printedSize message.content.toList = some rest) :
    (continued shown message).1 =
      String.ofList rest ++ (if message.streaming then "" else "\n") := by
  simp only [continued, found, bare.1, attachments_bare bare, List.drop_nil, List.map_nil,
    String.join_nil, String.append_empty]
  split <;> simp

theorem started_bare (index : Nat) (bare : message.Bare)
    (agent : message.streaming = true → message.role = .agent) :
    (started index message).1 = line message := by
  have all : afterOctets? message.content.utf8ByteSize message.content.toList = some [] :=
    after_octets_text (List.append_nil _).symm
  cases streaming : message.streaming with
  | true =>
      have opened := message.open_reply_iff.mpr ⟨streaming, agent streaming⟩
      simp only [started, opened, if_true, line, streaming]
      rw [continued_bare bare all, if_pos streaming]
      simp
  | false =>
      have closed : message.isOpenReply = false := by simp [Message.isOpenReply, streaming]
      simp [started, closed, line, streaming, attachments_bare bare]

theorem start_all_bare (index : Nat) (out : String) (shown : Option OpenMessage)
    {messages : List Message} (bare : ∀ message ∈ messages, message.Bare)
    (agent : ∀ message ∈ messages, message.streaming = true → message.role = .agent) :
    (startAll index out shown messages).1 = out ++ printout messages := by
  induction messages generalizing index out shown with
  | nil => simp [startAll, printout]
  | cons message rest induction =>
      obtain ⟨here, others⟩ := List.forall_mem_cons.mp bare
      obtain ⟨hereToo, othersToo⟩ := List.forall_mem_cons.mp agent
      simp only [startAll]
      rw [induction _ _ _ others othersToo, started_bare index here hereToo, printout, printout,
        List.map_cons, String.join_cons, String.append_assoc]

theorem line_settled {old new : Message} (grows : old.Grows new)
    (settled : old.streaming = false) : line new = line old := by
  have still : new.streaming = false := by
    rw [← Bool.not_eq_true]
    intro streaming
    rw [grows.streaming streaming] at settled
    cases settled
  rw [line, line, grows.role, grows.settled settled, still, settled]

/-- What is added to the line of a reply while it arrives and when it is complete. -/
theorem line_grown {old new : Message} {rest : List Char} (grows : old.Grows new)
    (streaming : old.streaming = true)
    (content : new.content.toList = old.content.toList ++ rest) :
    line old ++ (String.ofList rest ++ (if new.streaming then "" else "\n")) = line new := by
  have whole : new.content = old.content ++ String.ofList rest := by
    rw [← String.toList_inj, content, String.toList_append, String.toList_ofList]
  rw [line, line, grows.role, whole, streaming]
  simp [String.append_assoc]

/-! One snapshot. -/

/-- Messages that were complete are printed as they were. -/
theorem settled_lines (continues : Chronicle.Continues earlier later) {count : Nat}
    (inside : count ≤ earlier.all.length) (quiet : Quiet (earlier.all.take count)) :
    printout (later.all.take count) = printout (earlier.all.take count) := by
  have lines : (later.all.take count).map line = (earlier.all.take count).map line := by
    apply List.ext_getElem?
    intro index
    by_cases reached : index < count
    · have found := List.getElem?_eq_getElem (Nat.lt_of_lt_of_le reached inside)
      obtain ⟨new, same, grows⟩ := continues.all index _ found
      have settled : earlier.all[index].streaming = false := by
        apply quiet
        apply List.mem_of_getElem?
        rw [List.getElem?_take_of_lt reached]
        exact found
      rw [List.getElem?_map, List.getElem?_map, List.getElem?_take_of_lt reached,
        List.getElem?_take_of_lt reached, same, found, Option.map_some, Option.map_some,
        line_settled grows settled]
    · have past : ∀ messages : List Message,
          ((messages.take count).map line)[index]? = none := by
        intro messages
        rw [List.getElem?_eq_none_iff, List.length_map, List.length_take]
        omega
      rw [past, past]
  rw [printout, printout, lines]

/-- Nothing was open, so what was printed is the text of the same messages now. -/
theorem closed_resumes (continues : Chronicle.Continues earlier later) (sheds : earlier.Sheds)
    (closed : (upTo earlier.state).open? = none) :
    (upTo earlier.state).resumed? later.state = some ("", none) ∧
      printout earlier.all = printout (later.all.take earlier.all.length) := by
  refine ⟨by rw [resumed?, closed], ?_⟩
  have settled : earlier.state.openReply? = none := by
    rw [State.openReply?, Option.filter_eq_none_iff]
    intro reply last opened
    have opens := up_to_opens last (if_pos opened)
    rw [closed] at opens
    cases opens
  have quiet : Quiet earlier.all := by
    intro message member
    rcases List.mem_append.mp member with gone | held
    · exact sheds.quiet message gone
    · exact State.quiet_of_settled earlier.orderly settled message held
  rw [settled_lines continues (Nat.le_refl _) (by rwa [List.take_length]), List.take_length]

/-- The last message goes on from where it was, and those before it were complete. -/
theorem last_grown {old new : Message} {rest : List Char} {count : Nat}
    (continues : Chronicle.Continues earlier later) (sheds : earlier.Sheds)
    (total : earlier.all.length = count + 1) (there : earlier.all[count]? = some old)
    (here : later.all[count]? = some new) (grows : old.Grows new) (streaming : old.streaming = true)
    (content : new.content.toList = old.content.toList ++ rest) :
    printout earlier.all ++ (String.ofList rest ++ (if new.streaming then "" else "\n")) =
      printout (later.all.take earlier.all.length) := by
  have before : Quiet (earlier.all.take count) := by
    have others := Chronicle.all_orderly sheds
    rwa [List.dropLast_eq_take, total, Nat.add_sub_cancel] at others
  have whole : earlier.all = earlier.all.take count ++ [old] := by
    have parts : earlier.all.take (count + 1) =
        earlier.all.take count ++ earlier.all[count]?.toList := List.take_add_one
    rwa [← total, List.take_length, there] at parts
  have single : ∀ message, printout [message] = line message := by
    intro message
    simp [printout]
  calc printout earlier.all ++ (String.ofList rest ++ (if new.streaming then "" else "\n"))
      = printout (earlier.all.take count) ++
          (line old ++ (String.ofList rest ++ (if new.streaming then "" else "\n"))) := by
        nth_rewrite 1 [whole]
        rw [printout_append, single, String.append_assoc]
    _ = printout (later.all.take count) ++ line new := by
        rw [line_grown grows streaming content, settled_lines continues (by omega) before]
    _ = printout (later.all.take earlier.all.length) := by
        rw [total, List.take_add_one, here, Option.toList_some, printout_append, single]

/-- The reply that was open is printed on, to the end of its line if it is complete. -/
theorem opened_resumes (continues : Chronicle.Continues earlier later) (sheds : earlier.Sheds)
    (bare : ∀ message ∈ later.all, message.Bare)
    (held : later.state.base ≤ earlier.state.appended - 1)
    (opened : (upTo earlier.state).open? = some shown) :
    ∃ grown last, (upTo earlier.state).resumed? later.state = some (grown, last) ∧
      printout earlier.all ++ grown = printout (later.all.take earlier.all.length) := by
  obtain ⟨reply, last, opens⟩ := Option.bind_eq_some_iff.mp opened
  obtain ⟨arriving, same⟩ := opening_some opens
  have index : shown.index = earlier.state.appended - 1 := by rw [same]
  have size : shown.printedSize = reply.content.utf8ByteSize := by rw [same]
  have placed := (Chronicle.last_held earlier).symm.trans last
  have given := Chronicle.held_given placed
  obtain ⟨new, found, grows⟩ := Chronicle.continues_holds continues placed held
  obtain ⟨rest, content⟩ := grows.content
  have sliced : afterOctets? shown.printedSize new.content.toList = some rest :=
    size ▸ after_octets_text content.symm
  have here := ((Chronicle.held_iff later _ _).mp found).2
  have there := ((Chronicle.held_iff earlier _ _).mp placed).2
  have total : earlier.all.length = earlier.state.appended - 1 + 1 := by
    rw [Chronicle.all_length]
    omega
  refine ⟨(continued shown new).1, (continued shown new).2, ?_, ?_⟩
  · rw [resumed?, opened]
    dsimp only
    rw [index, if_neg (Nat.not_lt.mpr held), (State.held_place found).2]
    rfl
  · rw [continued_bare (bare new (List.mem_of_getElem? here)) sliced]
    exact last_grown continues sheds total there here grows (reply.open_reply_iff.mp arriving).1
      content.symm

/-- The messages of before are printed to where they are now. -/
theorem resumes_missing (continues : Chronicle.Continues earlier later) (sheds : earlier.Sheds)
    (bare : ∀ message ∈ later.all, message.Bare)
    (held : later.state.base ≤ earlier.state.appended - 1) :
    ∃ grown last, (upTo earlier.state).resumed? later.state = some (grown, last) ∧
      printout earlier.all ++ grown = printout (later.all.take earlier.all.length) := by
  cases opened : (upTo earlier.state).open? with
  | none =>
      obtain ⟨resumed, same⟩ := closed_resumes continues sheds opened
      exact ⟨"", _, resumed, by rw [String.append_empty, same]⟩
  | some shown => exact opened_resumes continues sheds bare held opened

/-- What is printed for a snapshot is what was missing. -/
theorem render_missing (continues : Chronicle.Continues earlier later) (sheds : earlier.Sheds)
    (shedsLater : later.Sheds) (bare : ∀ message ∈ later.all, message.Bare)
    (close : later.state.appended < earlier.state.appended + maxMessages) :
    ∃ text, (upTo earlier.state).render? later.state = some (text, upTo later.state) ∧
      printout earlier.all ++ text = printout later.all := by
  have held := Chronicle.close_base shedsLater close
  have older : later.state.base ≤ earlier.state.appended := held.trans (Nat.sub_le _ _)
  obtain ⟨grown, last, resumes, reached⟩ := resumes_missing continues sheds bare held
  have kept : (upTo earlier.state).reset later.state = ("", upTo earlier.state) :=
    if_pos continues.epoch
  have first : max (upTo earlier.state).printed later.state.base = earlier.state.appended :=
    max_eq_left older
  have printed : ∀ index, (startAll index ("" ++ grown) last
      (later.all.drop earlier.all.length)).1 =
        grown ++ printout (later.all.drop earlier.all.length) := by
    intro index
    rw [start_all_bare, String.empty_append]
    · exact fun message member => bare message (List.mem_of_mem_drop member)
    · exact fun message member =>
        Chronicle.streaming_agent shedsLater (List.mem_of_mem_drop member)
  obtain ⟨text, rendered, _⟩ := render_continued continues
  have exactly : (upTo earlier.state).render? later.state = _ :=
    render_counted later.messages_le_appended
  rw [rendered, kept, resumes, Option.map_some, first] at exactly
  dsimp only at exactly
  rw [Chronicle.drop_all older, ← Chronicle.all_length] at exactly
  have same : text = _ := congrArg Prod.fst (Option.some.inj exactly)
  refine ⟨text, rendered, ?_⟩
  rw [same, printed, ← String.append_assoc, reached, ← printout_append, List.take_append_drop]

theorem render_again (chronicle : Chronicle) (sheds : chronicle.Sheds)
    (bare : ∀ message ∈ chronicle.all, message.Bare) :
    (upTo chronicle.state).render? chronicle.state = some ("", upTo chronicle.state) := by
  obtain ⟨text, rendered, whole⟩ := render_missing (Chronicle.continues_self chronicle) sheds sheds
    bare (Nat.lt_add_of_pos_right (by decide))
  have blank : text = "" := by
    have lists := congrArg String.toList whole
    rw [String.toList_append, List.append_right_eq_self] at lists
    exact String.toList_inj.mp lists
  rw [rendered, blank]

/-! Snapshots of one run. -/

/-- The pieces for snapshots that were taken in this order, none too late, make up the whole. -/
theorem render_all_missing {script : List (Message.Stamp × Action)}
    (verbal : ∀ entry ∈ script, entry.2.Verbal) {moment : Nat} {moments : List Nat}
    (ordered : (moment :: moments).Pairwise (· ≤ ·))
    (close : (moment :: moments).IsChain fun earlier later =>
      (snapshot script later).appended < (snapshot script earlier).appended + maxMessages) :
    ∃ text, (upTo (snapshot script moment)).renderAll? (moments.map (snapshot script)) =
        some (text, upTo (snapshot script (moments.getLastD moment))) ∧
      printout (Chronicle.ofScript (script.take moment)).all ++ text =
        printout (Chronicle.ofScript (script.take (moments.getLastD moment))).all := by
  induction moments generalizing moment with
  | nil => exact ⟨"", rfl, String.append_empty⟩
  | cons next rest induction =>
      obtain ⟨first, others⟩ := List.pairwise_cons.mp ordered
      obtain ⟨near, further⟩ := List.isChain_cons_cons.mp close
      have run := snapshot_run script (first next List.mem_cons_self)
      have continues : Chronicle.Continues (Chronicle.ofScript (script.take moment))
          (Chronicle.ofScript (script.take next)) := by
        rw [run]
        apply Chronicle.verbal_continues
        intro entry member
        exact verbal entry (List.mem_of_mem_take (List.mem_of_mem_drop member))
      have bare : ∀ message ∈ (Chronicle.ofScript (script.take next)).all, message.Bare :=
        Chronicle.script_bare fun entry member => verbal entry (List.mem_of_mem_take member)
      obtain ⟨text, printed, reached⟩ := render_missing continues (Chronicle.script_sheds _)
        (Chronicle.script_sheds _) bare (by rwa [snapshot_chronicle, snapshot_chronicle])
      rw [snapshot_chronicle, snapshot_chronicle] at printed
      obtain ⟨more, all, whole⟩ := induction others further
      refine ⟨text ++ more, ?_, ?_⟩
      · simp only [List.map_cons, renderAll?, printed, all, Option.bind_eq_bind,
          Option.bind_some, List.getLastD_cons]
      · rw [← String.append_assoc, reached, whole, List.getLastD_cons]

/-- Whatever is said in a conversation, the pieces that a new renderer prints for its snapshots, in
the order in which they were taken, make up what printing every message once gives: all that were
added up to the last snapshot, as they were then or when they were dropped. Printing that snapshot
again gives nothing. -/
theorem snapshots_printed_once (script : List (Message.Stamp × Action)) (moments : List Nat)
    (verbal : ∀ entry ∈ script, entry.2.Verbal) (ordered : moments.Pairwise (· ≤ ·))
    (close : (0 :: moments).IsChain fun earlier later =>
      (snapshot script later).appended < (snapshot script earlier).appended + maxMessages) :
    ∃ renderer,
      new.renderAll? (moments.map (snapshot script)) =
        some (printout (Chronicle.ofScript (script.take (moments.getLastD 0))).all, renderer) ∧
      (Chronicle.ofScript (script.take (moments.getLastD 0))).state =
        snapshot script (moments.getLastD 0) ∧
      renderer.render? (snapshot script (moments.getLastD 0)) = some ("", renderer) := by
  have started : (0 :: moments).Pairwise (· ≤ ·) :=
    List.pairwise_cons.mpr ⟨fun moment _ => Nat.zero_le moment, ordered⟩
  obtain ⟨text, printed, whole⟩ := render_all_missing verbal started close
  have start : printout (Chronicle.ofScript (script.take 0)).all = "" := rfl
  rw [start, String.empty_append] at whole
  have bare : ∀ message ∈ (Chronicle.ofScript (script.take (moments.getLastD 0))).all,
      message.Bare :=
    Chronicle.script_bare fun entry member => verbal entry (List.mem_of_mem_take member)
  have again := render_again _ (Chronicle.script_sheds _) bare
  rw [snapshot_chronicle] at again
  exact ⟨_, whole ▸ printed, snapshot_chronicle script _, again⟩

/-- A reply in two pieces between two sends, the first of which fails. -/
def talk : List (Message.Stamp × Action) :=
  [({ id := "local-1", time := default }, .send "Hi"),
    ({ id := "local-2", time := default }, .token "Hel"),
    ({ id := "local-3", time := default }, .token "lo"),
    ({ id := "local-4", time := default }, .sendFailed "timeout"),
    ({ id := "local-5", time := default }, .send "Bye")]

theorem talk_printout :
    printout (Chronicle.ofScript (talk.take 5)).all =
      "you> Hi\nagent> Hello\n! Failed to send message: timeout\nyou> Bye\n" := by
  rfl

/-- The snapshots with the second piece and with the notice of the failure are left out. -/
theorem talk_printed_once :
    (∀ entry ∈ talk, entry.2.Verbal) ∧ [1, 2, 2, 5].Pairwise (· ≤ ·) ∧
      ([0, 1, 2, 2, 5].IsChain fun earlier later =>
        (snapshot talk later).appended < (snapshot talk earlier).appended + maxMessages) ∧
      ∃ renderer, new.renderAll? ([1, 2, 2, 5].map (snapshot talk)) =
          some ("you> Hi\nagent> Hello\n! Failed to send message: timeout\nyou> Bye\n", renderer) ∧
        renderer.render? (snapshot talk 5) = some ("", renderer) := by
  have verbal : ∀ entry ∈ talk, entry.2.Verbal := by simp [talk, Action.Verbal]
  have ordered : [1, 2, 2, 5].Pairwise (· ≤ ·) := by decide
  have close : [0, 1, 2, 2, 5].IsChain fun earlier later =>
      (snapshot talk later).appended < (snapshot talk earlier).appended + maxMessages := by
    decide
  obtain ⟨renderer, printed, _, again⟩ :=
    snapshots_printed_once talk [1, 2, 2, 5] verbal ordered close
  have text : printout (Chronicle.ofScript (talk.take ([1, 2, 2, 5].getLastD 0))).all = _ :=
    talk_printout
  rw [text] at printed
  exact ⟨verbal, ordered, close, renderer, printed, again⟩

end Renderer

end LiveChat.Terminal
