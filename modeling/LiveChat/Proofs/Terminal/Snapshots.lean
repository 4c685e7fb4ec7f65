import LiveChat.Proofs.Conversation.Chronicle
import LiveChat.Terminal.Renderer

/-!
Printing the snapshots of a conversation. Whatever happened between two of them, the renderer knows
the later one by what it remembers of the earlier one: the count of what was added, and the last
message if that is a reply that was still arriving.
-/

set_option autoImplicit false

namespace LiveChat.Terminal

open Conversation
open Text.Utf8 (size)

namespace Renderer

variable {renderer : Renderer} {state : State} {shown : OpenMessage} {message : Message}
variable {earlier later : Chronicle}

/-- What is remembered of a message at this place once all of it is printed. -/
def opening (index : Nat) (message : Message) : Option OpenMessage :=
  if message.isOpenReply then
    some ⟨index, message.content.utf8ByteSize, message.tools.length⟩
  else none

/-- Everything in the conversation is printed. -/
def upTo (state : State) : Renderer :=
  { epoch := state.epoch, printed := state.appended,
    open? := state.last?.bind (opening (state.appended - 1)) }

/-- The rest of the message that is open, or the end of its line if the message was dropped. -/
def resumed? (renderer : Renderer) (state : State) : Option (String × Option OpenMessage) :=
  match renderer.open? with
  | none => some ("", none)
  | some shown =>
      if shown.index < state.base then some ("\n", none)
      else (state.messages[shown.index - state.base]?).map (continued shown)

/-- The snapshots one after the other. -/
def renderAll? (renderer : Renderer) : List State → Option (String × Renderer)
  | [] => some ("", renderer)
  | state :: rest => do
      let (text, next) ← renderer.render? state
      let (more, last) ← next.renderAll? rest
      some (text ++ more, last)

/-- The conversation when this many actions of the script were carried out. -/
def snapshot (script : List (Message.Stamp × Action)) (moment : Nat) : State :=
  (script.take moment).foldl State.after State.empty

/-- A snapshot is printed after another one without a look-up that fails, and of what it holds
nothing is left out: a message that is new is printed with all of its content, and of every other
one what was added to its content. -/
structure Finds (renderer : Renderer) (before state : State) (text : String) : Prop where
  counted : state.messages.length ≤ state.appended
  fresh : ∀ index, max (renderer.reset state).2.printed state.base ≤ index →
    index < state.appended →
      ∃ message, state.messages[index - state.base]? = some message ∧
        afterOctets? message.content.utf8ByteSize message.content.toList = some [] ∧
        message.content.toList <:+: text.toList
  resumed : ∀ shown, (renderer.reset state).2.open? = some shown → state.base ≤ shown.index →
    ∃ message rest, state.messages[shown.index - state.base]? = some message ∧
      afterOctets? shown.printedSize message.content.toList = some rest ∧ rest <+: text.toList
  whole : state.epoch = before.epoch → ∀ index old new, before.held? index = some old →
    state.held? index = some new →
      ∃ rest, new.content.toList = old.content.toList ++ rest ∧ rest <+: text.toList

/-! One message. -/

theorem after_octets_append (start rest : List Char) :
    afterOctets? (size start) (start ++ rest) = some rest := by
  induction start with
  | nil => simp only [size, List.nil_append, afterOctets?]
  | cons char start induction =>
      obtain ⟨more, wide⟩ := Nat.exists_eq_add_one.mpr char.utf8Size_pos
      have whole : size (char :: start) = more + size start + 1 := by
        rw [size, wide]
        omega
      have left : more + size start + 1 - char.utf8Size = size start := by omega
      rw [whole, List.cons_append, afterOctets?, if_pos (by omega), left]
      exact induction

theorem after_octets_text {old new : String} {rest : List Char}
    (grown : new.toList = old.toList ++ rest) :
    afterOctets? old.utf8ByteSize new.toList = some rest := by
  rw [grown, ← String.ofList_toList (s := old), Text.Utf8.size_of_list, String.toList_ofList]
  exact after_octets_append old.toList rest

theorem continued_opens {rest : List Char}
    (found : afterOctets? shown.printedSize message.content.toList = some rest) :
    (continued shown message).2 =
      if message.streaming then
        some ⟨shown.index, message.content.utf8ByteSize, message.tools.length⟩
      else none := by
  simp only [continued, found]
  split <;> rfl

theorem continued_text {rest : List Char}
    (found : afterOctets? shown.printedSize message.content.toList = some rest) :
    rest <+: (continued shown message).1.toList := by
  simp only [continued, found]
  split
  · simp [List.prefix_append]
  · simp [List.prefix_append]

theorem started_opens (index : Nat) (message : Message) :
    (started index message).2 = opening index message := by
  have all : afterOctets? message.content.utf8ByteSize message.content.toList = some [] :=
    after_octets_text (List.append_nil _).symm
  simp only [started, opening]
  split
  · next arriving =>
    have streaming := ((message.open_reply_iff).mp arriving).1
    exact (continued_opens all).trans (if_pos streaming)
  · rfl

/-- Of several messages the last one alone can be open. -/
theorem start_all_opens (index : Nat) (out : String) (shown : Option OpenMessage)
    {messages : List Message} (quiet : Quiet messages.dropLast) :
    (startAll index out shown messages).2 =
      (messages.getLast?.bind (opening (index + messages.length - 1))).or shown := by
  induction messages generalizing index out shown with
  | nil => rfl
  | cons message rest induction =>
      simp only [startAll, started_opens]
      cases rest with
      | nil =>
          cases opened : opening index message <;> simp [startAll, opened]
      | cons next rest =>
          have settled : opening index message = none := by
            simp [opening, Message.isOpenReply, quiet message List.mem_cons_self]
          have others : Quiet (next :: rest).dropLast := fun other member =>
            quiet other (List.mem_cons_of_mem _ member)
          have places : index + 1 + (next :: rest).length - 1 =
              index + (message :: next :: rest).length - 1 := by
            simp only [List.length_cons]
            omega
          rw [settled, induction _ _ _ others, places, List.getLast?_cons_cons]
          rfl

theorem infix_append (before text after : String) :
    text.toList <:+: (before ++ text ++ after).toList := by
  rw [String.toList_append, String.toList_append]
  exact List.infix_append _ _ _

theorem started_content (index : Nat) (message : Message) :
    message.content.toList <:+: (started index message).1.toList := by
  unfold started
  split
  · exact infix_append _ _ _
  · dsimp only
    rw [String.append_assoc]
    exact infix_append _ _ _

theorem start_all_text (index : Nat) (out : String) (shown : Option OpenMessage)
    (messages : List Message) :
    out.toList <+: (startAll index out shown messages).1.toList ∧
      ∀ message ∈ messages,
        message.content.toList <:+: (startAll index out shown messages).1.toList := by
  induction messages generalizing index out shown with
  | nil => exact ⟨List.prefix_rfl, nofun⟩
  | cons message rest induction =>
      obtain ⟨before, others⟩ := induction (index + 1) (out ++ (started index message).1)
        (if (started index message).2.isSome then (started index message).2 else shown)
      rw [String.toList_append] at before
      refine ⟨(List.prefix_append _ _).trans before, ?_⟩
      intro other member
      rcases List.mem_cons.mp member with rfl | later
      · have inside := started_content index other
        exact inside.trans ((List.suffix_append _ _).isInfix.trans before.isInfix)
      · exact others other later

/-! One snapshot. -/

theorem render_counted (counted : state.messages.length ≤ state.appended) :
    renderer.render? state = ((renderer.reset state).2.resumed? state).map fun (grown, shown) =>
      let first := max (renderer.reset state).2.printed state.base
      let (text, last) := startAll first ((renderer.reset state).1 ++ grown) shown
        (state.messages.drop (first - state.base))
      (text, { (renderer.reset state).2 with printed := state.appended, open? := last }) := by
  have base : state.appended - state.messages.length = state.base := rfl
  simp only [render?, resumed?, base, if_neg (Nat.not_lt.mpr counted)]
  cases (renderer.reset state).2.open? with
  | none => rfl
  | some shown =>
      dsimp only
      by_cases dropped : shown.index < state.base
      · rw [if_pos dropped, if_pos dropped]
        rfl
      · rw [if_neg dropped, if_neg dropped]
        cases state.messages[shown.index - state.base]? <;> rfl

theorem reset_epoch (renderer : Renderer) (state : State) :
    (renderer.reset state).2.epoch = state.epoch := by
  unfold reset
  split
  · next same => exact same.symm
  · rfl

/-- The last of the messages that are printed anew is the last one of all, if there is one. -/
theorem fresh_opens {printed first : Nat} (counted : state.messages.length ≤ state.appended)
    (placed : max printed state.base = first) (shown : Option OpenMessage) :
    ((state.messages.drop (first - state.base)).getLast?.bind
        (opening (first + (state.messages.drop (first - state.base)).length - 1))).or shown =
      if state.appended ≤ printed then shown
      else (state.last?.bind (opening (state.appended - 1))).or shown := by
  have base := State.base_add_length counted
  rw [List.getLast?_drop, List.length_drop]
  by_cases old : state.messages.length ≤ first - state.base
  · rw [if_pos old]
    split
    · rfl
    · next new =>
      have empty : state.messages.length = 0 := by omega
      rw [State.last?, List.length_eq_zero_iff.mp empty]
      rfl
  · have place : first + (state.messages.length - (first - state.base)) - 1 =
        state.appended - 1 := by omega
    rw [if_neg old, place, if_neg (by omega)]
    rfl

/-- What is to be printed anew is there. -/
theorem fresh_found (counted : state.messages.length ≤ state.appended) (printed index : Nat)
    (inside : max printed state.base ≤ index) (given : index < state.appended) :
    ∃ message ∈ state.messages.drop (max printed state.base - state.base),
      state.messages[index - state.base]? = some message ∧
        afterOctets? message.content.utf8ByteSize message.content.toList = some [] := by
  have base := State.base_add_length counted
  have held : index - state.base < state.messages.length := by omega
  have place : max printed state.base - state.base + (index - max printed state.base) =
      index - state.base := by omega
  have found := List.getElem?_eq_getElem held
  refine ⟨_, ?_, found, after_octets_text (List.append_nil _).symm⟩
  apply List.mem_of_getElem?
  rw [List.getElem?_drop, place]
  exact found

/-- Once what is open goes on, the snapshot is printed. Only a message that is new can be open
afterwards, or the one that was. -/
theorem render_resumed {grown : String} {shown : Option OpenMessage}
    (counted : state.messages.length ≤ state.appended) (quiet : Quiet state.messages.dropLast)
    (resumed : (renderer.reset state).2.resumed? state = some (grown, shown)) :
    ∃ text, renderer.render? state = some (text,
        { epoch := state.epoch, printed := state.appended,
          open? := if state.appended ≤ (renderer.reset state).2.printed then shown
            else (state.last?.bind (opening (state.appended - 1))).or shown }) ∧
      ((renderer.reset state).1 ++ grown).toList <+: text.toList ∧
      ∀ index, max (renderer.reset state).2.printed state.base ≤ index → index < state.appended →
        ∃ message, state.messages[index - state.base]? = some message ∧
          afterOctets? message.content.utf8ByteSize message.content.toList = some [] ∧
          message.content.toList <:+: text.toList := by
  have anew := fresh_found counted (renderer.reset state).2.printed
  generalize placed : max (renderer.reset state).2.printed state.base = first at anew ⊢
  have still : Quiet (state.messages.drop (first - state.base)).dropLast := by
    intro message member
    rw [List.dropLast_drop_eq_drop_dropLast] at member
    exact quiet message (List.mem_of_mem_drop member)
  have opens := start_all_opens first ((renderer.reset state).1 ++ grown) shown still
  obtain ⟨before, contents⟩ := start_all_text first ((renderer.reset state).1 ++ grown) shown
    (state.messages.drop (first - state.base))
  refine ⟨_, ?_, before, ?_⟩
  · rw [render_counted counted, resumed, Option.map_some]
    dsimp only
    rw [placed, opens, reset_epoch, fresh_opens counted placed]
  · intro index inside given
    obtain ⟨message, member, found, sliced⟩ := anew index inside given
    exact ⟨message, found, sliced, contents message member⟩

/-! A snapshot after another one. -/

theorem opening_some {index : Nat} (opens : opening index message = some shown) :
    message.isOpenReply = true ∧
      shown = ⟨index, message.content.utf8ByteSize, message.tools.length⟩ := by
  unfold opening at opens
  split at opens
  · next arriving =>
    cases opens
    exact ⟨arriving, rfl⟩
  · cases opens

theorem up_to_opens (last : state.last? = some message)
    (opens : opening (state.appended - 1) message = some shown) :
    (upTo state).open? = some shown := by
  simp only [upTo, last, Option.bind_some, opens]

/-- Whether a reply is still arriving can only change to its end. -/
theorem opening_grows {old new : Message} (index : Nat) (grows : old.Grows new)
    (arriving : old.isOpenReply = true) :
    opening index new =
      if new.streaming then some ⟨index, new.content.utf8ByteSize, new.tools.length⟩ else none := by
  have agent := ((old.open_reply_iff).mp arriving).2
  have same : new.isOpenReply = new.streaming := by
    simp [Message.isOpenReply, grows.role, agent]
  rw [opening, same]

theorem opening_closed {old new : Message} {index other : Nat} (grows : old.Grows new)
    (closed : opening index old = none) : opening other new = none := by
  have before : old.isOpenReply = false := by
    simpa [opening] using closed
  rw [opening, if_neg]
  intro arriving
  obtain ⟨streaming, agent⟩ := (new.open_reply_iff).mp arriving
  have opened := (old.open_reply_iff).mpr ⟨grows.streaming streaming, grows.role ▸ agent⟩
  rw [before] at opened
  cases opened

/-- If nothing was added, the last message is the last one of before. -/
theorem caught_last {new : Message} (continues : Chronicle.Continues earlier later)
    (caught : later.state.appended ≤ earlier.state.appended)
    (last : later.state.last? = some new) :
    later.state.base ≤ earlier.state.appended - 1 ∧
      ∃ old, earlier.state.last? = some old ∧ old.Grows new := by
  have same : later.state.appended = earlier.state.appended :=
    Nat.le_antisymm caught (Chronicle.continues_appended continues)
  rw [Chronicle.last_held, same] at last
  have inside := ((Chronicle.held_iff later _ _).mp last).1
  have given := Chronicle.held_given last
  rw [Chronicle.base_gone, Chronicle.last_held]
  exact ⟨inside, Chronicle.continues_held continues last (same ▸ given)⟩

/-- How the open message of one snapshot goes on in another: it stays open only if nothing was
added after it, and if it is held, all that was added to it is printed. -/
structure Resumes (before state : State) (grown : String) (shown : Option OpenMessage) : Prop where
  resumed : (upTo before).resumed? state = some (grown, shown)
  caught : state.appended ≤ before.appended →
    shown = state.last?.bind (opening (state.appended - 1))
  passed : before.appended < state.appended → shown = none
  rest : ∀ known, (upTo before).open? = some known → state.base ≤ known.index →
    ∃ old new rest, before.held? known.index = some old ∧
      state.messages[known.index - state.base]? = some new ∧
      new.content.toList = old.content.toList ++ rest ∧
      afterOctets? known.printedSize new.content.toList = some rest ∧ rest <+: grown.toList

theorem resumes_closed (continues : Chronicle.Continues earlier later)
    (closed : (upTo earlier.state).open? = none) :
    Resumes earlier.state later.state "" none := by
  constructor
  · rw [resumed?, closed]
  · intro caught
    symm
    rw [Option.bind_eq_none_iff]
    intro new last
    obtain ⟨_, old, first, grows⟩ := caught_last continues caught last
    exact opening_closed grows (Option.bind_eq_none_iff.mp closed old first)
  · intro _
    rfl
  · intro known opened
    rw [closed] at opened
    cases opened

theorem resumes_dropped (continues : Chronicle.Continues earlier later)
    (opened : (upTo earlier.state).open? = some shown)
    (dropped : shown.index < later.state.base)
    (place : shown.index = earlier.state.appended - 1) :
    Resumes earlier.state later.state "\n" none := by
  constructor
  · rw [resumed?, opened]
    exact if_pos dropped
  · intro caught
    symm
    rw [Option.bind_eq_none_iff]
    intro new last
    have inside := (caught_last continues caught last).1
    omega
  · intro _
    rfl
  · intro known same inside
    rw [opened] at same
    cases same
    exact absurd dropped (Nat.not_lt.mpr inside)

theorem resumes_held {reply : Message} (continues : Chronicle.Continues earlier later)
    (last : earlier.state.last? = some reply)
    (opens : opening (earlier.state.appended - 1) reply = some shown)
    (inside : later.state.base ≤ shown.index) :
    ∃ new, Resumes earlier.state later.state (continued shown new).1 (continued shown new).2 := by
  have opened := up_to_opens last opens
  obtain ⟨arriving, rfl⟩ := opening_some opens
  dsimp only at inside
  have held := (Chronicle.last_held earlier).symm.trans last
  have given := Chronicle.held_given held
  obtain ⟨new, found, grows⟩ := Chronicle.continues_holds continues held inside
  obtain ⟨rest, grown⟩ := grows.content
  have sliced := after_octets_text grown.symm
  have place := (State.held_place found).2
  refine ⟨new, ?_, ?_, ?_, ?_⟩
  · rw [resumed?, opened]
    dsimp only
    rw [if_neg (Nat.not_lt.mpr inside), place]
    rfl
  · intro caught
    have same : later.state.appended = earlier.state.appended :=
      Nat.le_antisymm caught (Chronicle.continues_appended continues)
    rw [continued_opens sliced, Chronicle.last_held, same, found, Option.bind_some,
      opening_grows _ grows arriving]
  · intro more
    rw [continued_opens sliced, if_neg]
    intro streaming
    have final := Chronicle.streaming_held found streaming
    omega
  · intro known same _
    rw [opened] at same
    cases same
    exact ⟨reply, new, rest, held, place, grown.symm, sliced, continued_text sliced⟩

theorem continues_resumes (continues : Chronicle.Continues earlier later) :
    ∃ grown shown, Resumes earlier.state later.state grown shown := by
  cases opened : (upTo earlier.state).open? with
  | none => exact ⟨"", none, resumes_closed continues opened⟩
  | some known =>
      obtain ⟨reply, last, opens⟩ := Option.bind_eq_some_iff.mp opened
      have place := (opening_some opens).2
      by_cases dropped : known.index < later.state.base
      · exact ⟨"\n", none, resumes_dropped continues opened dropped (by rw [place])⟩
      · obtain ⟨new, resumes⟩ := resumes_held continues last opens (Nat.not_lt.mp dropped)
        exact ⟨_, _, resumes⟩

/-- Only the content of the open message can have grown. -/
theorem resumes_whole {grown : String} {last : Option OpenMessage} {old new : Message}
    {index : Nat} (continues : Chronicle.Continues earlier later)
    (resumes : Resumes earlier.state later.state grown last)
    (held : earlier.state.held? index = some old) (still : later.state.held? index = some new) :
    ∃ rest, new.content.toList = old.content.toList ++ rest ∧ rest <+: grown.toList := by
  obtain ⟨inside, place⟩ := State.held_place still
  cases streaming : old.streaming with
  | false =>
      obtain ⟨same, found, grows⟩ := Chronicle.continues_holds continues held inside
      rw [still] at found
      cases found
      rw [grows.settled streaming]
      exact ⟨[], (List.append_nil _).symm, List.nil_prefix⟩
  | true =>
      have final := Chronicle.streaming_held held streaming
      have ending : earlier.state.appended - 1 = index := by omega
      have last : earlier.state.last? = some old := by
        rw [Chronicle.last_held, ending]
        exact held
      have arriving := (old.open_reply_iff).mpr
        ⟨streaming, (earlier.orderly.last old last streaming).1⟩
      have opened := up_to_opens last (if_pos arriving)
      rw [ending] at opened
      obtain ⟨_, _, rest, first, second, grown, _, out⟩ := resumes.rest _ opened inside
      rw [held] at first
      rw [place] at second
      cases first
      cases second
      exact ⟨rest, grown, out⟩

/-- In the same epoch the renderer goes on from where it was. -/
theorem render_continued (continues : Chronicle.Continues earlier later) :
    ∃ text, (upTo earlier.state).render? later.state = some (text, upTo later.state) ∧
      (upTo earlier.state).Finds earlier.state later.state text := by
  have kept : (upTo earlier.state).reset later.state = ("", upTo earlier.state) :=
    if_pos continues.epoch
  have counted := later.messages_le_appended
  obtain ⟨grown, shown, resumes⟩ := continues_resumes continues
  have resumed : ((upTo earlier.state).reset later.state).2.resumed? later.state =
      some (grown, shown) := kept ▸ resumes.resumed
  obtain ⟨text, printed, out, fresh⟩ := render_resumed counted later.orderly.earlier resumed
  have opens : (if later.state.appended ≤ earlier.state.appended then shown
      else (later.state.last?.bind (opening (later.state.appended - 1))).or shown) =
        later.state.last?.bind (opening (later.state.appended - 1)) := by
    split
    · next caught => exact resumes.caught caught
    · next more =>
      rw [resumes.passed (Nat.not_le.mp more)]
      exact Option.or_none
  rw [kept, String.empty_append] at out
  refine ⟨text, ?_, counted, fresh, ?_, ?_⟩
  · rw [printed, kept]
    exact congrArg (fun last => some (text,
      ({ epoch := later.state.epoch, printed := later.state.appended, open? := last } :
        Renderer))) opens
  · intro known opened inside
    rw [kept] at opened
    obtain ⟨_, new, rest, _, place, _, sliced, more⟩ := resumes.rest known opened inside
    exact ⟨new, rest, place, sliced, more.trans out⟩
  · intro _ index old new held still
    obtain ⟨rest, grows, more⟩ := resumes_whole continues resumes held still
    exact ⟨rest, grows, more.trans out⟩

/-- A conversation that was replaced is printed from its start. -/
theorem render_replaced (before : State) (other : later.state.epoch ≠ before.epoch) :
    ∃ text, (upTo before).render? later.state = some (text, upTo later.state) ∧
      (upTo before).Finds before later.state text := by
  have counted := later.messages_le_appended
  have anew : ((upTo before).reset later.state).2 =
      { epoch := later.state.epoch, printed := 0, open? := none } :=
    congrArg Prod.snd (if_neg other)
  have resumed : ((upTo before).reset later.state).2.resumed? later.state = some ("", none) := by
    rw [anew]
    rfl
  obtain ⟨text, printed, _, fresh⟩ := render_resumed counted later.orderly.earlier resumed
  refine ⟨text, ?_, counted, fresh, ?_, ?_⟩
  · rw [printed, anew, Option.or_none]
    dsimp only
    split
    · next none =>
      have empty : later.state.messages = [] := List.length_eq_zero_iff.mp (by omega)
      simp only [upTo, State.last?, empty, List.getLast?_nil, Option.bind_none]
    · rfl
  · intro known opened
    rw [anew] at opened
    cases opened
  · intro same
    exact absurd same other

/-! Snapshots of one run. -/

theorem snapshot_chronicle (script : List (Message.Stamp × Action)) (moment : Nat) :
    (Chronicle.ofScript (script.take moment)).state = snapshot script moment :=
  Chronicle.script_state (script.take moment)

theorem snapshot_run (script : List (Message.Stamp × Action)) {moment next : Nat}
    (ordered : moment ≤ next) :
    Chronicle.ofScript (script.take next) = ((script.take next).drop moment).foldl Chronicle.after
      (Chronicle.ofScript (script.take moment)) := by
  have split : script.take moment ++ (script.take next).drop moment = script.take next := by
    have parts := List.take_append_drop moment (script.take next)
    rwa [List.take_take, Nat.min_eq_left ordered] at parts
  unfold Chronicle.ofScript
  rw [← List.foldl_append, split]

theorem render_snapshot (script : List (Message.Stamp × Action)) {moment next : Nat}
    (ordered : moment ≤ next) :
    ∃ text, (upTo (snapshot script moment)).render? (snapshot script next) =
        some (text, upTo (snapshot script next)) ∧
      (upTo (snapshot script moment)).Finds (snapshot script moment) (snapshot script next)
        text := by
  rw [← snapshot_chronicle, ← snapshot_chronicle]
  by_cases same : (Chronicle.ofScript (script.take next)).state.epoch =
      (Chronicle.ofScript (script.take moment)).state.epoch
  · rw [snapshot_run script ordered] at same ⊢
    exact render_continued (Chronicle.run_continues _ same)
  · exact render_replaced _ same

/-- Snapshots in the order in which they were taken are all printed. -/
theorem render_all_ordered (script : List (Message.Stamp × Action)) {moment : Nat}
    {moments : List Nat} (ordered : (moment :: moments).Pairwise (· ≤ ·)) :
    ∃ text, (upTo (snapshot script moment)).renderAll? (moments.map (snapshot script)) =
      some (text, upTo (snapshot script (moments.getLastD moment))) := by
  induction moments generalizing moment with
  | nil => exact ⟨"", rfl⟩
  | cons next rest induction =>
      obtain ⟨first, others⟩ := List.pairwise_cons.mp ordered
      obtain ⟨text, printed, _⟩ := render_snapshot script (first next List.mem_cons_self)
      obtain ⟨more, further⟩ := induction others
      refine ⟨text ++ more, ?_⟩
      simp only [List.map_cons, renderAll?, printed, further, Option.bind_eq_bind,
        Option.bind_some, List.getLastD_cons]

/-- Whatever is done to an empty conversation, a new renderer prints any of its snapshots, in the
order in which they were taken, some left out and some repeated. No look-up fails on the way, and of
a reply that is still held nothing is left out. -/
theorem snapshots_rendered (script : List (Message.Stamp × Action)) (moments : List Nat)
    (ordered : moments.Pairwise (· ≤ ·)) :
    (new.renderAll? (moments.map (snapshot script))).isSome ∧
      ∀ earlier moment later, moments = earlier ++ moment :: later →
        ∃ printed renderer text next,
          new.renderAll? (earlier.map (snapshot script)) = some (printed, renderer) ∧
          renderer.render? (snapshot script moment) = some (text, next) ∧
          renderer.Finds (snapshot script (earlier.getLastD 0)) (snapshot script moment) text := by
  have started : (0 :: moments).Pairwise (· ≤ ·) :=
    List.pairwise_cons.mpr ⟨fun moment _ => Nat.zero_le moment, ordered⟩
  constructor
  · obtain ⟨text, printed⟩ := render_all_ordered script started
    exact Option.isSome_of_eq_some printed
  · intro earlier moment later split
    rw [split, ← List.cons_append] at started
    obtain ⟨before, _, across⟩ := List.pairwise_append.mp started
    obtain ⟨printed, all⟩ := render_all_ordered script before
    have reached := across _ (List.getLastD_mem_cons) moment List.mem_cons_self
    obtain ⟨text, next, finds⟩ := render_snapshot script reached
    exact ⟨printed, _, text, _, all, next, finds⟩

/-- A reply in two pieces, the end of it, and a new start. -/
def greeted : List (Message.Stamp × Action) :=
  [({ id := "local-1", time := default }, .token "Hi"),
    ({ id := "local-2", time := default }, .token " you"),
    ({ id := "local-3", time := default }, .done none),
    ({ id := "local-4", time := default }, .clear)]

theorem greeting_rendered :
    [1, 1, 3, 4].Pairwise (· ≤ ·) ∧
      ∃ renderer next, new.renderAll? ([1, 1].map (snapshot greeted)) =
          some ("agent> Hi", renderer) ∧
        renderer.render? (snapshot greeted 3) = some (" you\n", next) ∧
        renderer.Finds (snapshot greeted 1) (snapshot greeted 3) " you\n" := by
  have ordered : [1, 1, 3, 4].Pairwise (· ≤ ·) := by decide
  obtain ⟨printed, renderer, text, next, all, out, finds⟩ :=
    (snapshots_rendered greeted [1, 1, 3, 4] ordered).2 [1, 1] 3 [4] rfl
  have first : new.renderAll? ([1, 1].map (snapshot greeted)) =
      some ("agent> Hi", ⟨0, 1, some ⟨0, 2, 0⟩⟩) := by rfl
  rw [all] at first
  cases first
  have second : Renderer.render? ⟨0, 1, some ⟨0, 2, 0⟩⟩ (snapshot greeted 3) =
      some (" you\n", ⟨0, 1, none⟩) := by rfl
  rw [out] at second
  cases second
  exact ⟨ordered, _, _, all, out, finds⟩

end Renderer

end LiveChat.Terminal
