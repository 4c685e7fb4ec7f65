import LiveChat.Proofs.Stream.Framing
import Mathlib.Data.List.Basic

/-!
Payloads as events of a body, and back. Two LFs end whatever came before them, of which nothing is
left behind, so the events after them are read as if they came first.
-/

set_option autoImplicit false

namespace LiveChat.Stream

open Text.Utf8

/-! Payloads as a body. -/

def textLines (payload : String) : List (List UInt8) := (encode payload).splitOn Framer.lf

def dataLine (line : List UInt8) : List UInt8 := dataName ++ colon :: space :: line

/-- A data line for each line of the payload, and an empty line. -/
def framed (payload : String) : List UInt8 :=
  ((textLines payload).flatMap fun line => dataLine line ++ [Framer.lf]) ++ [Framer.lf]

/-- A payload that an event within the limit can carry. A CR at the end of one of its lines
would be taken for a part of the line's end. -/
structure Carried (limit : Nat) (payload : String) : Prop where
  ends : ∀ line ∈ textLines payload, line.getLast? ≠ some Framer.cr
  lines : ∀ line ∈ textLines payload, line.length + 6 ≤ limit
  whole : payload.utf8ByteSize ≤ limit

theorem not_mem_of_mem_split_on {Item : Type} [DecidableEq Item] {separator : Item}
    {items part : List Item} (member : part ∈ items.splitOn separator) : separator ∉ part := by
  by_cases found : separator ∈ items
  · obtain ⟨before, rest, rfl, absent⟩ := List.eq_append_cons_of_mem found
    rw [List.splitOn_append_cons_self_of_not_mem absent] at member
    rcases List.mem_cons.mp member with rfl | later
    · exact absent
    · exact not_mem_of_mem_split_on later
  · rw [List.splitOn_eq_singleton found] at member
    rwa [List.mem_singleton.mp member]
  termination_by items.length
  decreasing_by simp_all only [List.length_append, List.length_cons]; omega

theorem data_line_unended {line : List UInt8} (whole : Framer.lf ∉ line) :
    Framer.lf ∉ dataLine line := by
  have name : Framer.lf ∉ dataName ++ [colon, space] := by decide
  simpa [dataLine, and_assoc] using And.intro name whole

theorem data_line_filled (line : List UInt8) : ¬IsBlank (dataLine line) := by
  intro blank
  have odd := blank 100 (by simp [dataLine, dataName])
  cases odd

theorem data_line_length (line : List UInt8) : (dataLine line).length = line.length + 6 := by
  simp [dataLine, dataName]

theorem data_of_data_line {line : List UInt8} (ends : line.getLast? ≠ some Framer.cr) :
    dataOf? (dataLine line) = some (decodeLossy line) := by
  have uncut : chomped (dataLine line) = dataLine line := by
    unfold chomped
    rw [if_neg]
    rw [dataLine, List.getLast?_append, List.getLast?_cons_cons]
    cases line with
    | nil => decide
    | cons octet line => simpa [List.getLast?_cons] using ends
  have absent : colon ∉ dataName := by decide
  obtain ⟨name, value⟩ := cut_found absent (space :: line)
  unfold dataOf? fieldValue
  rw [uncut, dataLine, name, value]
  rfl

/-! The body is read as it was written. -/

theorem lines_of_ended {lines : List (List UInt8)} (whole : ∀ line ∈ lines, Framer.lf ∉ line)
    (rest : List UInt8) :
    linesOf ((lines.flatMap fun line => line ++ [Framer.lf]) ++ rest) = lines ++ linesOf rest := by
  induction lines with
  | nil => rfl
  | cons line lines induction =>
      have later := induction fun other member => whole other (List.mem_cons_of_mem line member)
      simp only [List.flatMap_cons, List.append_assoc, List.cons_append, List.nil_append]
      rw [lines_ended (whole line List.mem_cons_self), later]

/-- The lines of the event that carries a payload. -/
def framedLines (payload : String) : List (List UInt8) := (textLines payload).map dataLine

theorem lines_of_framed (payload : String) (rest : List UInt8) :
    linesOf (framed payload ++ rest) = framedLines payload ++ [] :: linesOf rest := by
  have whole : ∀ line ∈ framedLines payload, Framer.lf ∉ line := by
    intro line member
    obtain ⟨inner, among, rfl⟩ := List.mem_map.mp member
    exact data_line_unended (not_mem_of_mem_split_on among)
  have body : framed payload ++ rest =
      ((framedLines payload).flatMap fun line => line ++ [Framer.lf]) ++ Framer.lf :: rest := by
    simp [framed, framedLines, List.flatMap_map]
  rw [body, lines_of_ended whole, ← List.nil_append (Framer.lf :: rest),
    lines_ended List.not_mem_nil]

theorem events_of_framed (payloads : List String) :
    eventsOf (linesOf (payloads.flatMap framed)) =
      payloads.map fun payload => framedLines payload ++ [[]] := by
  induction payloads with
  | nil => rfl
  | cons payload payloads induction =>
      have filled : ∀ line ∈ framedLines payload, ¬IsBlank line := by
        intro line member
        obtain ⟨inner, _, rfl⟩ := List.mem_map.mp member
        exact data_line_filled inner
      have blank : IsBlank [] := by simp [IsBlank]
      rw [List.flatMap_cons, lines_of_framed, events_ended filled blank, induction, List.map_cons]

theorem decode_intercalate (lines : List (List UInt8)) :
    "\n".intercalate (lines.map decodeLossy) = decodeLossy ([Framer.lf].intercalate lines) := by
  induction lines with
  | nil =>
      rw [List.map_nil, String.intercalate_nil, List.intercalate_nil, decodeLossy]
      exact congrArg String.ofList lossy_chars_nil.symm
  | cons line lines induction =>
      cases lines with
      | nil => rw [List.map_singleton, String.intercalate_singleton, List.intercalate_singleton]
      | cons next lines =>
          have low : Framer.lf < 0x80 := by decide
          rw [List.map_cons, String.intercalate_cons_of_ne_nil (by simp), induction,
            List.intercalate_cons_cons, ← String.toList_inj]
          simp only [String.toList_append, decode_lossy_chars, List.append_assoc,
            List.singleton_append]
          rw [lossy_chars_append line (by rintro octet ⟨⟩; exact low), lossy_chars_low low]
          rfl

theorem data_of_framed {payload : String}
    (ends : ∀ line ∈ textLines payload, line.getLast? ≠ some Framer.cr) :
    (framedLines payload ++ [[]]).filterMap dataOf? = (textLines payload).map decodeLossy := by
  have read : ∀ line ∈ textLines payload, dataOf? (dataLine line) = some (decodeLossy line) :=
    fun line member => data_of_data_line (ends line member)
  have empty : dataOf? [] = none := data_of_blank (by simp [IsBlank])
  have filled : (framedLines payload).filterMap dataOf? =
      (textLines payload).map decodeLossy := by
    rw [framedLines, List.filterMap_map]
    exact (List.filterMap_congr read).trans (congrFun List.filterMap_eq_map _)
  rw [List.filterMap_append, filled, List.filterMap_cons_none empty, List.filterMap_nil,
    List.append_nil]

/-- The event that carries a payload tells it. -/
theorem told_of_framed {payload : String}
    (ends : ∀ line ∈ textLines payload, line.getLast? ≠ some Framer.cr) :
    (framedLines payload ++ [[]]).filterMap dataOf? ≠ [] ∧
      joinedData (framedLines payload ++ [[]]) = payload := by
  have data := data_of_framed ends
  constructor
  · rw [data]
    exact fun empty => List.splitOn_ne_nil _ _ (List.map_eq_nil_iff.mp empty)
  · rw [joinedData, data, decode_intercalate, textLines, List.intercalate_splitOn, decode_encode]

theorem payload_of_framed {limit : Nat} {payload : String} (carried : Carried limit payload) :
    payloadOf? limit (framedLines payload ++ [[]]) = some payload := by
  obtain ⟨filled, joined⟩ := told_of_framed carried.ends
  have short : ∀ line ∈ framedLines payload ++ [[]], line.length ≤ limit := by
    intro line member
    rcases List.mem_append.mp member with filled | blank
    · obtain ⟨inner, among, rfl⟩ := List.mem_map.mp filled
      rw [data_line_length]
      exact carried.lines inner among
    · rw [List.mem_singleton.mp blank]
      exact Nat.zero_le limit
  rw [payloadOf?, joined, if_pos ⟨filled, short, carried.whole⟩]

/-! What two LFs leave behind. -/

namespace Framer

/-- The framer after all the parts. -/
def afterParts (framer : Framer) (parts : List (List UInt8)) : Framer :=
  parts.foldl (fun framer part => (framer.feed part).1) framer

theorem after_parts_flatten (framer : Framer) (parts : List (List UInt8)) :
    framer.afterParts parts = (framer.feed parts.flatten).1 := by
  induction parts generalizing framer with
  | nil => rfl
  | cons part parts induction =>
      rw [List.flatten_cons, feed_append]
      exact induction (framer.feed part).1

theorem step_after (limit : Nat) (event : List (List UInt8)) (line : List UInt8) (octet : UInt8) :
    ∃ grown rest, ((after limit event line).step octet).1 = after limit grown rest := by
  unfold step
  split
  · by_cases blank : IsBlank line
    · rw [end_line_blank limit event blank]
      exact ⟨_, _, rfl⟩
    · rw [end_line_filled limit event blank]
      exact ⟨_, _, rfl⟩
  · exact ⟨_, _, keep_after limit event line octet⟩

/-- At any point a framer is as some lines leave it. -/
theorem feed_kept (limit : Nat) (event : List (List UInt8)) (line octets : List UInt8) :
    ∃ grown rest, ((after limit event line).feed octets).1 = after limit grown rest := by
  induction octets generalizing event line with
  | nil => exact ⟨_, _, rfl⟩
  | cons octet octets induction =>
      obtain ⟨grown, rest, stepped⟩ := step_after limit event line octet
      rw [feed_cons, stepped]
      exact induction grown rest

theorem feed_blank (limit : Nat) (event : List (List UInt8)) :
    ((after limit event []).feed [lf]).1 = new limit := by
  have blank : IsBlank [] := by simp [IsBlank]
  rw [feed_cons, feed_nil, step, if_pos rfl, end_line_blank limit event blank, new_after]

/-- The first LF ends the line, if one was begun, and the second the event. -/
theorem feed_gap (limit : Nat) (octets : List UInt8) :
    ((new limit).feed (octets ++ [lf, lf])).1 = new limit := by
  obtain ⟨event, line, kept⟩ := feed_kept limit [] [] octets
  rw [← new_after] at kept
  rw [feed_append, kept, feed_cons, step, if_pos rfl]
  by_cases blank : IsBlank line
  · simp only [end_line_blank limit event blank, feed_blank]
  · simp only [end_line_filled limit event blank, feed_blank]

end Framer

/-- Whatever came before two LFs, nothing of it is left after them, and the payloads whose events
come next are had one by one. What came before gives what it gives by itself. No cut matters, and
also a part that holds an end and a beginning does not. -/
theorem resynchronized (limit : Nat) (earlier : List UInt8) {payloads : List String}
    (carried : ∀ payload ∈ payloads, Carried limit payload) :
    (∀ first, first.flatten = earlier ++ [Framer.lf, Framer.lf] →
      (Framer.new limit).afterParts first = .new limit ∧
        ∀ next, next.flatten = payloads.flatMap framed →
          (((Framer.new limit).afterParts first).feedParts next).flatten = payloads) ∧
    ∀ whole, whole.flatten = earlier ++ [Framer.lf, Framer.lf] ++ payloads.flatMap framed →
      ((Framer.new limit).feedParts whole).flatten =
        payloadsOf limit (earlier ++ [Framer.lf, Framer.lf]) ++ payloads := by
  have had : ((Framer.new limit).feed (payloads.flatMap framed)).2 = payloads := by
    have read : ∀ payload ∈ payloads,
        payloadOf? limit (framedLines payload ++ [[]]) = some payload :=
      fun payload member => payload_of_framed (carried payload member)
    rw [feed_whole, payloadsOf, events_of_framed, List.filterMap_map]
    exact (List.filterMap_congr read).trans List.filterMap_some
  constructor
  · intro first gap
    have again : (Framer.new limit).afterParts first = .new limit := by
      rw [Framer.after_parts_flatten, gap, Framer.feed_gap]
    refine ⟨again, fun next events => ?_⟩
    rw [again, Framer.feed_parts_flatten, events, had]
  · intro whole both
    rw [Framer.feed_parts_flatten, both, Framer.feed_append, Framer.feed_gap, had, feed_whole]

/-- The event before them is over the limit and is not ended. Of the payloads one has an empty line
and a character of two octets, and the other one is empty. -/
theorem resynchronized_after_oversized :
    (∀ payload ∈ ["é\n", ""], Carried 12 payload) ∧
      (Framer.new 12).afterParts [encode "data: 0123", encode "456789\n", [10]] = .new 12 ∧
      ((Framer.new 12).feedParts [encode "data: 0123456789\n\nda", encode "ta: é\ndata: \n\nd",
        encode "ata: \n\n"]).flatten = ["é\n", ""] := by
  have accented : Carried 12 "é\n" := ⟨by decide, by decide, by decide⟩
  have empty : Carried 12 "" := ⟨by decide, by decide, by decide⟩
  have carried : ∀ payload ∈ ["é\n", ""], Carried 12 payload := by simp [accented, empty]
  obtain ⟨gap, both⟩ := resynchronized 12 (encode "data: 0123456789") carried
  exact ⟨carried, (gap _ (by decide)).1, (both _ (by decide)).trans (by decide +kernel)⟩

end LiveChat.Stream
