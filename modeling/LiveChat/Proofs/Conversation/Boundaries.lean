import LiveChat.Http.Retry
import LiveChat.Proofs.Conversation.Records

/-!
Where a text can be cut. A text that is too long is cut at the last place up to the limit where a
character starts, and that place is found by going back from the limit, one octet at a time. The
search ends at the start of the text at the latest, it goes back three octets at most, and what it
leaves is the longest start of the text that is allowed.
-/

set_option autoImplicit false

namespace LiveChat.Conversation

open Text.Utf8 (size size_append size_of_list)

variable {text part : String} {limit index place : Nat}

/-- A character starts at the index, or the text ends there. -/
def isBoundary (text : String) (index : Nat) : Bool := String.Pos.Raw.isValid text ⟨index⟩

/-- The first boundary on the way back from an index. There is no way back from the start. -/
def lastBoundary? (text : String) : Nat → Option Nat
  | 0 => if isBoundary text 0 then some 0 else none
  | index + 1 =>
      if isBoundary text (index + 1) then some (index + 1) else lastBoundary? text index

/-- The leading octets of the text, which are not a text themselves if a character is split. -/
def leading? (text : String) (count : Nat) : Option String :=
  String.fromUTF8? (text.toUTF8.extract 0 count)

/-- A text that fits is not searched. -/
def truncate? (limit : Nat) (text : String) : Option String :=
  if text.utf8ByteSize ≤ limit then some text
  else (lastBoundary? text limit).bind (leading? text)

/-! Boundaries are the sizes of the starts of a text. -/

theorem boundary_iff :
    isBoundary text index = true ↔ ∃ start, start <+: text.toList ∧ size start = index := by
  rw [isBoundary, String.Pos.Raw.isValid_eq_true_iff, String.Pos.Raw.isValid_iff_exists_take_toList]
  constructor
  · rintro ⟨count, same⟩
    rw [size_of_list] at same
    exact ⟨text.toList.take count, List.take_prefix _ _, same.symm⟩
  · rintro ⟨start, starts, rfl⟩
    refine ⟨start.length, ?_⟩
    rw [← List.prefix_iff_eq_take.mp starts, size_of_list]

theorem size_of_text (text : String) : size text.toList = text.utf8ByteSize := by
  rw [← size_of_list, String.ofList_toList]

theorem size_le_of_start {start chars : List Char} (starts : start <+: chars) :
    size start ≤ size chars := by
  obtain ⟨rest, rfl⟩ := starts
  rw [size_append]
  exact Nat.le_add_right _ _

/-- Going back ends where no boundary was passed by. -/
theorem last_boundary_found (boundary : isBoundary text place = true) (within : place ≤ limit)
    (passed : ∀ index, place < index → index ≤ limit → isBoundary text index = false) :
    lastBoundary? text limit = some place := by
  induction limit with
  | zero =>
      obtain rfl : place = 0 := Nat.le_zero.mp within
      exact if_pos boundary
  | succ limit induction =>
      rw [lastBoundary?]
      rcases Nat.eq_or_lt_of_le within with rfl | before
      · exact if_pos boundary
      · rw [passed (limit + 1) before (Nat.le_refl _)]
        exact induction (Nat.le_of_lt_succ before) fun index after below =>
          passed index after (Nat.le_succ_of_le below)

/-! What is left of a text. -/

theorem leading_of_start (starts : part.toList <+: text.toList) :
    leading? text part.utf8ByteSize = some part := by
  obtain ⟨rest, split⟩ := starts
  have whole : text = part ++ String.ofList rest := by
    rw [← String.toList_inj, String.toList_append, String.toList_ofList, split]
  have octets : text.toUTF8.extract 0 part.utf8ByteSize = part.toUTF8 := by
    rw [whole]
    exact ByteArray.extract_append_eq_left rfl
  rw [leading?, octets, String.fromUTF8?, String.toUTF8_eq_toByteArray, dif_pos part.isValidUTF8]
  rfl

namespace Cut

/-- The longest start ends at a boundary. One that is nearer to the limit would end a longer
start. -/
theorem found (cut : Cut limit text part) :
    lastBoundary? text limit = some part.utf8ByteSize := by
  have boundary : isBoundary text part.utf8ByteSize = true :=
    boundary_iff.mpr ⟨part.toList, cut.start, size_of_text part⟩
  refine last_boundary_found boundary cut.within ?_
  intro index after below
  rw [Bool.eq_false_iff]
  intro nearer
  obtain ⟨start, starts, rfl⟩ := boundary_iff.mp nearer
  have shorter : start <+: part.toList := by
    have kept := cut.longest (String.ofList start)
    rw [String.toList_ofList, size_of_list] at kept
    exact kept starts below
  have least := size_le_of_start shorter
  rw [size_of_text] at least
  omega

/-- The next character is one that would not fit, and it takes up four octets at most. -/
theorem close (cut : Cut limit text part) (long : limit < text.utf8ByteSize) :
    limit ≤ part.utf8ByteSize + 3 := by
  obtain ⟨rest, split⟩ := cut.start
  cases rest with
  | nil =>
      rw [List.append_nil, String.toList_inj] at split
      have within := cut.within
      rw [split] at within
      omega
  | cons char rest =>
      have starts : part.toList ++ [char] <+: text.toList := ⟨rest, by simpa using split⟩
      have octets := char.utf8Size_le_four
      by_contra far
      have longer := cut.longest (String.ofList (part.toList ++ [char]))
      rw [String.toList_ofList, size_of_list, size_append, size_of_text] at longer
      have fits : part.utf8ByteSize + size [char] ≤ limit := by
        simp only [size]
        omega
      have shorter := (longer starts fits).length_le
      rw [List.length_append, List.length_singleton] at shorter
      omega

theorem whole (cut : Cut limit text part) (fits : text.utf8ByteSize ≤ limit) : part = text := by
  rw [← String.toList_inj]
  exact cut.start.eq_of_length_le (cut.longest text List.prefix_rfl fits).length_le

theorem truncated (cut : Cut limit text part) : truncate? limit text = some part := by
  unfold truncate?
  split
  · next fits => rw [cut.whole fits]
  · rw [cut.found, Option.bind_some, leading_of_start cut.start]

end Cut

-- The third octet is in the midst of a character.
example : truncate? 3 "éé" = some "é" := by decide

end LiveChat.Conversation

namespace LiveChat.Http

open Conversation (lastBoundary? leading? truncate? cutText cut_text_cuts Cut)

/-- Only the text of an error that is too long is searched. -/
def truncateBody? (body : String) : Option String :=
  if maxErrorBody < body.utf8ByteSize then
    (lastBoundary? body maxErrorBody).bind (leading? body)
  else some body

theorem truncate_body_same (body : String) : truncateBody? body = truncate? maxErrorBody body := by
  unfold truncateBody? truncate?
  split
  · next long => rw [if_neg (Nat.not_le_of_lt long)]
  · next fits => rw [if_pos (Nat.le_of_not_lt fits)]

/-- The search always ends at a boundary, and what it leaves is the longest start of the text in
whole characters that is within the limit: all of it if it fits, and else it falls short of the
limit by three octets at most. The text of an error is cut in the same way. -/
theorem truncation_longest (limit : Nat) (text : String) :
    (∃ part, truncate? limit text = some part ∧ cutText limit text = part ∧
      Cut limit text part ∧ (text.utf8ByteSize ≤ limit → part = text) ∧
      (limit < text.utf8ByteSize → limit ≤ part.utf8ByteSize + 3)) ∧
    truncateBody? text = truncate? 512 text := by
  have cut := cut_text_cuts limit text
  exact ⟨⟨cutText limit text, cut.truncated, rfl, cut, cut.whole, cut.close⟩,
    truncate_body_same text⟩

end LiveChat.Http
