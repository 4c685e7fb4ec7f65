import LiveChat.Proofs.Text.Utf8
import LiveChat.Stream.Framing

/-!
What a whole body says when it is read at once: its lines, its events and their payloads. The
framer takes the same body octet by octet, in whatever parts it comes. What the framer keeps is
computed from the lines since the last event and from the unfinished line alone, and every octet
goes along with that.
-/

set_option autoImplicit false

namespace LiveChat.Stream

/-! The body as a whole. -/

/-- The lines that an LF ends, without it. -/
def linesOf (body : List UInt8) : List (List UInt8) := (body.splitOn Framer.lf).dropLast

/-- The line without a CR at its end. -/
def chomped (line : List UInt8) : List UInt8 :=
  if line.getLast? = some Framer.cr then line.dropLast else line

/-- A line of nothing but CRs. -/
def IsBlank (line : List UInt8) : Prop := ∀ octet ∈ line, octet = Framer.cr

instance (line : List UInt8) : Decidable (IsBlank line) :=
  inferInstanceAs (Decidable (∀ octet ∈ line, octet = Framer.cr))

/-- The lines of each event that is ended, with the blank line that ends it. -/
def eventsOf : List (List UInt8) → List (List (List UInt8))
  | [] => []
  | line :: rest =>
      if IsBlank line then [line] :: eventsOf rest
      else match eventsOf rest with
        | [] => []
        | event :: events => (line :: event) :: events

def colon : UInt8 := 58

def space : UInt8 := 32

/-- The octets of the field's name. -/
def dataName : List UInt8 := [100, 97, 116, 97]

/-- What stands behind the first colon, less one space. -/
def fieldValue (line : List UInt8) : List UInt8 :=
  let value := (line.dropWhile (· ≠ colon)).drop 1
  if value.head? = some space then value.drop 1 else value

/-- The value of a line whose field is `data`. Comments have an empty field. -/
def dataOf? (line : List UInt8) : Option String :=
  if (chomped line).takeWhile (· ≠ colon) = dataName then
    some (Text.Utf8.decodeLossy (fieldValue (chomped line)))
  else none

/-- What the data lines hold. -/
def joinedData (lines : List (List UInt8)) : String := "\n".intercalate (lines.filterMap dataOf?)

/-- The payload of an event with a data line, if all of it is within the limit. -/
def payloadOf? (limit : Nat) (event : List (List UInt8)) : Option String :=
  if event.filterMap dataOf? ≠ [] ∧ (∀ line ∈ event, line.length ≤ limit) ∧
      (joinedData event).utf8ByteSize ≤ limit then some (joinedData event)
  else none

def payloadsOf (limit : Nat) (body : List UInt8) : List String :=
  (eventsOf (linesOf body)).filterMap (payloadOf? limit)

theorem lines_unended {line : List UInt8} (whole : Framer.lf ∉ line) : linesOf line = [] := by
  rw [linesOf, List.splitOn_eq_singleton whole]
  rfl

theorem lines_ended {line : List UInt8} (whole : Framer.lf ∉ line) (rest : List UInt8) :
    linesOf (line ++ Framer.lf :: rest) = line :: linesOf rest := by
  rw [linesOf, List.splitOn_append_cons_self_of_not_mem whole,
    List.dropLast_cons_of_ne_nil (List.splitOn_ne_nil _ _)]
  rfl

theorem events_unended {lines : List (List UInt8)} (filled : ∀ line ∈ lines, ¬IsBlank line) :
    eventsOf lines = [] := by
  induction lines with
  | nil => rfl
  | cons line rest induction =>
      have later : eventsOf rest = [] :=
        induction fun other member => filled other (List.mem_cons_of_mem line member)
      rw [eventsOf, if_neg (filled line List.mem_cons_self), later]

theorem events_ended {lines : List (List UInt8)} {blank : List UInt8}
    (filled : ∀ line ∈ lines, ¬IsBlank line) (ends : IsBlank blank) (rest : List (List UInt8)) :
    eventsOf (lines ++ blank :: rest) = (lines ++ [blank]) :: eventsOf rest := by
  induction lines with
  | nil => rw [List.nil_append, List.nil_append, eventsOf, if_pos ends]
  | cons line lines induction =>
      have later := induction fun other member => filled other (List.mem_cons_of_mem line member)
      rw [List.cons_append, eventsOf, if_neg (filled line List.mem_cons_self), later]
      rfl

theorem blank_concat (line : List UInt8) (octet : UInt8) :
    IsBlank (line ++ [octet]) ↔ IsBlank line ∧ octet = Framer.cr := by
  simp [IsBlank, or_imp, forall_and]

theorem blank_chomped {line : List UInt8} (blank : IsBlank line) : IsBlank (chomped line) := by
  intro octet member
  unfold chomped at member
  split at member
  · exact blank octet (List.dropLast_subset line member)
  · exact blank octet member

/-- A blank line has no field. -/
theorem data_of_blank {line : List UInt8} (blank : IsBlank line) : dataOf? line = none := by
  unfold dataOf?
  split
  · next name =>
    have member : (100 : UInt8) ∈ (chomped line).takeWhile (· ≠ colon) := by
      rw [name]
      decide
    have odd := blank_chomped blank _ (List.takeWhile_subset _ member)
    cases odd
  · rfl

/-! One line. The framer looks for the colon and the space among its characters. -/

open Text.Utf8

theorem lossy_data_iff (name : List UInt8) :
    lossyChars name = ['d', 'a', 't', 'a'] ↔ name = dataName := by
  constructor
  · intro read
    obtain ⟨first, name, afterD⟩ := lossy_chars_uncons (by simp [OneOctet]) read
    obtain ⟨second, first, afterA⟩ := lossy_chars_uncons (by simp [OneOctet]) afterD
    obtain ⟨third, second, afterT⟩ := lossy_chars_uncons (by simp [OneOctet]) afterA
    obtain ⟨fourth, third, ended⟩ := lossy_chars_uncons (by simp [OneOctet]) afterT
    rw [name, first, second, third, (lossy_chars_nil_iff fourth).mp ended]
    rfl
  · rintro rfl
    rw [dataName, lossy_chars_low (by decide), lossy_chars_low (by decide),
      lossy_chars_low (by decide), lossy_chars_low (by decide), lossy_chars_nil]
    rfl

/-- What the framer makes of the characters from the colon on. -/
theorem lossy_value (value : List UInt8) :
    (match lossyChars (colon :: value) with
      | _ :: ' ' :: rest => some (String.ofList rest)
      | _ :: rest => some (String.ofList rest)
      | [] => some "") =
    some (decodeLossy (if value.head? = some space then value.drop 1 else value)) := by
  have ended : lossyChars (colon :: value) = ':' :: lossyChars value :=
    lossy_chars_low (by decide) value
  rw [ended]
  cases value with
  | nil =>
      rw [lossy_chars_nil]
      exact congrArg (some ∘ String.ofList) lossy_chars_nil.symm
  | cons octet rest =>
      by_cases spaced : octet = space
      · subst spaced
        have read : lossyChars (space :: rest) = ' ' :: lossyChars rest :=
          lossy_chars_low (by decide) rest
        rw [read]
        rfl
      · rw [List.head?_cons, if_neg (by simpa using spaced)]
        split
        · next tail same =>
          obtain ⟨_, octets, _⟩ :=
            lossy_chars_uncons (by simp [OneOctet]) (List.cons.inj same).2
          exact absurd (List.cons.inj octets).1 spaced
        · next same =>
          rw [← (List.cons.inj same).2]
          rfl
        · next same => cases same

/-- It finds them where they are among the octets. -/
theorem data_of_line_octets (line : List UInt8) :
    Framer.dataOfLine? line =
      if line.takeWhile (· ≠ colon) = dataName then some (decodeLossy (fieldValue line))
      else none := by
  obtain ⟨name, rest⟩ := @lossy_chars_cut ':' (by simp [OneOctet]) line
  have octet : ':'.toNat.toUInt8 = colon := rfl
  rw [octet] at name rest
  unfold Framer.dataOfLine?
  simp only [decode_lossy_chars, name, rest, lossy_data_iff]
  split
  · next comment =>
    have unnamed : line.takeWhile (· ≠ colon) = [] := by
      cases line with
      | nil => rfl
      | cons octet line => simp [(Option.some.inj comment : octet = 58), colon]
    rw [unnamed, if_neg (by decide)]
  · split
    · unfold fieldValue
      cases cut : line.dropWhile (· ≠ colon) with
      | nil =>
          rw [lossy_chars_nil]
          exact congrArg (some ∘ String.ofList) lossy_chars_nil.symm
      | cons octet value =>
          have first : octet = colon := by
            have stops := List.head?_dropWhile_not (· ≠ colon) line
            rw [cut] at stops
            simpa using stops
          subst first
          exact lossy_value value
    · rfl

/-! An event grows line by line. -/

theorem joined_concat (event : List (List UInt8)) (line : List UInt8) :
    joinedData (event ++ [line]) =
      match dataOf? line with
      | none => joinedData event
      | some value =>
          if event.filterMap dataOf? = [] then value else joinedData event ++ "\n" ++ value := by
  unfold joinedData
  rw [List.filterMap_append]
  cases read : dataOf? line with
  | none => simp [read]
  | some value =>
      simp only [List.filterMap_cons, read, List.filterMap_nil]
      split
      · next empty => rw [empty, List.nil_append, String.intercalate_singleton]
      · next filled =>
        rw [String.intercalate_append_of_ne_nil filled (List.cons_ne_nil _ _),
          String.intercalate_singleton]

theorem joined_grows (event : List (List UInt8)) (line : List UInt8) :
    (joinedData event).utf8ByteSize ≤ (joinedData (event ++ [line])).utf8ByteSize := by
  rw [joined_concat]
  split
  · exact Nat.le_refl _
  · split
    · next empty => simp [joinedData, empty]
    · rw [String.utf8ByteSize_append, String.utf8ByteSize_append]
      omega

/-- Of an event and the line that is not ended yet, something is already over the limit. -/
def Over (limit : Nat) (event : List (List UInt8)) (line : List UInt8) : Prop :=
  (∃ each ∈ event ++ [line], limit < each.length) ∨ limit < (joinedData event).utf8ByteSize

instance (limit : Nat) (event : List (List UInt8)) (line : List UInt8) :
    Decidable (Over limit event line) :=
  inferInstanceAs (Decidable (_ ∨ _))

theorem not_over (limit : Nat) : ¬Over limit [] [] := by
  simp [Over, joinedData]

theorem over_octet (limit : Nat) (event : List (List UInt8)) (line : List UInt8) (octet : UInt8) :
    Over limit event (line ++ [octet]) ↔ Over limit event line ∨ limit < line.length + 1 := by
  simp only [Over, List.mem_append, List.mem_singleton, or_and_right, exists_or,
    exists_eq_left, List.length_append, List.length_singleton]
  constructor
  · rintro ((longer | longer) | joined)
    · exact .inl (.inl (.inl longer))
    · exact .inr longer
    · exact .inl (.inr joined)
  · rintro (((longer | longer) | joined) | longer)
    · exact .inl (.inl longer)
    · exact .inl (.inr (by omega))
    · exact .inr joined
    · exact .inl (.inr longer)

theorem over_line (limit : Nat) (event : List (List UInt8)) (line : List UInt8) :
    Over limit (event ++ [line]) [] ↔
      Over limit event line ∨ limit < (joinedData (event ++ [line])).utf8ByteSize := by
  have grows := joined_grows event line
  have short : ¬limit < ([] : List UInt8).length := by simp
  unfold Over
  constructor
  · rintro (⟨each, member, longer⟩ | joined)
    · rcases List.mem_append.mp member with old | new
      · exact .inl (.inl ⟨each, old, longer⟩)
      · rw [List.mem_singleton.mp new] at longer
        exact absurd longer short
    · exact .inr joined
  · rintro ((⟨each, member, longer⟩ | joined) | joined)
    · exact .inl ⟨each, List.mem_append_left [[]] member, longer⟩
    · exact .inr (by omega)
    · exact .inr joined

/-! The framer between two octets. -/

namespace Framer

/-- What the framer keeps of the lines since the last event and of the line after them. -/
def after (limit : Nat) (event : List (List UInt8)) (line : List UInt8) : Framer :=
  { limit
    line := if Over limit event line then #[] else line.toArray
    filled := !decide (IsBlank line)
    data :=
      if Over limit event line ∨ event.filterMap dataOf? = [] then none
      else some (joinedData event)
    oversized := decide (Over limit event line) }

theorem new_after (limit : Nat) : new limit = after limit [] [] := by
  have fits := not_over limit
  simp [new, after, fits, IsBlank]

theorem keep_after (limit : Nat) (event : List (List UInt8)) (line : List UInt8) (octet : UInt8) :
    (after limit event line).keep octet = after limit event (line ++ [octet]) := by
  have grown := over_octet limit event line octet
  have filled : (!decide (IsBlank line) || !decide (octet = cr)) =
      !decide (IsBlank (line ++ [octet])) := by
    simp [blank_concat, Bool.not_and]
  unfold keep
  by_cases exceeded : Over limit event line
  · have longer := grown.mpr (.inl exceeded)
    simp [after, exceeded, longer, filled]
  · by_cases long : limit < line.length + 1
    · have longer := grown.mpr (.inr long)
      simp [after, exceeded, longer, filled, long, discard]
    · have fits : ¬Over limit event (line ++ [octet]) := by
        rw [grown]
        exact not_or.mpr ⟨exceeded, long⟩
      simp [after, exceeded, fits, filled, long]

theorem without_cr (line : List UInt8) : (withoutCr line.toArray).toList = chomped line := by
  unfold withoutCr chomped
  rw [List.back?_toArray]
  split
  · rw [List.pop_toArray]
  · rfl

theorem data_of_line (line : List UInt8) :
    dataOfLine? (withoutCr line.toArray).toList = dataOf? line := by
  rw [without_cr, data_of_line_octets, dataOf?]

/-- One more value behind those that are joined already. -/
def joinedWith (data : Option String) (value : String) : String :=
  match data with
  | none => value
  | some data => data ++ "\n" ++ value

theorem add_data_joined (framer : Framer) (value : String) :
    framer.addData value =
      if framer.limit < (joinedWith framer.data value).utf8ByteSize then framer.discard
      else { framer with data := some (joinedWith framer.data value) } := rfl

theorem add_data_after {limit : Nat} {event : List (List UInt8)} {line : List UInt8}
    {value : String} (fits : ¬Over limit event line) (read : dataOf? line = some value) :
    ({ after limit event line with line := #[], filled := false } : Framer).addData value =
      after limit (event ++ [line]) [] := by
  have blank : IsBlank [] := by simp [IsBlank]
  have text : joinedWith (after limit event line).data value = joinedData (event ++ [line]) := by
    rw [joined_concat, read]
    by_cases first : event.filterMap dataOf? = []
    · simp [joinedWith, after, first]
    · simp [joinedWith, after, first, fits]
  have grown := over_line limit event line
  simp only [fits, false_or] at grown
  rw [add_data_joined, text]
  by_cases long : limit < (joinedData (event ++ [line])).utf8ByteSize
  · have exceeded := grown.mpr long
    simp [discard, after, exceeded, blank, long]
  · have same : ¬Over limit (event ++ [line]) [] := by rwa [grown]
    simp [after, same, fits, blank, read, long]

/-- A line that says something joins the event. -/
theorem end_line_filled (limit : Nat) (event : List (List UInt8)) {line : List UInt8}
    (filled : ¬IsBlank line) :
    (after limit event line).endLine = (after limit (event ++ [line]) [], none) := by
  have blank : IsBlank [] := by simp [IsBlank]
  have grown := over_line limit event line
  have joined := joined_concat event line
  unfold endLine
  by_cases exceeded : Over limit event line
  · have longer := grown.mpr (.inl exceeded)
    simp [after, exceeded, longer, filled, blank]
  · have kept : (after limit event line).line = line.toArray := if_neg exceeded
    have flags : (after limit event line).filled = true ∧
        (after limit event line).oversized = false := by simp [after, filled, exceeded]
    simp only [flags, kept, data_of_line, Bool.not_true, Bool.false_eq_true, if_false]
    cases read : dataOf? line with
    | some value =>
        rw [← add_data_after exceeded read]
        simp [after, exceeded]
    | none =>
        rw [read] at joined
        have fits : ¬limit < (joinedData event).utf8ByteSize := fun long => exceeded (.inr long)
        have same : ¬Over limit (event ++ [line]) [] := by
          rw [grown, joined]
          exact not_or.mpr ⟨exceeded, fits⟩
        simp [after, exceeded, same, blank, read, joined]

/-- A blank line ends the event, and nothing is left of it. -/
theorem end_line_blank (limit : Nat) (event : List (List UInt8)) {line : List UInt8}
    (blank : IsBlank line) :
    (after limit event line).endLine =
      (after limit [] [], payloadOf? limit (event ++ [line])) := by
  have fits := not_over limit
  have empty : IsBlank [] := by simp [IsBlank]
  have read := data_of_blank blank
  have joined := joined_concat event line
  rw [read] at joined
  have within : (∀ each ∈ event ++ [line], each.length ≤ limit) ∧
      (joinedData event).utf8ByteSize ≤ limit ↔ ¬Over limit event line := by
    simp only [Over, not_or, not_exists, not_and, Nat.not_lt]
  have payload : payloadOf? limit (event ++ [line]) =
      if event.filterMap dataOf? ≠ [] ∧ ¬Over limit event line then some (joinedData event)
      else none := by
    simp only [payloadOf?, joined, within, List.filterMap_append, List.filterMap_cons, read,
      List.filterMap_nil, List.append_nil]
  rw [payload]
  unfold endLine
  by_cases long : Over limit event line
  · simp [after, blank, long, fits, empty]
  · by_cases named : event.filterMap dataOf? = []
    · simp [after, blank, long, fits, empty, named]
    · simp [after, blank, long, fits, empty, named]

/-! Octet by octet. -/

theorem feed_from_seen (framer : Framer) (seen : List String) (octets : List UInt8) :
    framer.feedFrom seen octets =
      ((framer.feed octets).1, seen.reverse ++ (framer.feed octets).2) := by
  induction octets generalizing framer seen with
  | nil => simp [feed, feedFrom]
  | cons octet rest induction =>
      unfold feed feedFrom
      cases stepped : framer.step octet with
      | mk next payload =>
          cases payload with
          | none =>
              simp only
              rw [induction next seen, induction next []]
              simp
          | some text =>
              simp only
              rw [induction next (text :: seen), induction next [text]]
              simp

theorem feed_nil (framer : Framer) : framer.feed [] = (framer, []) := rfl

theorem feed_cons (framer : Framer) (octet : UInt8) (rest : List UInt8) :
    framer.feed (octet :: rest) =
      (((framer.step octet).1.feed rest).1,
        (framer.step octet).2.toList ++ ((framer.step octet).1.feed rest).2) := by
  rw [feed, feedFrom]
  cases stepped : framer.step octet with
  | mk next payload =>
      cases payload with
      | none => exact feed_from_seen next [] rest
      | some text => exact feed_from_seen next [text] rest

/-- A part that is taken after another gives what it gives at the end of both. -/
theorem feed_append (framer : Framer) (part octets : List UInt8) :
    framer.feed (part ++ octets) =
      (((framer.feed part).1.feed octets).1,
        (framer.feed part).2 ++ ((framer.feed part).1.feed octets).2) := by
  induction part generalizing framer with
  | nil => simp [feed_nil]
  | cons octet rest induction =>
      rw [List.cons_append, feed_cons, feed_cons, induction]
      simp only [List.append_assoc]

/-- Takes the parts of a body in turn; each gives a list of payloads. -/
def feedParts (framer : Framer) : List (List UInt8) → List (List String)
  | [] => []
  | part :: parts => (framer.feed part).2 :: (framer.feed part).1.feedParts parts

theorem feed_parts_flatten (framer : Framer) (parts : List (List UInt8)) :
    (framer.feedParts parts).flatten = (framer.feed parts.flatten).2 := by
  induction parts generalizing framer with
  | nil => rfl
  | cons part parts induction =>
      rw [feedParts, List.flatten_cons, induction, List.flatten_cons, feed_append]

/-- From any point between two octets on, the payloads are those of the events that are ended
from there on, with the lines that are already there. -/
theorem feed_after (limit : Nat) {event : List (List UInt8)} {line : List UInt8}
    (unended : Framer.lf ∉ line) (filled : ∀ each ∈ event, ¬IsBlank each) (octets : List UInt8) :
    ((after limit event line).feed octets).2 =
      (eventsOf (event ++ linesOf (line ++ octets))).filterMap (payloadOf? limit) := by
  induction octets generalizing event line with
  | nil =>
      rw [List.append_nil, lines_unended unended, List.append_nil, events_unended filled]
      rfl
  | cons octet rest induction =>
      -- The octet ends a line or belongs to it, and a line ends the event or belongs to it.
      rw [feed_cons, step]
      by_cases ends : octet = lf
      · subst ends
        rw [lines_ended unended, if_pos rfl]
        by_cases blank : IsBlank line
        · rw [end_line_blank limit event blank, events_ended filled blank, List.filterMap_cons,
            induction List.not_mem_nil (fun _ member => absurd member List.not_mem_nil)]
          cases payloadOf? limit (event ++ [line]) with
          | none => rfl
          | some payload => rfl
        · have more : ∀ each ∈ event ++ [line], ¬IsBlank each := by
            simpa [or_imp, forall_and] using And.intro filled blank
          rw [end_line_filled limit event blank, induction List.not_mem_nil more]
          simp
      · have grown : lf ∉ line ++ [octet] := by
          simpa using And.intro unended (Ne.symm ends)
        rw [if_neg ends, keep_after, induction grown filled]
        simp

end Framer

/-- The framer gives the payloads of the body, wherever the body is cut. -/
theorem feed_whole (limit : Nat) (octets : List UInt8) :
    ((Framer.new limit).feed octets).2 = payloadsOf limit octets := by
  rw [Framer.new_after, Framer.feed_after limit List.not_mem_nil
    (fun _ member => absurd member List.not_mem_nil)]
  rfl

end LiveChat.Stream
