import LiveChat.Proofs.Stream.Resync

/-!
Which events the limit costs. An event is lost when its data is over the limit, and also when one
of its lines is, whatever that line says: the name of a field, a comment and a CR count as well. So
small data is lost beside a long line.
-/

set_option autoImplicit false

namespace LiveChat.Stream

open Text.Utf8

/-- A line of the event is over the limit as it came, with all that is not data. -/
def LongLine (limit : Nat) (event : List (List UInt8)) : Prop :=
  ∃ line ∈ event, limit < line.length

instance (limit : Nat) (event : List (List UInt8)) : Decidable (LongLine limit event) :=
  inferInstanceAs (Decidable (∃ line ∈ event, limit < line.length))

theorem payload_of_told {limit : Nat} {event : List (List UInt8)}
    (told : event.filterMap dataOf? ≠ []) :
    payloadOf? limit event =
      if limit < (joinedData event).utf8ByteSize ∨ LongLine limit event then none
      else some (joinedData event) := by
  have within : (event.filterMap dataOf? ≠ [] ∧ (∀ line ∈ event, line.length ≤ limit) ∧
      (joinedData event).utf8ByteSize ≤ limit) ↔
        ¬(limit < (joinedData event).utf8ByteSize ∨ LongLine limit event) := by
    simp only [told, ne_eq, not_false_eq_true, true_and, LongLine, not_or, not_exists, not_and,
      Nat.not_lt]
    exact and_comm
  rw [payloadOf?, if_congr within rfl rfl, ite_not]

/-- However the body is cut, a complete event with a data line gives what its data lines hold,
unless that is over the limit or a line of the event is. What comes before and after it is had as
if it were not there. -/
theorem told_event_lost_iff (limit : Nat) (parts : List (List UInt8))
    {earlier later : List (List (List UInt8))} {event : List (List UInt8)}
    (complete : eventsOf (linesOf parts.flatten) = earlier ++ event :: later)
    (told : event.filterMap dataOf? ≠ []) :
    ((Framer.new limit).feedParts parts).flatten =
      earlier.filterMap (payloadOf? limit) ++
        (if limit < (joinedData event).utf8ByteSize ∨ LongLine limit event then []
          else [joinedData event]) ++
        later.filterMap (payloadOf? limit) := by
  rw [Framer.feed_parts_flatten, feed_whole, payloadsOf, complete, List.filterMap_append,
    List.filterMap_cons, payload_of_told told]
  by_cases lost : limit < (joinedData event).utf8ByteSize ∨ LongLine limit event
  · simp only [if_pos lost, List.append_nil]
  · simp only [if_neg lost, List.append_assoc, List.singleton_append]

/-- Three events, the second with a CR at the end of its lines. -/
def returned : List (List UInt8) :=
  [encode "data: ok\n\ndata: ok\r", encode "\n\r\n", encode "data: 1\n\n"]

/-- With a limit of eight octets the second event is lost for the CR of its line. -/
theorem returned_event_lost :
    eventsOf (linesOf returned.flatten) =
        [[encode "data: ok", []]] ++ [encode "data: ok\r", [13]] :: [[encode "data: 1", []]] ∧
      [encode "data: ok\r", [13]].filterMap dataOf? = ["ok"] ∧
      ((Framer.new 8).feedParts returned).flatten = ["ok", "1"] := by
  have complete : eventsOf (linesOf returned.flatten) =
      [[encode "data: ok", []]] ++ [encode "data: ok\r", [13]] :: [[encode "data: 1", []]] := by
    decide +kernel
  have told : [encode "data: ok\r", [13]].filterMap dataOf? = ["ok"] := by decide +kernel
  refine ⟨complete, told, ?_⟩
  rw [told_event_lost_iff 8 _ complete (by rw [told]; exact List.cons_ne_nil _ _)]
  decide +kernel

/-- One octet of data is lost for the comment beside it. -/
theorem commented_event_lost :
    ¬∀ (limit : Nat) (parts : List (List UInt8)) (event : List (List UInt8)),
      eventsOf (linesOf parts.flatten) = [event] → event.filterMap dataOf? ≠ [] →
        (((Framer.new limit).feedParts parts).flatten = [] ↔
          limit < (joinedData event).utf8ByteSize) := by
  intro exact
  have lost := (exact 8 [encode ": keepalive\ndata: a\n\n"]
    [encode ": keepalive", encode "data: a", []] (by decide +kernel) (by decide +kernel)).mp
      (by decide +kernel)
  revert lost
  decide +kernel

end LiveChat.Stream
