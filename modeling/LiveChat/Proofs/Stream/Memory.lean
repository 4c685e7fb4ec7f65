import LiveChat.Proofs.Stream.Resync

/-!
What a framer holds between two octets: at most the limit of the line, at most the limit of the
data, and neither while it discards. The limit is on the text that was decoded, so it does not
matter that an octet which is no text takes three octets there. No payload is longer.
-/

set_option autoImplicit false

namespace LiveChat.Stream

namespace Framer

/-- The limit is kept by what is held, and nothing is held of an event that is discarded. -/
structure Frugal (framer : Framer) : Prop where
  line : framer.line.size ≤ framer.limit
  data : ∀ data ∈ framer.data, data.utf8ByteSize ≤ framer.limit
  discarding : framer.oversized = true → framer.line = #[] ∧ framer.data = none

variable {framer : Framer}

theorem new_frugal (limit : Nat) : (new limit).Frugal :=
  ⟨Nat.zero_le limit, nofun, nofun⟩

theorem discard_frugal (framer : Framer) : framer.discard.Frugal :=
  ⟨Nat.zero_le _, nofun, fun _ => ⟨rfl, rfl⟩⟩

theorem add_data_limit (framer : Framer) (value : String) :
    (framer.addData value).limit = framer.limit := by
  rw [add_data_joined]
  split <;> rfl

theorem add_data_frugal (value : String) (frugal : framer.Frugal)
    (keeping : framer.oversized = false) : (framer.addData value).Frugal := by
  rw [add_data_joined]
  split
  · exact discard_frugal framer
  · next fits =>
    refine ⟨frugal.line, ?_, fun discarding => ?_⟩
    · rintro data ⟨⟩
      exact Nat.not_lt.mp fits
    · exact absurd (keeping.symm.trans discarding) Bool.false_ne_true

theorem keep_limit (framer : Framer) (octet : UInt8) :
    (framer.keep octet).limit = framer.limit := by
  simp only [keep]
  split
  · rfl
  · split <;> rfl

theorem keep_frugal (octet : UInt8) (frugal : framer.Frugal) : (framer.keep octet).Frugal := by
  simp only [keep]
  split
  · exact ⟨frugal.line, frugal.data, frugal.discarding⟩
  · next keeping =>
    split
    · exact discard_frugal _
    · next fits =>
      exact ⟨Nat.not_lt.mp fits, frugal.data, fun discarding => absurd discarding keeping⟩

/-- The line is let go of, and so is the event if it ends. -/
theorem end_line_frugal (frugal : framer.Frugal) :
    framer.endLine.1.limit = framer.limit ∧ framer.endLine.1.Frugal ∧
      ∀ payload ∈ framer.endLine.2, payload.utf8ByteSize ≤ framer.limit := by
  have ended : ({ framer with line := #[], filled := false } : Framer).Frugal :=
    ⟨Nat.zero_le _, frugal.data, fun discarding => ⟨rfl, (frugal.discarding discarding).2⟩⟩
  unfold endLine
  split
  · refine ⟨rfl, ⟨Nat.zero_le _, nofun, nofun⟩, ?_⟩
    simp only
    split
    · exact nofun
    · exact frugal.data
  · split
    · exact ⟨rfl, ended, nofun⟩
    · next keeping =>
      split
      · exact ⟨rfl, ended, nofun⟩
      · next value _ =>
        exact ⟨add_data_limit _ value, add_data_frugal value ended (by simpa using keeping), nofun⟩

theorem step_frugal (octet : UInt8) (frugal : framer.Frugal) :
    (framer.step octet).1.limit = framer.limit ∧ (framer.step octet).1.Frugal ∧
      ∀ payload ∈ (framer.step octet).2, payload.utf8ByteSize ≤ framer.limit := by
  unfold step
  split
  · exact end_line_frugal frugal
  · exact ⟨keep_limit framer octet, keep_frugal octet frugal, nofun⟩

theorem feed_frugal (octets : List UInt8) (frugal : framer.Frugal) :
    (framer.feed octets).1.limit = framer.limit ∧ (framer.feed octets).1.Frugal ∧
      ∀ payload ∈ (framer.feed octets).2, payload.utf8ByteSize ≤ framer.limit := by
  induction octets generalizing framer with
  | nil => exact ⟨rfl, frugal, nofun⟩
  | cons octet octets induction =>
      obtain ⟨same, stepped, emitted⟩ := step_frugal octet frugal
      obtain ⟨kept, after, others⟩ := induction stepped
      rw [feed_cons]
      refine ⟨kept.trans same, after, ?_⟩
      intro payload member
      rcases List.mem_append.mp member with first | later
      · exact emitted payload (Option.mem_toList.mp first)
      · exact same ▸ others payload later

end Framer

/-- After every octet of a body, wherever it is cut, the framer holds no more than the limit of the
line and no more than that of the data, and nothing at all while it discards an event; and no
payload up to there is longer than the limit. The octets are those of the last part so far. -/
theorem held_within_limit (limit : Nat) (earlier : List (List UInt8)) (octets : List UInt8) :
    (((Framer.new limit).afterParts earlier).feed octets).1.limit = limit ∧
      (((Framer.new limit).afterParts earlier).feed octets).1.Frugal ∧
      ∀ payload ∈ ((Framer.new limit).feedParts (earlier ++ [octets])).flatten,
        payload.utf8ByteSize ≤ limit := by
  have together : (((Framer.new limit).afterParts earlier).feed octets).1 =
      ((Framer.new limit).feed (earlier ++ [octets]).flatten).1 := by
    rw [List.flatten_append, List.flatten_singleton, Framer.feed_append,
      Framer.after_parts_flatten]
  rw [together, Framer.feed_parts_flatten]
  exact Framer.feed_frugal _ (Framer.new_frugal limit)

/-- Five octets that are no text fill a line of eleven octets, and fifteen octets of data. -/
example : ((Framer.new 11).feed [100, 97, 116, 97, 58, 32, 255, 255, 255, 255, 255, 10]).1 =
    { Framer.new 11 with oversized := true } := by decide +kernel

end LiveChat.Stream
