import LiveChat.Text.Utf8

/-!
Octets below 128 stand for themselves, and nothing else is read as one of their characters: no
longer part, and no ill-formed one. So a text can be cut at such a character before it is decoded
as well as afterwards. Every text is read back from the octets it is written in.
-/

set_option autoImplicit false

namespace LiveChat.Text.Utf8

/-- The characters that are read where nothing is refused. -/
def lossyChars (octets : List UInt8) : List Char := (leads octets).map (·.getD '\uFFFD')

theorem lossy_chars_nil : lossyChars [] = [] := by simp [lossyChars, leads, leadsFrom]

theorem decode_lossy_chars (octets : List UInt8) :
    (decodeLossy octets).toList = lossyChars octets :=
  String.toList_ofList

theorem leads_from_seen (seen : List (Option Char)) (octets : List UInt8) :
    leadsFrom seen octets = seen.reverse ++ leads octets := by
  match octets with
  | [] => simp [leads, leadsFrom]
  | first :: rest =>
      have shorter := lead_rest_length first rest
      rw [leads, leadsFrom, leads_from_seen, leadsFrom, leads_from_seen [_]]
      simp
  termination_by octets.length
  decreasing_by all_goals simp only [List.length_cons]; omega

theorem lossy_chars_cons (first : UInt8) (rest : List UInt8) :
    lossyChars (first :: rest) =
      (lead first rest).scalar.getD '\uFFFD' :: lossyChars (lead first rest).rest := by
  rw [lossyChars, leads, leadsFrom, leads_from_seen]
  rfl

/-- The character takes one octet. The one whose number is zero is left out, since it also
takes the place of numbers that no character has. -/
def OneOctet (char : Char) : Prop := 0 < char.toNat ∧ char.toNat < 128

theorem of_nat_long {value : Nat} (long : 128 ≤ value) : ¬OneOctet (Char.ofNat value) := by
  have either : (Char.ofNat value).toNat = value ∨ (Char.ofNat value).toNat = 0 := by
    by_cases valid : value.isValidChar
    · left
      rw [Char.ofNat, dif_pos valid]
      rfl
    · right
      rw [Char.ofNat, dif_neg valid]
      rfl
  unfold OneOctet
  omega

/-- The second octet makes up for a first one that adds nothing. -/
theorem second_ok_low {first second : UInt8} (ok : secondOk first second = true) :
    (first.toNat = 0xE0 → 32 ≤ low6 second) ∧ (first.toNat = 0xF0 → 16 ≤ low6 second) := by
  constructor
  · intro least
    have same : first = 0xE0 := UInt8.toNat_inj.mp least
    simp [secondOk, same, UInt8.le_iff_toNat_le] at ok
    unfold low6
    omega
  · intro least
    have same : first = 0xF0 := UInt8.toNat_inj.mp least
    simp [secondOk, same, UInt8.le_iff_toNat_le] at ok
    unfold low6
    omega

/-- A part that starts with a higher octet is never read as a character of one octet. -/
theorem scalar_long {first : UInt8} (rest : List UInt8) (high : ¬first < 0x80) :
    ¬OneOctet ((lead first rest).scalar.getD '\uFFFD') := by
  have lost : ¬OneOctet '\uFFFD' := by simp [OneOctet]
  unfold lead
  rw [if_neg high]
  split
  · exact lost
  · next bounds =>
    simp only [Bool.or_eq_true, decide_eq_true_eq, not_or, UInt8.not_lt, UInt8.le_iff_toNat_le,
      UInt8.reduceToNat] at bounds
    split
    · exact lost
    · next second rest2 =>
      split
      · exact lost
      · next allowed =>
        have low := @second_ok_low first second (by simpa using allowed)
        split
        · next two =>
          simp only [UInt8.lt_iff_toNat_lt, UInt8.reduceToNat] at two
          apply of_nat_long
          omega
        · next more =>
          simp only [UInt8.not_lt, UInt8.le_iff_toNat_le, UInt8.reduceToNat] at more
          split
          · exact lost
          · split
            · exact lost
            · split
              · next three =>
                simp only [UInt8.lt_iff_toNat_lt, UInt8.reduceToNat] at three
                apply of_nat_long
                omega
              · next four =>
                simp only [UInt8.not_lt, UInt8.le_iff_toNat_le, UInt8.reduceToNat] at four
                split
                · exact lost
                · split
                  · exact lost
                  · apply of_nat_long
                    omega

theorem low_not_tail {octet : UInt8} (low : octet < 0x80) : isTail octet = false := by
  simp only [isTail, Bool.and_eq_false_iff, decide_eq_false_iff_not, UInt8.not_le]
  exact .inl low

theorem low_not_second {octet : UInt8} (first : UInt8) (low : octet < 0x80) :
    secondOk first octet = false := by
  have small : octet.toNat < 128 := low
  unfold secondOk isTail
  simp only [UInt8.le_iff_toNat_le, UInt8.reduceToNat]
  repeat' split
  all_goals simp only [Bool.and_eq_false_iff, decide_eq_false_iff_not]; omega

/-- No octet that a low one follows takes that one in. -/
theorem lead_append {first : UInt8} (rest : List UInt8) {more : List UInt8}
    (stops : ∀ octet, more.head? = some octet → octet < 0x80) :
    lead first (rest ++ more) = ⟨(lead first rest).scalar, (lead first rest).rest ++ more⟩ := by
  have noTail : ∀ octet later, more = octet :: later →
      isTail octet = false ∧ secondOk first octet = false := by
    rintro octet later rfl
    have low := stops octet rfl
    exact ⟨low_not_tail low, low_not_second first low⟩
  unfold lead
  split
  · rfl
  · split
    · rfl
    · match rest with
      | [] =>
          cases more with
          | nil => rfl
          | cons octet later => simp [(noTail octet later rfl).2]
      | [second] =>
          simp only [List.cons_append, List.nil_append]
          split
          · rfl
          · split
            · rfl
            · cases more with
              | nil => rfl
              | cons octet later => simp [(noTail octet later rfl).1]
      | [second, third] =>
          simp only [List.cons_append, List.nil_append]
          split
          · rfl
          · split
            · rfl
            · split
              · rfl
              · split
                · rfl
                · cases more with
                  | nil => rfl
                  | cons octet later => simp [(noTail octet later rfl).1]
      | second :: third :: fourth :: later =>
          simp only [List.cons_append]
          repeat' split
          all_goals rfl

/-- What is cut before a low octet can be read by itself. -/
theorem lossy_chars_append (octets : List UInt8) {more : List UInt8}
    (stops : ∀ octet, more.head? = some octet → octet < 0x80) :
    lossyChars (octets ++ more) = lossyChars octets ++ lossyChars more := by
  match octets with
  | [] => rw [lossy_chars_nil, List.nil_append, List.nil_append]
  | first :: rest =>
      have shorter := lead_rest_length first rest
      rw [List.cons_append, lossy_chars_cons, lead_append rest stops, lossy_chars_cons,
        lossy_chars_append (lead first rest).rest stops]
      rfl
  termination_by octets.length
  decreasing_by simp only [List.length_cons]; omega

theorem lossy_chars_low {first : UInt8} (low : first < 0x80) (rest : List UInt8) :
    lossyChars (first :: rest) = Char.ofNat first.toNat :: lossyChars rest := by
  have alone : lead first rest = ⟨some (Char.ofNat first.toNat), rest⟩ := if_pos low
  rw [lossy_chars_cons, alone]
  rfl

/-- Where a character of one octet is read, there stands that octet. -/
theorem lossy_chars_uncons {octets : List UInt8} {char : Char} {chars : List Char}
    (short : OneOctet char) (read : lossyChars octets = char :: chars) :
    ∃ rest, octets = char.toNat.toUInt8 :: rest ∧ lossyChars rest = chars := by
  cases octets with
  | nil => simp [lossy_chars_nil] at read
  | cons first rest =>
      by_cases low : first < 0x80
      · rw [lossy_chars_low low] at read
        obtain ⟨rfl, rfl⟩ := List.cons.inj read
        refine ⟨rest, ?_, rfl⟩
        have small : first.toNat < 128 := by
          simpa only [UInt8.lt_iff_toNat_lt, UInt8.reduceToNat] using low
        have number : (Char.ofNat first.toNat).toNat = first.toNat := by
          unfold Char.ofNat
          rw [dif_pos (.inl (by omega))]
          rfl
        rw [number]
        simp
      · rw [lossy_chars_cons] at read
        have long := scalar_long rest low
        rw [(List.cons.inj read).1] at long
        exact absurd short long

theorem lossy_chars_nil_iff (octets : List UInt8) : lossyChars octets = [] ↔ octets = [] := by
  cases octets with
  | nil => simp [lossy_chars_nil]
  | cons first rest => simp [lossy_chars_cons]

theorem lead_rest_subset (first : UInt8) (rest : List UInt8) : (lead first rest).rest ⊆ rest := by
  unfold lead
  repeat' split
  all_goals
    intro octet member
    simp [member]

/-- A character of one octet is only read where that octet is. -/
theorem mem_of_lossy_mem {octets : List UInt8} {char : Char} (short : OneOctet char)
    (member : char ∈ lossyChars octets) : char.toNat.toUInt8 ∈ octets := by
  match octets with
  | [] => simp [lossy_chars_nil] at member
  | first :: rest =>
      have shorter := lead_rest_length first rest
      rw [lossy_chars_cons] at member
      rcases List.mem_cons.mp member with here | later
      · have read : lossyChars (first :: rest) = char :: lossyChars (lead first rest).rest := by
          rw [lossy_chars_cons, here]
        obtain ⟨rest, same, _⟩ := lossy_chars_uncons short read
        rw [(List.cons.inj same).1]
        exact List.mem_cons_self
      · have found := mem_of_lossy_mem short later
        exact List.mem_cons_of_mem first (lead_rest_subset first rest found)
  termination_by octets.length
  decreasing_by simp only [List.length_cons]; omega

theorem others_pass {Item : Type} [DecidableEq Item] {item : Item} {items : List Item}
    (absent : item ∉ items) : ∀ each ∈ items, decide (each ≠ item) = true := by
  intro each member
  simp only [decide_eq_true_eq]
  rintro rfl
  exact absent member

theorem cut_absent {Item : Type} [DecidableEq Item] {item : Item} {items : List Item}
    (absent : item ∉ items) :
    items.takeWhile (· ≠ item) = items ∧ items.dropWhile (· ≠ item) = [] := by
  have taken := @List.takeWhile_append_of_pos _ _ items [] (others_pass absent)
  have dropped := @List.dropWhile_append_of_pos _ _ items [] (others_pass absent)
  simpa using And.intro taken dropped

theorem cut_found {Item : Type} [DecidableEq Item] {item : Item} {before : List Item}
    (absent : item ∉ before) (after : List Item) :
    (before ++ item :: after).takeWhile (· ≠ item) = before ∧
      (before ++ item :: after).dropWhile (· ≠ item) = item :: after := by
  rw [List.takeWhile_append_of_pos (others_pass absent),
    List.dropWhile_append_of_pos (others_pass absent)]
  simp

/-- Cutting before a character of one octet and cutting before its octet come to the same. -/
theorem lossy_chars_cut {char : Char} (short : OneOctet char) (octets : List UInt8) :
    (lossyChars octets).takeWhile (· ≠ char) =
        lossyChars (octets.takeWhile (· ≠ char.toNat.toUInt8)) ∧
      (lossyChars octets).dropWhile (· ≠ char) =
        lossyChars (octets.dropWhile (· ≠ char.toNat.toUInt8)) := by
  have number : char.toNat.toUInt8.toNat = char.toNat := by
    simp only [Nat.toUInt8_eq, UInt8.toNat_ofNat']
    exact Nat.mod_eq_of_lt (by unfold OneOctet at short; omega)
  have low : char.toNat.toUInt8 < 0x80 := by
    rw [UInt8.lt_iff_toNat_lt, number]
    exact short.2
  by_cases found : char.toNat.toUInt8 ∈ octets
  · obtain ⟨before, after, rfl, absent⟩ := List.eq_append_cons_of_mem found
    have stops : ∀ octet, (char.toNat.toUInt8 :: after).head? = some octet → octet < 0x80 := by
      rintro octet ⟨⟩
      exact low
    have unread : char ∉ lossyChars before := fun member => absent (mem_of_lossy_mem short member)
    rw [lossy_chars_append before stops, lossy_chars_low low, number, Char.ofNat_toNat]
    obtain ⟨taken, dropped⟩ := cut_found absent after
    obtain ⟨read, rest⟩ := cut_found unread (lossyChars after)
    rw [taken, dropped, read, rest, lossy_chars_low low, number, Char.ofNat_toNat]
    exact ⟨rfl, rfl⟩
  · have unread : char ∉ lossyChars octets := fun member => found (mem_of_lossy_mem short member)
    obtain ⟨taken, dropped⟩ := cut_absent found
    obtain ⟨read, rest⟩ := cut_absent unread
    rw [taken, dropped, read, rest]
    exact ⟨rfl, lossy_chars_nil.symm⟩

/-! What is written is read back. -/

theorem number_of {octet : Nat} (small : octet < 256) : (UInt8.ofNat octet).toNat = octet := by
  rw [UInt8.toNat_ofNat']
  omega

theorem tail_low6 {bits : Nat} (short : bits < 64) :
    isTail (UInt8.ofNat (bits + 128)) = true ∧ low6 (UInt8.ofNat (bits + 128)) = bits := by
  have number := @number_of (bits + 128) (by omega)
  constructor
  · simp only [isTail, UInt8.le_iff_toNat_le, number, UInt8.reduceToNat, Bool.and_eq_true,
      decide_eq_true_eq]
    omega
  · rw [low6, number]
    omega

/-- The first octet decides how much the bits of the second one may be. -/
theorem second_ok_of {first : UInt8} {bits : Nat} (short : bits < 64)
    (three : first.toNat = 0xE0 → 32 ≤ bits) (surrogate : first.toNat = 0xED → bits < 32)
    (four : first.toNat = 0xF0 → 16 ≤ bits) (last : first.toNat = 0xF4 → bits < 16) :
    secondOk first (UInt8.ofNat (bits + 128)) = true := by
  have number := @number_of (bits + 128) (by omega)
  simp only [secondOk, tail_low6 short, ← UInt8.toNat_inj, UInt8.le_iff_toNat_le, number,
    UInt8.reduceToNat]
  repeat' split
  all_goals simp only [Bool.and_eq_true, decide_eq_true_eq]
  all_goals omega

theorem lead_one {first : Nat} (low : first < 128) (rest : List UInt8) :
    lead (UInt8.ofNat first) rest = ⟨some (Char.ofNat first), rest⟩ := by
  have number := @number_of first (by omega)
  unfold lead
  rw [number, if_pos]
  simpa only [UInt8.lt_iff_toNat_lt, number, UInt8.reduceToNat] using low

theorem lead_two {first second : Nat} (least : 2 ≤ first) (most : first < 32)
    (tail : second < 64) (rest : List UInt8) :
    lead (UInt8.ofNat (first + 192)) (UInt8.ofNat (second + 128) :: rest) =
      ⟨some (Char.ofNat (first * 64 + second)), rest⟩ := by
  have number := @number_of (first + 192) (by omega)
  have ok : secondOk (UInt8.ofNat (first + 192)) (UInt8.ofNat (second + 128)) = true :=
    second_ok_of tail (by omega) (by omega) (by omega) (by omega)
  have bits : (first + 192) % 32 = first := by omega
  simp only [lead, UInt8.lt_iff_toNat_lt, number, UInt8.reduceToNat, ok, tail_low6 tail, bits,
    Bool.not_true, Bool.false_eq_true, if_false]
  rw [if_neg (by omega), if_neg (by simp; omega), if_pos (by omega)]

theorem lead_three {first second third : Nat} (most : first < 16) (tail : second < 64)
    (last : third < 64) (least : first = 0 → 32 ≤ second) (surrogate : first = 13 → second < 32)
    (rest : List UInt8) :
    lead (UInt8.ofNat (first + 224))
        (UInt8.ofNat (second + 128) :: UInt8.ofNat (third + 128) :: rest) =
      ⟨some (Char.ofNat ((first * 64 + second) * 64 + third)), rest⟩ := by
  have number := @number_of (first + 224) (by omega)
  have ok : secondOk (UInt8.ofNat (first + 224)) (UInt8.ofNat (second + 128)) = true :=
    second_ok_of tail (by omega) (by omega) (by omega) (by omega)
  have bits : (first + 224) % 16 = first := by omega
  simp only [lead, UInt8.lt_iff_toNat_lt, number, UInt8.reduceToNat, ok, tail_low6 tail,
    tail_low6 last, bits, Bool.not_true, Bool.false_eq_true, if_false]
  rw [if_neg (by omega), if_neg (by simp; omega), if_neg (by omega), if_pos (by omega)]

theorem lead_four {first second third fourth : Nat} (most : first < 5) (tail : second < 64)
    (next : third < 64) (last : fourth < 64) (least : first = 0 → 16 ≤ second)
    (highest : first = 4 → second < 16) (rest : List UInt8) :
    lead (UInt8.ofNat (first + 240))
        (UInt8.ofNat (second + 128) :: UInt8.ofNat (third + 128) :: UInt8.ofNat (fourth + 128) ::
          rest) =
      ⟨some (Char.ofNat (((first * 64 + second) * 64 + third) * 64 + fourth)), rest⟩ := by
  have number := @number_of (first + 240) (by omega)
  have ok : secondOk (UInt8.ofNat (first + 240)) (UInt8.ofNat (second + 128)) = true :=
    second_ok_of tail (by omega) (by omega) (by omega) (by omega)
  have bits : (first + 240) % 8 = first := by omega
  simp only [lead, UInt8.lt_iff_toNat_lt, number, UInt8.reduceToNat, ok, tail_low6 tail,
    tail_low6 next, tail_low6 last, bits, Bool.not_true, Bool.false_eq_true, if_false]
  rw [if_neg (by omega), if_neg (by simp; omega), if_neg (by omega), if_neg (by omega)]

/-- The octets of a character are read as that character, whatever follows them. -/
theorem lead_encoded (char : Char) (rest : List UInt8) :
    ∃ first others, String.utf8EncodeChar char = first :: others ∧
      lead first (others ++ rest) = ⟨some char, rest⟩ := by
  have valid : char.toNat < 0xD800 ∨ 0xDFFF < char.toNat ∧ char.toNat < 0x110000 := char.valid
  have read : ∀ number, number = char.toNat → Char.ofNat number = char := by
    rintro number rfl
    exact Char.ofNat_toNat char
  have number : char.val.toNat = char.toNat := rfl
  unfold String.utf8EncodeChar
  simp only [number]
  split
  · refine ⟨_, _, rfl, ?_⟩
    rw [List.nil_append, lead_one (by omega), read _ rfl]
  · split
    · refine ⟨_, _, rfl, ?_⟩
      rw [List.cons_append, List.nil_append, lead_two (by omega) (by omega) (by omega),
        read _ (by omega)]
    · split
      · refine ⟨_, _, rfl, ?_⟩
        rw [List.cons_append, List.cons_append, List.nil_append,
          lead_three (by omega) (by omega) (by omega) (by omega) (by omega), read _ (by omega)]
      · refine ⟨_, _, rfl, ?_⟩
        rw [List.cons_append, List.cons_append, List.cons_append, List.nil_append,
          lead_four (by omega) (by omega) (by omega) (by omega) (by omega) (by omega),
          read _ (by omega)]

theorem lossy_chars_encoded (chars : List Char) :
    lossyChars (chars.flatMap String.utf8EncodeChar) = chars := by
  induction chars with
  | nil => exact lossy_chars_nil
  | cons char chars induction =>
      obtain ⟨first, others, octets, read⟩ :=
        lead_encoded char (chars.flatMap String.utf8EncodeChar)
      rw [List.flatMap_cons, octets, List.cons_append, lossy_chars_cons, read, induction]
      rfl

theorem decode_encode (text : String) : decodeLossy (encode text) = text := by
  rw [← String.toList_inj, decode_lossy_chars, encode, lossy_chars_encoded]

end LiveChat.Text.Utf8
