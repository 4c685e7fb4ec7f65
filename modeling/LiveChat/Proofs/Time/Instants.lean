import LiveChat.Proofs.Json.Scalars
import LiveChat.Proofs.Time.Calendar
import LiveChat.Time.Instant
import Mathlib.Data.Nat.Digits.Defs

/-!
Points in time that are written are read back, as long as their year in UTC has four digits. With
any other year the sign in front of it is in the way.
-/

set_option autoImplicit false

namespace LiveChat.Time.Instant

theorem is_digit_of {char : Char} (digit : char.isDigit = true) : isDigit char = true := by
  simpa [isDigit, Char.isDigit, Char.le_def] using digit

theorem number_of_eq (digits : List Char) : numberOf digits = Nat.ofDigitChars 10 digits 0 := by
  rw [numberOf, Nat.ofDigitChars]
  congr 1
  funext value digit
  rw [Nat.mul_comm]

/-! Numbers with zeros in front. -/

theorem padded_digits (width value : Nat) : ∀ char ∈ padded width value, isDigit char = true := by
  intro char member
  rcases List.mem_append.mp member with zero | digit
  · rw [List.eq_of_mem_replicate zero]
    decide
  · exact is_digit_of (Nat.isDigit_of_mem_toDigits (by decide) (Nat.le_refl 10) digit)

theorem padded_length {width value : Nat} (short : (Nat.toDigits 10 value).length ≤ width) :
    (padded width value).length = width := by
  rw [padded, List.length_append, List.length_replicate]
  exact Nat.sub_add_cancel short

theorem number_of_zeros (count : Nat) (digits : List Char) :
    numberOf (List.replicate count '0' ++ digits) = numberOf digits := by
  induction count with
  | zero => rfl
  | succ count induction =>
      rw [List.replicate_succ, List.cons_append, ← induction]
      rfl

theorem padded_number (width value : Nat) : numberOf (padded width value) = value := by
  rw [padded, number_of_zeros, number_of_eq]
  exact Nat.ofDigitChars_ten_toDigits

theorem read_number_append {least most : Nat} {digits rest : List Char}
    (all : ∀ char ∈ digits, isDigit char = true) (enough : least ≤ digits.length)
    (few : digits.length ≤ most)
    (ends : ∀ char, (rest.take (most - digits.length)).head? = some char → isDigit char = false) :
    readNumber least most (digits ++ rest) = some (numberOf digits, rest) := by
  have taken : ((digits ++ rest).take most).takeWhile isDigit = digits := by
    rw [List.take_append, List.take_of_length_le few]
    exact (Json.span_append all ends).1
  simp only [readNumber, taken]
  rw [if_neg (Nat.not_lt.mpr enough), List.drop_left]

theorem read_padded {width value : Nat} (rest : List Char)
    (short : (Nat.toDigits 10 value).length ≤ width) :
    readNumber width width (padded width value ++ rest) = some (value, rest) := by
  have length := padded_length short
  rw [read_number_append (padded_digits width value) (Nat.le_of_eq length.symm)
    (Nat.le_of_eq length), padded_number]
  rw [length, Nat.sub_self]
  exact nofun

theorem digits_short {width value : Nat} (positive : 0 < width) (fits : value < Nat.pow 10 width) :
    (Nat.toDigits 10 value).length ≤ width :=
  Nat.toDigits_length 10 value width positive fits

/-! Fractions of a second. -/

theorem read_fraction_padded {width value : Nat} (positive : 1 ≤ width) (few : width ≤ 9)
    (short : (Nat.toDigits 10 value).length ≤ width) :
    readFraction ('.' :: (padded width value ++ ['Z'])) =
      some (value * Nat.pow 10 (9 - width), ['Z']) := by
  have length := padded_length short
  have ends : ∀ char, (['Z'].take (9 - (padded width value).length)).head? = some char →
      isDigit char = false := by
    intro char first
    have found := List.mem_of_mem_take (List.mem_of_head? first)
    rw [List.mem_singleton.mp found]
    decide
  have read := read_number_append (padded_digits width value) (length.symm ▸ positive)
    (length.symm ▸ few) ends
  simp only [readFraction, read, Option.bind_eq_bind, Option.bind_some, padded_number,
    List.length_append, Nat.add_sub_cancel, length]
  rfl

theorem read_fraction_chars {nanoseconds : Nat} (fits : nanoseconds < 1000000000) :
    readFraction (fractionChars nanoseconds ++ ['Z']) = some (nanoseconds, ['Z']) := by
  unfold fractionChars
  by_cases whole : nanoseconds = 0
  · rw [if_pos whole, whole]
    rfl
  rw [if_neg whole]
  by_cases millis : nanoseconds % 1000000 = 0
  · have short : (Nat.toDigits 10 (nanoseconds / 1000000)).length ≤ 3 :=
      digits_short (by decide) (show nanoseconds / 1000000 < 1000 by omega)
    have whole : nanoseconds / 1000000 * Nat.pow 10 (9 - 3) = nanoseconds :=
      Nat.div_mul_cancel (Nat.dvd_of_mod_eq_zero millis)
    rw [if_pos millis, List.cons_append, read_fraction_padded (by decide) (by decide) short, whole]
  rw [if_neg millis]
  by_cases micros : nanoseconds % 1000 = 0
  · have short : (Nat.toDigits 10 (nanoseconds / 1000)).length ≤ 6 :=
      digits_short (by decide) (show nanoseconds / 1000 < 1000000 by omega)
    have whole : nanoseconds / 1000 * Nat.pow 10 (9 - 6) = nanoseconds :=
      Nat.div_mul_cancel (Nat.dvd_of_mod_eq_zero micros)
    rw [if_pos micros, List.cons_append, read_fraction_padded (by decide) (by decide) short, whole]
  · have short : (Nat.toDigits 10 nanoseconds).length ≤ 9 := digits_short (by decide) fits
    rw [if_neg micros, List.cons_append, read_fraction_padded (by decide) (by decide) short]
    exact congrArg some (congrArg (·, ['Z']) (Nat.mul_one nanoseconds))

/-! Points in time. -/

/-- The fields that are written. A leap second is the sixtieth of its minute. -/
def reading (instant : Instant) : Reading :=
  { date := Date.ofDays (instant.seconds / 86400)
    hour := (instant.seconds % 86400).toNat / 3600
    minute := (instant.seconds % 86400).toNat / 60 % 60
    second := (instant.seconds % 86400).toNat % 60 + instant.nanoseconds / 1000000000
    nanoseconds := instant.nanoseconds % 1000000000
    offset := 0 }

/-- A year of four digits in UTC, as RFC 3339 has it. -/
def Civil (instant : Instant) : Prop :=
  0 ≤ instant.reading.date.year ∧ instant.reading.date.year ≤ 9999

instance (instant : Instant) : Decidable instant.Civil := inferInstanceAs (Decidable (_ ∧ _))

/-- A point of the calendar. A leap second follows the last second of a minute. -/
structure Proper (instant : Instant) : Prop where
  inRange : instant.inRange = true
  few : instant.nanoseconds < 2000000000
  leap : 1000000000 ≤ instant.nanoseconds → instant.seconds % 60 = 59

variable {instant : Instant}

theorem chars_eq (instant : Instant) :
    instant.chars = yearChars instant.reading.date.year ++
      '-' :: (padded 2 instant.reading.date.month ++ '-' :: (padded 2 instant.reading.date.day ++
        'T' :: (padded 2 instant.reading.hour ++ ':' :: (padded 2 instant.reading.minute ++
          ':' :: (padded 2 instant.reading.second ++
            (fractionChars instant.reading.nanoseconds ++ ['Z'])))))) := by
  simp only [chars, reading, List.append_assoc, List.cons_append]

theorem date_bounds {date : Date} (valid : date.valid = true) :
    1 ≤ date.month ∧ date.month ≤ 12 ∧ 1 ≤ date.day ∧ date.day ≤ 31 := by
  simp only [Date.valid, Bool.and_eq_true, decide_eq_true_eq] at valid
  have longest : Date.daysInMonth date.year date.month ≤ 31 := by
    unfold Date.daysInMonth
    split_ifs <;> omega
  omega

theorem time_bounds (few : instant.nanoseconds < 2000000000) :
    instant.reading.hour ≤ 23 ∧ instant.reading.minute ≤ 59 ∧ instant.reading.second ≤ 60 ∧
      instant.reading.nanoseconds < 1000000000 := by
  simp only [reading]
  omega

theorem read_year {year : Int} (low : 0 ≤ year) (high : year ≤ 9999) (rest : List Char) :
    readNumber 4 4 (yearChars year ++ rest) = some (year.toNat, rest) := by
  rw [yearChars, if_pos ⟨low, high⟩]
  exact read_padded rest (digits_short (by decide) (show year.toNat < 10000 by omega))

theorem read_two {value : Nat} (fits : value < 100) (rest : List Char) :
    readNumber 2 2 (padded 2 value ++ rest) = some (value, rest) :=
  read_padded rest (digits_short (by decide) fits)

theorem read_strict_chars (civil : instant.Civil) (few : instant.nanoseconds < 2000000000) :
    readStrict instant.chars = some (instant.reading, []) := by
  have day := date_bounds (Date.of_days_valid (instant.seconds / 86400))
  have time := time_bounds few
  have year : (instant.reading.date.year.toNat : Int) = instant.reading.date.year :=
    Int.toNat_of_nonneg civil.1
  have mark : ∀ rest, readSeparator ('T' :: rest) = some rest := fun _ => rfl
  have zone : readOffset (readChar ':') ['Z'] = some (0, []) := rfl
  rw [chars_eq]
  simp only [readStrict, readChar, if_true, Option.bind_eq_bind, Option.bind_some, mark, zone,
    read_year civil.1 civil.2, year, read_fraction_chars time.2.2.2,
    read_two (show instant.reading.date.month < 100 by simp only [reading]; omega),
    read_two (show instant.reading.date.day < 100 by simp only [reading]; omega),
    read_two (show instant.reading.hour < 100 by omega),
    read_two (show instant.reading.minute < 100 by omega),
    read_two (show instant.reading.second < 100 by omega)]
  rfl

theorem instant_of_reading (proper : instant.Proper) : instant.reading.instant = instant := by
  have few := proper.few
  have leap := proper.leap
  obtain ⟨seconds, nanoseconds⟩ := instant
  dsimp only at few leap
  simp only [reading, Reading.instant, Date.toDays_ofDays, Instant.mk.injEq]
  omega

theorem reading_valid (civil : instant.Civil) (few : instant.nanoseconds < 2000000000) :
    instant.reading.valid = true := by
  have time := time_bounds few
  obtain ⟨low, high⟩ := civil
  have date : instant.reading.date.valid = true := Date.of_days_valid _
  have zone : instant.reading.offset.natAbs < 24 * 60 := by
    rw [show instant.reading.offset = 0 from rfl]
    decide
  have early : earliestYear ≤ instant.reading.date.year := Int.le_trans (by decide) low
  have late : instant.reading.date.year ≤ latestYear := Int.le_trans high (by decide)
  simp only [Reading.valid, Bool.and_eq_true, decide_eq_true_eq]
  exact ⟨⟨⟨⟨⟨⟨date, early⟩, late⟩, time.1⟩, time.2.1⟩, time.2.2.1⟩, zone⟩

/-- What is written with a year of four digits is read back. -/
theorem parse_rendered (civil : instant.Civil) (proper : instant.Proper) :
    parse instant.render = some instant := by
  have back := instant_of_reading proper
  simp only [parse, render, String.toList_ofList, read_strict_chars civil proper.few,
    Option.bind_eq_bind, Option.bind_some, Reading.instant?, reading_valid civil proper.few, back,
    proper.inRange]
  rfl

/-- A sign in front of the year is not read. -/
theorem parse_render_signed (signed : ¬instant.Civil) : parse instant.render = none := by
  have sign : ∃ char rest, isDigit char = false ∧
      yearChars instant.reading.date.year = char :: rest := by
    rw [Civil] at signed
    rw [yearChars, if_neg signed]
    split
    · exact ⟨'-', _, by decide, rfl⟩
    · exact ⟨'+', _, by decide, rfl⟩
  obtain ⟨char, rest, other, written⟩ := sign
  have refused : ∀ more, readNumber 4 4 (char :: more) = none := by
    intro more
    have taken : ((char :: more).take 4).takeWhile isDigit = [] := by
      rw [List.take_succ_cons, List.takeWhile_cons_of_neg (by simp [other])]
    simp only [readNumber, taken]
    rfl
  simp only [parse, render, String.toList_ofList, readStrict, chars_eq, written, List.cons_append,
    refused, Option.bind_eq_bind, Option.bind_none]

/-! What is read is a point of the calendar. -/

theorem number_lt {digits : List Char} (all : ∀ char ∈ digits, isDigit char = true) :
    numberOf digits < Nat.pow 10 digits.length := by
  induction digits with
  | nil => decide
  | cons digit digits induction =>
      have smaller := induction fun char member => all char (List.mem_cons_of_mem digit member)
      have first : digit.toNat - '0'.toNat ≤ 9 := by
        have high := all digit List.mem_cons_self
        simp only [isDigit, Bool.and_eq_true, decide_eq_true_eq, Char.le_def,
          UInt32.le_iff_toNat_le] at high
        exact Nat.sub_le_of_le_add high.2
      have longer : Nat.pow 10 (digit :: digits).length = Nat.pow 10 digits.length * 10 := rfl
      have most := Nat.mul_le_mul_left (Nat.pow 10 digits.length) first
      rw [number_of_eq] at smaller
      rw [longer, number_of_eq, Nat.ofDigitChars_cons, Nat.mul_zero, Nat.zero_add,
        Nat.ofDigitChars_eq_ofDigitChars_zero]
      change Nat.pow 10 digits.length * (digit.toNat - '0'.toNat) +
        Nat.ofDigitChars 10 digits 0 < Nat.pow 10 digits.length * 10
      omega

theorem read_number_digits {least most value : Nat} {input rest : List Char}
    (read : readNumber least most input = some (value, rest)) :
    ∃ digits, input = digits ++ rest ∧ digits.length ≤ most ∧ value < Nat.pow 10 digits.length := by
  simp only [readNumber] at read
  split at read
  · cases read
  · cases read
    have all : ∀ char ∈ (input.take most).takeWhile isDigit, isDigit char = true :=
      List.all_eq_true.mp List.all_takeWhile
    have start : (input.take most).takeWhile isDigit <+: input :=
      List.IsPrefix.trans (List.takeWhile_prefix isDigit) (List.take_prefix most input)
    refine ⟨_, List.prefix_iff_eq_append.mp start |>.symm, ?_, number_lt all⟩
    have shorter := (List.takeWhile_prefix (l := input.take most) isDigit).length_le
    rw [List.length_take] at shorter
    omega

/-- Of a fraction nine digits count. -/
theorem read_fraction_lt {input rest : List Char} {nanoseconds : Nat}
    (read : readFraction input = some (nanoseconds, rest)) : nanoseconds < 1000000000 := by
  unfold readFraction at read
  split at read
  · next digits =>
    obtain ⟨⟨value, left⟩, taken, same⟩ := Option.bind_eq_some_iff.mp read
    obtain ⟨front, rfl, few, small⟩ := read_number_digits taken
    cases same
    rw [List.length_append, Nat.add_sub_cancel]
    have room : Nat.pow 10 front.length * Nat.pow 10 (9 - front.length) = 1000000000 := by
      have whole : front.length + (9 - front.length) = 9 := by omega
      have parts := Nat.pow_add 10 front.length (9 - front.length)
      rw [whole] at parts
      exact parts.symm
    have scale : 0 < Nat.pow 10 (9 - front.length) := Nat.pow_pos (by decide)
    exact Nat.lt_of_lt_of_eq (Nat.mul_lt_mul_of_pos_right small scale) room
  · cases read
    decide

theorem of_millis_proper {millis : Int} (made : ofMillis? millis = some instant) :
    instant.Proper := by
  simp only [ofMillis?, Option.ite_none_right_eq_some, Option.some.injEq] at made
  obtain ⟨inRange, rfl⟩ := made
  constructor
  · exact inRange
  · dsimp only
    omega
  · dsimp only
    omega

theorem of_reading_proper {reading : Reading} (fits : reading.nanoseconds < 1000000000)
    (made : reading.instant? = some instant) : instant.Proper := by
  simp only [Reading.instant?, Bool.and_eq_true, Option.ite_none_right_eq_some,
    Option.some.injEq] at made
  obtain ⟨⟨valid, inRange⟩, rfl⟩ := made
  simp only [Reading.valid, Bool.and_eq_true, decide_eq_true_eq] at valid
  have second := valid.1.2
  refine ⟨inRange, ?_, ?_⟩
  · simp only [Reading.instant]
    omega
  · intro leap
    simp only [Reading.instant] at leap ⊢
    have sixtieth : reading.second = 60 := by omega
    have before : ((60 - 60 / 60 : Nat) : Int) = 59 := rfl
    rw [sixtieth, before]
    omega

theorem read_strict_lt {input rest : List Char} {reading : Reading}
    (read : readStrict input = some (reading, rest)) : reading.nanoseconds < 1000000000 := by
  simp only [readStrict, Option.bind_eq_bind, Option.bind_eq_some_iff, Prod.exists,
    Option.some.injEq, Prod.mk.injEq] at read
  obtain ⟨year, _, _, _, _, month, _, _, _, _, day, _, _, _, _, hour, _, _, _, _, minute, _, _, _, _,
    second, _, _, nanoseconds, _, fraction, offset, _, _, rfl, _⟩ := read
  exact read_fraction_lt fraction

theorem parse_proper {text : String} (read : parse text = some instant) : instant.Proper := by
  simp only [parse, Option.bind_eq_bind, Option.bind_eq_some_iff, Prod.exists,
    Option.ite_none_right_eq_some] at read
  obtain ⟨reading, rest, taken, _, made⟩ := read
  exact of_reading_proper (read_strict_lt taken) made

end LiveChat.Time.Instant
