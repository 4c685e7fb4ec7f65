import LiveChat.Proofs.Json.Grammar

/-!
What is read is what the grammar spells, and all that it spells is read.
-/

set_option autoImplicit false

namespace LiveChat.Json

variable {rest : List Char}

theorem span_append {Item : Type} {test : Item → Bool} {first rest : List Item}
    (passed : ∀ item ∈ first, test item = true)
    (stops : ∀ item, rest.head? = some item → test item = false) :
    (first ++ rest).takeWhile test = first ∧ (first ++ rest).dropWhile test = rest := by
  rw [List.takeWhile_append_of_pos passed, List.dropWhile_append_of_pos passed]
  cases rest with
  | nil => simp
  | cons item rest => simp [stops item rfl]

/-! Blanks. -/

theorem skip_spaces_append {before rest : List Char} (blank : Blank before)
    (solid : ∀ char, rest.head? = some char → isSpace char = false) :
    skipSpaces (before ++ rest) = rest :=
  (span_append blank solid).2

theorem skip_spaces_split (input : List Char) :
    ∃ before, Blank before ∧ input = before ++ skipSpaces input := by
  refine ⟨input.takeWhile isSpace, ?_, List.takeWhile_append_dropWhile.symm⟩
  exact List.all_eq_true.mp List.all_takeWhile

/-! Strings. -/

theorem read_written {char : Char} {piece : List Char} (written : Written char piece)
    (seen rest : List Char) : readText seen (piece ++ rest) = readText (char :: seen) rest := by
  cases written with
  | plain unquoted unescaped printable =>
      have kept : ¬(char = '\\' ∨ char.toNat < 0x20) := by
        rintro (same | low)
        · exact unescaped same
        · omega
      rw [List.singleton_append, readText, if_neg kept]
      · exact unquoted
      · exact fun _ _ _ _ _ same => absurd same unescaped
      · exact fun _ _ same => absurd same unescaped
  | @short char letter known =>
      have letters : letter ≠ 'u' := by
        rintro rfl
        cases known
      rw [List.cons_append, List.singleton_append, readText, known]
      exact fun _ _ _ _ _ same => absurd same letters
  | one digits whole =>
      simp only [List.cons_append, List.nil_append]
      rw [readText, digits]
      simp only
      rw [if_neg (by omega), if_neg (by omega)]
  | two first second above below =>
      simp only [List.cons_append, List.nil_append]
      rw [readText, first]
      simp only
      rw [if_neg (by omega), if_pos above, second]
      simp only
      rw [if_pos below]

/-- Reading ends at a quote, or goes on behind one character. -/
theorem read_text_cases {seen input : List Char} {text : String}
    (read : readText seen input = some (text, rest)) :
    (input = '"' :: rest ∧ text = String.ofList seen.reverse) ∨
      ∃ char piece more, Written char piece ∧ input = piece ++ more ∧
        readText (char :: seen) more = some (text, rest) := by
  unfold readText at read
  split at read
  · cases read
  · cases read
    exact .inl ⟨rfl, rfl⟩
  · next a b c d more =>
    right
    split at read
    · cases read
    · next unit digits =>
      split at read
      · cases read
      · next lower =>
        split at read
        · next above =>
          split at read
          · next e f g h more =>
            split at read
            · cases read
            · next low second =>
              split at read
              · next below => exact ⟨_, _, more, .two digits second above below, rfl, read⟩
              · cases read
          · cases read
        · next higher => exact ⟨_, _, more, .one digits (by omega), rfl, read⟩
  · next letter more _ =>
    right
    split at read
    · cases read
    · next char known => exact ⟨char, _, more, .short known, rfl, read⟩
  · next char more unquoted _ _ =>
    right
    split at read
    · cases read
    · next kept =>
      obtain ⟨unescaped, printable⟩ := not_or.mp kept
      exact ⟨char, _, more, .plain unquoted unescaped (by omega), rfl, read⟩

theorem written_length {char : Char} {piece : List Char} (written : Written char piece) :
    0 < piece.length := by
  cases written <;> simp

theorem read_text_sound {seen input : List Char} {text : String}
    (read : readText seen input = some (text, rest)) :
    ∃ chars inner, WrittenText chars inner ∧ text = String.ofList (seen.reverse ++ chars) ∧
      input = inner ++ '"' :: rest := by
  rcases read_text_cases read with ⟨rfl, rfl⟩ | ⟨char, piece, more, written, rfl, later⟩
  · exact ⟨[], [], .nil, by rw [List.append_nil], rfl⟩
  · have taken := written_length written
    obtain ⟨chars, inner, following, rfl, rfl⟩ := read_text_sound later
    exact ⟨char :: chars, piece ++ inner, .cons written following, by simp, by simp⟩
  termination_by input.length
  decreasing_by simp_all only [List.length_append]; omega

theorem read_text_complete {chars inner : List Char} (written : WrittenText chars inner)
    (seen rest : List Char) :
    readText seen (inner ++ '"' :: rest) = some (String.ofList (seen.reverse ++ chars), rest) := by
  induction written generalizing seen with
  | nil => rw [List.nil_append, readText, List.append_nil]
  | cons first following induction =>
      rw [List.append_assoc, read_written first, induction]
      simp

theorem read_string_sound {input : List Char} {text : String}
    (read : readString input = some (text, rest)) :
    ∃ chars, Quoted text chars ∧ input = chars ++ rest := by
  unfold readString at read
  split at read
  · next more =>
    obtain ⟨chars, inner, written, rfl, rfl⟩ := read_text_sound read
    exact ⟨'"' :: (inner ++ ['"']), ⟨inner, by simpa using written, rfl⟩, by simp⟩
  · cases read

theorem read_string_complete {text : String} {chars : List Char} (quoted : Quoted text chars)
    (rest : List Char) : readString (chars ++ rest) = some (text, rest) := by
  obtain ⟨inner, written, rfl⟩ := quoted
  have read := read_text_complete written [] rest
  simpa [readString] using read

/-! Numbers. -/

/-- Digits that stand before this are all that there are. -/
def NoDigit (rest : List Char) : Prop := ∀ char, rest.head? = some char → isDigit char = false

/-- No number goes on with this. -/
def Stops (rest : List Char) : Prop :=
  ∀ char, rest.head? = some char →
    isDigit char = false ∧ char ≠ '.' ∧ char ≠ 'e' ∧ char ≠ 'E'

theorem Stops.no_digit (stops : Stops rest) : NoDigit rest :=
  fun char first => (stops char first).1

theorem take_digits_append {digits rest : List Char} (all : ∀ char ∈ digits, isDigit char = true)
    (ends : NoDigit rest) : takeDigits (digits ++ rest) = (decimals digits, rest) := by
  obtain ⟨taken, dropped⟩ := span_append all ends
  rw [takeDigits, taken, dropped]
  rfl

theorem digits_split (input : List Char) :
    ∃ digits rest, (∀ char ∈ digits, isDigit char = true) ∧ NoDigit rest ∧
      input = digits ++ rest := by
  refine ⟨input.takeWhile isDigit, input.dropWhile isDigit,
    List.all_eq_true.mp List.all_takeWhile, ?_, List.takeWhile_append_dropWhile.symm⟩
  intro char first
  have stops := List.head?_dropWhile_not isDigit input
  rw [first] at stops
  simpa using stops

/-- The number behind the sign of an exponent. -/
def readPower (negative : Bool) (significand : Nat) (place : Int) (positive : Bool) :
    Reader Json := fun input =>
  let (digits, rest) := takeDigits input
  if digits.isEmpty then none
  else if Nat.pow 2 31 ≤ valueOf digits then
    (farReal negative significand positive).map (·, rest)
  else
    (realOf negative significand (clampExponent
      (if positive then place + valueOf digits else place - valueOf digits))).map (·, rest)

section

variable {negative : Bool} {significand : Nat} {place : Int}

theorem read_power_digits {mark : Char} {sign digits : List Char} (written : Digits digits)
    (ends : NoDigit rest) :
    readPower negative significand place (sign ≠ ['-']) (digits ++ rest) =
      (Exponent.value? negative significand place ⟨mark, sign, digits⟩).map (·, rest) := by
  obtain ⟨filled, all⟩ := written
  have numbers : ¬(decimals digits).isEmpty = true := by simpa [decimals] using filled
  rw [readPower, take_digits_append all ends]
  simp only
  rw [if_neg numbers, Exponent.value?]
  simp only
  split <;> rfl

theorem read_power_sound {positive : Bool} {input : List Char} {value : Json} 
    (read : readPower negative significand place positive input = some (value, rest)) :
    ∃ digits, Digits digits ∧ NoDigit rest ∧ input = digits ++ rest := by
  obtain ⟨digits, more, all, ends, rfl⟩ := digits_split input
  rw [readPower, take_digits_append all ends] at read
  simp only at read
  split at read
  · cases read
  · next filled =>
    have same : more = rest := by
      split at read
      all_goals
        obtain ⟨_, _, same⟩ := Option.map_eq_some_iff.mp read
        cases same
        rfl
    subst same
    exact ⟨digits, ⟨by simpa [decimals] using filled, all⟩, ends, rfl⟩

/-- An exponent may have a sign. -/
theorem read_exponent_cases (negative : Bool) (significand : Nat) (place : Int)
    (input : List Char) :
    ∃ sign more, (sign = [] ∨ sign = ['+'] ∨ sign = ['-']) ∧ input = sign ++ more ∧
      readExponent negative significand place input =
        readPower negative significand place (sign ≠ ['-']) more := by
  cases input with
  | nil => exact ⟨[], [], .inl rfl, rfl, rfl⟩
  | cons char more =>
      by_cases plus : char = '+'
      · subst plus
        exact ⟨['+'], more, .inr (.inl rfl), rfl, rfl⟩
      · by_cases minus : char = '-'
        · subst minus
          exact ⟨['-'], more, .inr (.inr rfl), rfl, rfl⟩
        · refine ⟨[], char :: more, .inl rfl, rfl, ?_⟩
          simp [readExponent, readPower, plus, minus]

theorem digit_unsigned {char : Char} (digit : isDigit char = true) : char ≠ '+' ∧ char ≠ '-' := by
  constructor
  · rintro rfl
    cases digit
  · rintro rfl
    cases digit

theorem read_exponent_complete {exponent : Exponent} (proper : exponent.Proper)
    (ends : NoDigit rest) :
    readExponent negative significand place (exponent.sign ++ (exponent.digits ++ rest)) =
      (exponent.value? negative significand place).map (·, rest) := by
  obtain ⟨mark, sign, digits⟩ := exponent
  obtain ⟨_, signed, written⟩ := proper
  have power := @read_power_digits rest negative significand place mark sign digits written ends
  simp only at signed written ⊢
  rw [← power]
  rcases signed with rfl | rfl | rfl
  · obtain ⟨filled, all⟩ := written
    cases digits with
    | nil => exact absurd rfl filled
    | cons digit digits =>
        obtain ⟨plus, minus⟩ := digit_unsigned (all digit List.mem_cons_self)
        simp [readExponent, readPower, plus, minus]
  · rfl
  · rfl

theorem read_exponent_sound {mark : Char} {input : List Char} {value : Json}
    (marked : mark = 'e' ∨ mark = 'E')
    (read : readExponent negative significand place input = some (value, rest)) :
    ∃ exponent : Exponent, exponent.Proper ∧ mark :: input = exponent.chars ++ rest ∧
      exponent.value? negative significand place = some value := by
  obtain ⟨sign, more, signed, rfl, same⟩ :=
    read_exponent_cases negative significand place input
  rw [same] at read
  obtain ⟨digits, written, ends, rfl⟩ := read_power_sound read
  rw [@read_power_digits rest negative significand place mark sign digits written ends] at read
  obtain ⟨_, has, same⟩ := Option.map_eq_some_iff.mp read
  cases same
  exact ⟨⟨mark, sign, digits⟩, ⟨marked, signed, written⟩, by simp [Exponent.chars], has⟩

theorem finish_real_complete {exponent : Option Exponent}
    (proper : ∀ given, exponent = some given → given.Proper) (stops : Stops rest) :
    finishReal negative significand place (Numeral.exponentChars exponent ++ rest) =
      (Numeral.realValue? negative significand place exponent).map (·, rest) := by
  cases exponent with
  | none =>
      rw [Numeral.exponentChars, List.nil_append]
      cases rest with
      | nil => rfl
      | cons char rest =>
          obtain ⟨_, _, lower, upper⟩ := stops char rfl
          rw [finishReal]
          · rfl
          · rintro later ⟨⟩
            exact lower rfl
          · rintro later ⟨⟩
            exact upper rfl
  | some exponent =>
      have given := proper exponent rfl
      have read := @read_exponent_complete rest negative significand place exponent given
        stops.no_digit
      rw [Numeral.realValue?, ← read, Numeral.exponentChars, Exponent.chars, List.cons_append,
        List.append_assoc]
      rcases given.mark with lower | upper
      · rw [lower]
        rfl
      · rw [upper]
        rfl

theorem finish_real_sound {input : List Char} {value : Json}
    (read : finishReal negative significand place input = some (value, rest)) :
    ∃ exponent, (∀ given, exponent = some given → given.Proper) ∧
      input = Numeral.exponentChars exponent ++ rest ∧
      Numeral.realValue? negative significand place exponent = some value := by
  unfold finishReal at read
  split at read
  · obtain ⟨exponent, proper, same, has⟩ := read_exponent_sound (.inl rfl) read
    exact ⟨some exponent, by rintro _ ⟨⟩; exact proper, same, has⟩
  · obtain ⟨exponent, proper, same, has⟩ := read_exponent_sound (.inr rfl) read
    exact ⟨some exponent, by rintro _ ⟨⟩; exact proper, same, has⟩
  · obtain ⟨_, has, same⟩ := Option.map_eq_some_iff.mp read
    cases same
    exact ⟨none, nofun, rfl, has⟩

theorem exponent_not_digit {exponent : Option Exponent}
    (proper : ∀ given, exponent = some given → given.Proper) (ends : NoDigit rest) :
    NoDigit (Numeral.exponentChars exponent ++ rest) := by
  cases exponent with
  | none => exact ends
  | some exponent =>
      rintro char ⟨⟩
      rcases (proper exponent rfl).mark with lower | upper
      · rw [lower]
        decide
      · rw [upper]
        decide

theorem read_fraction_complete {digits : List Char} {exponent : Option Exponent}
    (written : Digits digits) (proper : ∀ given, exponent = .some given → given.Proper)
    (stops : Stops rest) :
    readFraction negative significand place
        (digits ++ (Numeral.exponentChars exponent ++ rest)) =
      (Numeral.fractionValue? negative significand place digits exponent).map (·, rest) := by
  obtain ⟨filled, all⟩ := written
  have numbers : ¬(decimals digits).isEmpty = true := by simpa [decimals] using filled
  have size : (decimals digits).length = digits.length := List.length_map _
  rw [readFraction, take_digits_append all (exponent_not_digit proper stops.no_digit)]
  simp only
  rw [if_neg numbers, finish_real_complete proper stops, size]
  rfl

theorem read_fraction_sound {input : List Char} {value : Json}
    (read : readFraction negative significand place input = some (value, rest)) :
    ∃ digits exponent, Digits digits ∧ (∀ given, exponent = some given → given.Proper) ∧
      input = digits ++ (Numeral.exponentChars exponent ++ rest) ∧
      Numeral.fractionValue? negative significand place digits exponent = some value := by
  obtain ⟨digits, more, all, ends, rfl⟩ := digits_split input
  have size : (decimals digits).length = digits.length := List.length_map _
  rw [readFraction, take_digits_append all ends] at read
  simp only at read
  split at read
  · cases read
  · next filled =>
    obtain ⟨exponent, proper, rfl, has⟩ := finish_real_sound read
    rw [size] at has
    exact ⟨digits, exponent, ⟨by simpa [decimals] using filled, all⟩, proper, rfl, has⟩

end

theorem finish_number_complete {negative : Bool} {significand lost : Nat}
    {fraction : Option (List Char)} {exponent : Option Exponent}
    (digits : ∀ given, fraction = some given → Digits given)
    (proper : ∀ given, exponent = some given → given.Proper) (stops : Stops rest) :
    finishNumber negative significand lost
        (Numeral.fractionChars fraction ++ (Numeral.exponentChars exponent ++ rest)) =
      (Numeral.valueAfter? negative significand lost fraction exponent).map (·, rest) := by
  cases fraction with
  | some given => exact read_fraction_complete (digits given rfl) proper stops
  | none =>
      cases exponent with
      | some exponent =>
          have given := proper exponent rfl
          have read := @read_exponent_complete rest negative significand lost exponent given
            stops.no_digit
          rw [Numeral.valueAfter?, ← read, Numeral.fractionChars, List.nil_append,
            Numeral.exponentChars, Exponent.chars, List.cons_append, List.append_assoc]
          rcases given.mark with lower | upper
          · rw [lower]
            rfl
          · rw [upper]
            rfl
      | none =>
          have alone : finishNumber negative significand lost rest =
              if lost = 0 then some (integerOf negative significand, rest)
              else (realOf negative significand lost).map (·, rest) := by
            cases rest with
            | nil => rfl
            | cons char rest =>
                obtain ⟨_, point, lower, upper⟩ := stops char rfl
                rw [finishNumber]
                · rintro later ⟨⟩
                  exact point rfl
                · rintro later ⟨⟩
                  exact lower rfl
                · rintro later ⟨⟩
                  exact upper rfl
          refine alone.trans ?_
          unfold Numeral.valueAfter?
          split <;> rfl

theorem finish_number_sound {negative : Bool} {significand lost : Nat} {input : List Char}
    {value : Json} (read : finishNumber negative significand lost input = some (value, rest)) :
    ∃ fraction exponent, (∀ given, fraction = some given → Digits given) ∧
      (∀ given, exponent = some given → given.Proper) ∧
      input = Numeral.fractionChars fraction ++ (Numeral.exponentChars exponent ++ rest) ∧
      Numeral.valueAfter? negative significand lost fraction exponent = some value := by
  unfold finishNumber at read
  split at read
  · obtain ⟨digits, exponent, given, proper, rfl, has⟩ := read_fraction_sound read
    exact ⟨some digits, exponent, by rintro _ ⟨⟩; exact given, proper, rfl, has⟩
  · obtain ⟨exponent, proper, same, has⟩ := read_exponent_sound (.inl rfl) read
    exact ⟨none, some exponent, nofun, by rintro _ ⟨⟩; exact proper, same, has⟩
  · obtain ⟨exponent, proper, same, has⟩ := read_exponent_sound (.inr rfl) read
    exact ⟨none, some exponent, nofun, by rintro _ ⟨⟩; exact proper, same, has⟩
  · refine ⟨none, none, nofun, nofun, ?_⟩
    rw [Numeral.valueAfter?]
    split at read
    · next all =>
      cases read
      exact ⟨rfl, if_pos all⟩
    · next filled =>
      obtain ⟨_, has, same⟩ := Option.map_eq_some_iff.mp read
      cases same
      exact ⟨rfl, (if_neg filled).trans has⟩

theorem fraction_not_digit {fraction : Option (List Char)} (ends : NoDigit rest) :
    NoDigit (Numeral.fractionChars fraction ++ rest) := by
  cases fraction with
  | none => exact ends
  | some digits =>
      rintro char ⟨⟩
      decide

theorem digit_zero {char : Char} (digit : isDigit char = true) (zero : digitValue char = 0) :
    char = '0' := by
  simp only [isDigit, Bool.and_eq_true, decide_eq_true_eq, Char.le_def, UInt32.le_iff_toNat_le]
    at digit
  have number : char.toNat = '0'.toNat := by
    unfold digitValue at zero
    have least : '0'.toNat ≤ char.toNat := digit.1
    omega
  exact Char.toNat_inj.mp number

theorem read_magnitude_complete {whole rest : List Char} (negative : Bool)
    (digits : Digits whole) (unpadded : whole.head? = some '0' → whole = ['0'])
    (ends : NoDigit rest) :
    readMagnitude negative (whole ++ rest) =
      finishNumber negative (fitDigits 0 (decimals whole)).1
        (fitDigits 0 (decimals whole)).2.length rest := by
  obtain ⟨filled, all⟩ := digits
  rw [readMagnitude, take_digits_append all ends]
  split
  · next none =>
    have empty := (Prod.mk.inj none).1
    exact absurd (List.map_eq_nil_iff.mp empty) filled
  · next next later _ padded =>
    have numbers := (Prod.mk.inj padded).1
    obtain ⟨digit, whole, rfl, zero, more⟩ := List.map_eq_cons_iff.mp numbers
    have first := digit_zero (all digit List.mem_cons_self) zero
    subst first
    cases unpadded rfl
    cases more
  · next same =>
    cases same
    rfl

theorem read_magnitude_sound {negative : Bool} {input : List Char} {value : Json}
    (read : readMagnitude negative input = some (value, rest)) :
    ∃ whole more, Digits whole ∧ (whole.head? = some '0' → whole = ['0']) ∧
      input = whole ++ more ∧
      finishNumber negative (fitDigits 0 (decimals whole)).1
        (fitDigits 0 (decimals whole)).2.length more = some (value, rest) := by
  obtain ⟨whole, more, all, ends, rfl⟩ := digits_split input
  have given := read
  rw [readMagnitude, take_digits_append all ends] at read
  cases whole with
  | nil => cases read
  | cons digit whole =>
      have digits : Digits (digit :: whole) := ⟨by simp, all⟩
      have unpadded : (digit :: whole).head? = some '0' → digit :: whole = ['0'] := by
        rintro ⟨⟩
        cases whole with
        | nil => rfl
        | cons next whole => cases read
      rw [read_magnitude_complete negative digits unpadded ends] at given
      exact ⟨_, more, digits, unpadded, rfl, given⟩

theorem read_number_complete {numeral : Numeral} (proper : numeral.Proper) (stops : Stops rest) :
    readNumber (numeral.chars ++ rest) = numeral.value?.map (·, rest) := by
  obtain ⟨negative, whole, fraction, exponent⟩ := numeral
  obtain ⟨digits, unpadded, given, powered⟩ := proper
  have ends :
      NoDigit (Numeral.fractionChars fraction ++ (Numeral.exponentChars exponent ++ rest)) :=
    fraction_not_digit (exponent_not_digit powered stops.no_digit)
  have magnitude := read_magnitude_complete negative digits unpadded ends
  rw [finish_number_complete given powered stops] at magnitude
  refine Eq.trans ?_ magnitude
  simp only [Numeral.chars, List.append_assoc]
  cases negative with
  | true => rfl
  | false =>
      obtain ⟨filled, all⟩ := digits
      cases whole with
      | nil => exact absurd rfl filled
      | cons digit whole =>
          have unsigned := digit_unsigned (all digit List.mem_cons_self)
          rw [Numeral.signChars, if_neg Bool.false_ne_true, List.nil_append, List.cons_append,
            readNumber]
          rintro later ⟨⟩
          exact unsigned.2 rfl

theorem read_number_sound {input : List Char} {value : Json}
    (read : readNumber input = some (value, rest)) :
    ∃ numeral : Numeral, numeral.Proper ∧ input = numeral.chars ++ rest ∧
      numeral.value? = some value := by
  have signed : ∃ negative more, input = Numeral.signChars negative ++ more ∧
      readMagnitude negative more = some (value, rest) := by
    unfold readNumber at read
    split at read
    · exact ⟨true, _, rfl, read⟩
    · exact ⟨false, _, rfl, read⟩
  obtain ⟨negative, more, rfl, magnitude⟩ := signed
  obtain ⟨whole, more, digits, unpadded, rfl, finish⟩ := read_magnitude_sound magnitude
  obtain ⟨fraction, exponent, given, proper, rfl, has⟩ := finish_number_sound finish
  exact ⟨⟨negative, whole, fraction, exponent⟩, ⟨digits, unpadded, given, proper⟩,
    by simp [Numeral.chars], has⟩

/-! Scalars. -/

theorem expect_sound {word input : List Char} (read : expect word input = some rest) :
    input = word ++ rest := by
  induction word generalizing input with
  | nil => exact Option.some.inj read
  | cons char word induction =>
      cases input with
      | nil => cases read
      | cons other input =>
          rw [expect] at read
          split at read
          · next same => rw [same, induction read, List.cons_append]
          · cases read

theorem read_scalar_sound {input : List Char} {value : Json}
    (read : readScalar input = some (value, rest)) :
    ∃ chars, Scalar value chars ∧ input = chars ++ rest := by
  unfold readScalar at read
  split at read
  · obtain ⟨_, word, same⟩ := Option.map_eq_some_iff.mp read
    cases same
    exact ⟨_, .null, congrArg _ (expect_sound word)⟩
  · obtain ⟨_, word, same⟩ := Option.map_eq_some_iff.mp read
    cases same
    exact ⟨_, .yes, congrArg _ (expect_sound word)⟩
  · obtain ⟨_, word, same⟩ := Option.map_eq_some_iff.mp read
    cases same
    exact ⟨_, .no, congrArg _ (expect_sound word)⟩
  · next more =>
    obtain ⟨⟨text, _⟩, word, same⟩ := Option.map_eq_some_iff.mp read
    cases same
    obtain ⟨chars, quoted, same⟩ := @read_string_sound rest ('"' :: more) text word
    exact ⟨chars, .string quoted, same⟩
  · obtain ⟨numeral, proper, same, has⟩ := read_number_sound read
    exact ⟨numeral.chars, .number proper has, same⟩

/-- The first character of a number. -/
theorem numeral_starts {numeral : Numeral} (proper : numeral.Proper) :
    ∃ first more, numeral.chars = first :: more ∧ (first = '-' ∨ isDigit first = true) := by
  obtain ⟨negative, whole, fraction, exponent⟩ := numeral
  cases negative with
  | true => exact ⟨_, _, rfl, .inl rfl⟩
  | false =>
      obtain ⟨filled, all⟩ := proper.whole
      cases whole with
      | nil => exact absurd rfl filled
      | cons digit whole => exact ⟨_, _, rfl, .inr (all digit List.mem_cons_self)⟩

theorem numeral_first_ne {first char : Char} (starts : first = '-' ∨ isDigit first = true)
    (odd : isDigit char = false) (unsigned : char ≠ '-') : first ≠ char := by
  rintro rfl
  rcases starts with rfl | digit
  · exact unsigned rfl
  · rw [odd] at digit
    cases digit

theorem read_scalar_complete {value : Json} {chars : List Char} (scalar : Scalar value chars)
    (stops : Stops rest) : readScalar (chars ++ rest) = some (value, rest) := by
  cases scalar with
  | null => rfl
  | yes => rfl
  | no => rfl
  | string quoted =>
      obtain ⟨inner, written, rfl⟩ := quoted
      have read := read_text_complete written [] rest
      simpa [readScalar] using read
  | @number numeral _ proper has =>
      have read := read_number_complete proper stops
      obtain ⟨first, more, same, starts⟩ := numeral_starts proper
      rw [has, same] at read
      rw [same, List.cons_append, readScalar]
      · exact read
      all_goals
        rintro later ⟨⟩
        exact numeral_first_ne starts (by decide) (by decide) rfl

/-- The first character of a value is neither a blank nor a bracket that closes. -/
def Opens (first : Char) : Prop := isSpace first = false ∧ first ≠ ']' ∧ first ≠ '\x7d'

instance (first : Char) : Decidable (Opens first) := inferInstanceAs (Decidable (_ ∧ _))

theorem scalar_starts {value : Json} {chars : List Char} (scalar : Scalar value chars) :
    ∃ first more, chars = first :: more ∧ Opens first ∧ first ≠ '[' ∧ first ≠ '\x7b' := by
  cases scalar with
  | null => exact ⟨_, _, rfl, by decide, by decide, by decide⟩
  | yes => exact ⟨_, _, rfl, by decide, by decide, by decide⟩
  | no => exact ⟨_, _, rfl, by decide, by decide, by decide⟩
  | string quoted =>
      obtain ⟨inner, _, rfl⟩ := quoted
      exact ⟨_, _, rfl, by decide, by decide, by decide⟩
  | number proper has =>
      obtain ⟨first, more, same, starts⟩ := numeral_starts proper
      have other {char : Char} (odd : isDigit char = false) (unsigned : char ≠ '-') :
          first ≠ char := numeral_first_ne starts odd unsigned
      have solid : isSpace first = false := by
        have blanks : first ≠ ' ' ∧ first ≠ '\n' ∧ first ≠ '\r' ∧ first ≠ '\t' :=
          ⟨other rfl (by decide), other rfl (by decide), other rfl (by decide),
            other rfl (by decide)⟩
        simp [isSpace, blanks]
      exact ⟨first, more, same, ⟨solid, other rfl (by decide), other rfl (by decide)⟩,
        other rfl (by decide), other rfl (by decide)⟩

end LiveChat.Json
