import LiveChat.Json.Printer
import LiveChat.Proofs.Json.Grammar
import Mathlib.Tactic.SplitIfs

/-!
What is printed is a JSON text of the value, as long as the value holds no real numbers and no
integers of more than 64 bits, and does not nest too deep.
-/

set_option autoImplicit false

namespace LiveChat.Json

/-! Strings. -/

theorem hex_digits_low : ∀ number < 32,
    hex4? '0' '0' (hexDigit (number / 16)) (hexDigit (number % 16)) = some number := by decide

theorem escaped_written (char : Char) : Written char (escapedChar char) := by
  unfold escapedChar
  split_ifs with quote backslash line carriage tab back feed low
  · subst quote
    exact .short rfl
  · subst backslash
    exact .short rfl
  · subst line
    exact .short rfl
  · subst carriage
    exact .short rfl
  · subst tab
    exact .short rfl
  · subst back
    exact .short rfl
  · subst feed
    exact .short rfl
  · have written := Written.one (hex_digits_low char.toNat low) (by omega)
    rwa [Char.ofNat_toNat] at written
  · exact .plain quote backslash (by omega)

theorem text_written (text : List Char) : WrittenText text (text.flatMap escapedChar) := by
  induction text with
  | nil => exact .nil
  | cons char text induction => exact .cons (escaped_written char) induction

theorem string_quoted (text : String) : Quoted text (stringChars text) :=
  ⟨text.toList.flatMap escapedChar, text_written text.toList, rfl⟩

/-! Integers. -/

theorem is_digit_of {char : Char} (digit : char.isDigit = true) : isDigit char = true := by
  simpa [isDigit, Char.isDigit, Char.le_def] using digit

theorem digits_printed (number : Nat) : Digits (Nat.toDigits 10 number) :=
  ⟨Nat.toDigits_ne_nil, fun _ member =>
    is_digit_of (Nat.isDigit_of_mem_toDigits (by decide) (Nat.le_refl 10) member)⟩

theorem digits_unpadded (number : Nat) :
    (Nat.toDigits 10 number).head? = some '0' → Nat.toDigits 10 number = ['0'] := by
  induction number using Nat.base_induction 10 (by decide) with
  | single number small =>
      rw [Nat.toDigits_of_lt_base small]
      intro first
      rw [Option.some.inj first]
  | digit number last small positive induction =>
      rw [← Nat.toDigits_append_toDigits (by decide) positive small, List.head?_append]
      intro first
      have leading : (Nat.toDigits 10 number).head? = some '0' := by
        cases digits : Nat.toDigits 10 number with
        | nil => exact absurd digits Nat.toDigits_ne_nil
        | cons digit digits => simpa [digits] using first
      have zero : Nat.ofDigitChars 10 (Nat.toDigits 10 number) 0 = 0 := by
        rw [induction leading]
        rfl
      rw [Nat.ofDigitChars_ten_toDigits] at zero
      omega

theorem init_le_digits (chars : List Char) (init : Nat) :
    init ≤ Nat.ofDigitChars 10 chars init := by
  rw [Nat.ofDigitChars_eq_ofDigitChars_zero]
  have power := Nat.one_le_pow chars.length 10 (by decide)
  have grown := Nat.mul_le_mul_right init power
  omega

theorem fit_digits_all (chars : List Char) (init : Nat)
    (fits : Nat.ofDigitChars 10 chars init < Nat.pow 2 64) :
    fitDigits init (decimals chars) = (Nat.ofDigitChars 10 chars init, []) := by
  induction chars generalizing init with
  | nil => rfl
  | cons char chars induction =>
      rw [Nat.ofDigitChars_cons] at fits ⊢
      have more : init * 10 + digitValue char = 10 * init + (char.toNat - '0'.toNat) := by
        rw [Nat.mul_comm, digitValue]
      have least := init_le_digits chars (10 * init + (char.toNat - '0'.toNat))
      rw [decimals, List.map_cons, fitDigits, more, if_pos (by omega)]
      exact induction _ fits

/-- A whole number without a fraction or an exponent. -/
theorem whole_spelled {negative : Bool} {number : Nat} (fits : number < Nat.pow 2 64) :
    Scalar (integerOf negative number)
      (Numeral.signChars negative ++ Nat.toDigits 10 number) := by
  let numeral : Numeral := ⟨negative, Nat.toDigits 10 number, none, none⟩
  have proper : numeral.Proper := ⟨digits_printed number, digits_unpadded number, nofun, nofun⟩
  have has : numeral.value? = some (integerOf negative number) := by
    have all := fit_digits_all (Nat.toDigits 10 number) 0
    rw [Nat.ofDigitChars_ten_toDigits] at all
    simp only [numeral, Numeral.value?, all fits]
    rfl
  have spelled := Scalar.number proper has
  simpa [numeral, Numeral.chars, Numeral.fractionChars, Numeral.exponentChars] using spelled

theorem integer_spelled {value : Int} (least : smallestInteger ≤ value)
    (most : value ≤ largestInteger) : Scalar (integer value) (integerChars value) := by
  have unsigned : Nat.pow 2 64 = 18446744073709551616 := rfl
  have signed : Nat.pow 2 63 = 9223372036854775808 := rfl
  unfold smallestInteger at least
  unfold largestInteger at most
  cases value with
  | ofNat number =>
      have small : number < Nat.pow 2 64 := by
        rw [Int.ofNat_eq_natCast] at most
        omega
      exact @whole_spelled false number small
  | negSucc number =>
      rw [Int.negSucc_eq] at least
      have same : integerOf true (number + 1) = integer (.negSucc number) := by
        rw [integerOf, if_neg (by decide), if_neg (by omega), Int.negSucc_eq]
        rfl
      exact same ▸ @whole_spelled true (number + 1) (by omega)

/-! Values. -/

/-- Nothing in the value is real, its integers have 64 bits, its objects are in order, and it nests
at most `depth` deep. -/
def Plain : Nat → Json → Prop
  | _, null => True
  | _, bool _ => True
  | _, integer value => smallestInteger ≤ value ∧ value ≤ largestInteger
  | _, real _ => False
  | _, string _ => True
  | 0, array _ => False
  | 0, object _ => False
  | depth + 1, array items => ∀ item ∈ items, Plain depth item
  | depth + 1, object fields => Fields.Ascending fields ∧ ∀ field ∈ fields, Plain depth field.2

theorem padded_of {spelled : List Char → Prop} {chars : List Char} (spells : spelled chars) :
    Padded spelled chars :=
  ⟨[], chars, [], nofun, spells, nofun, (List.append_nil chars).symm⟩

theorem items_listed {item : Json → List Char → Prop} {first : Json} {items : List Json}
    (spelled : ∀ value ∈ first :: items, item value value.chars) :
    Listed (fun value => Padded (item value)) (first :: items) (itemChars (first :: items)) := by
  induction items generalizing first with
  | nil =>
      rw [itemChars, moreItemChars, List.append_nil]
      exact .last (padded_of (spelled first List.mem_cons_self))
  | cons next items induction =>
      have others := induction fun value member => spelled value (List.mem_cons_of_mem first member)
      exact .more (padded_of (spelled first List.mem_cons_self)) others

theorem member_spelled {item : Json → List Char → Prop} {key : String} {value : Json}
    (spelled : item value value.chars) :
    Member item (key, value) (stringChars key ++ ':' :: value.chars) :=
  ⟨_, _, padded_of (string_quoted key), padded_of spelled, rfl⟩

theorem fields_listed {item : Json → List Char → Prop} {first : String × Json}
    {fields : List (String × Json)}
    (spelled : ∀ field ∈ first :: fields, item field.2 field.2.chars) :
    Listed (Member item) (first :: fields) (fieldChars (first :: fields)) := by
  induction fields generalizing first with
  | nil =>
      rw [fieldChars, moreFieldChars, List.append_nil]
      exact .last (member_spelled (spelled first List.mem_cons_self))
  | cons next fields induction =>
      have others := induction fun field member => spelled field (List.mem_cons_of_mem first member)
      have member := @member_spelled item first.1 first.2 (spelled first List.mem_cons_self)
      have all := Listed.more member others
      simpa [fieldChars, moreFieldChars] using all

/-- An object that is printed with its fields in some order. -/
theorem object_printed {item : Json → List Char → Prop} {written : List (String × Json)}
    (spelled : ∀ field ∈ written, item field.2 field.2.chars) :
    ObjectOf item (ofFields written) (object written).chars := by
  cases written with
  | nil => exact .empty nofun
  | cons first fields => exact .filled (fields_listed spelled) (Fields.gathers_of_list _)

theorem array_printed {item : Json → List Char → Prop} {items : List Json}
    (spelled : ∀ value ∈ items, item value value.chars) :
    ArrayOf item (array items) (array items).chars := by
  cases items with
  | nil => exact .empty nofun
  | cons first items => exact .filled (items_listed spelled)

theorem plain_cases {depth : Nat} {value : Json} (plain : Plain depth value) :
    Scalar value value.chars ∨
      ∃ below, depth = below + 1 ∧
        ((∃ items, value = array items ∧ ∀ item ∈ items, Plain below item) ∨
          ∃ fields, value = object fields ∧ Fields.Ascending fields ∧
            ∀ field ∈ fields, Plain below field.2) := by
  cases value with
  | null => exact .inl .null
  | bool given =>
      cases given with
      | true => exact .inl .yes
      | false => exact .inl .no
  | integer number =>
      cases depth <;> exact .inl (integer_spelled plain.1 plain.2)
  | real number => cases depth <;> exact plain.elim
  | string text => exact .inl (.string (string_quoted text))
  | array items =>
      cases depth with
      | zero => exact plain.elim
      | succ depth => exact .inr ⟨depth, rfl, .inl ⟨items, rfl, plain⟩⟩
  | object fields =>
      cases depth with
      | zero => exact plain.elim
      | succ depth => exact .inr ⟨depth, rfl, .inr ⟨fields, rfl, plain⟩⟩

theorem scalar_spells {depth : Nat} {value : Json} {chars : List Char}
    (scalar : Scalar value chars) : Spells depth value chars := by
  cases depth with
  | zero => exact scalar
  | succ depth => exact .inl scalar

/-- A plain value is printed as the grammar spells it. -/
theorem plain_printed {depth : Nat} {value : Json} (plain : Plain depth value) :
    Spells depth value value.chars := by
  induction depth generalizing value with
  | zero =>
      rcases plain_cases plain with scalar | ⟨below, deep, _⟩
      · exact scalar
      · cases deep
  | succ depth induction =>
      rcases plain_cases plain with scalar | ⟨below, deep, array | object⟩
      · exact scalar_spells scalar
      · obtain ⟨items, rfl, each⟩ := array
        cases deep
        exact .inr (.inl (array_printed fun item member => induction (each item member)))
      · obtain ⟨fields, rfl, ascending, each⟩ := object
        cases deep
        have printed := object_printed fun field member => induction (each field member)
        rw [ofFields, Fields.of_ascending ascending] at printed
        exact .inr (.inr printed)

end LiveChat.Json
