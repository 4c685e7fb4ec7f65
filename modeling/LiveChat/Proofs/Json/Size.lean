import LiveChat.Json.Printer
import LiveChat.Text.Utf8
import Mathlib.Data.Nat.Digits.Defs

/-!
The size of a JSON value counts the octets of its text, so no part of a value is larger than the
whole, and a count that is a JSON integer takes few of them.
-/

set_option autoImplicit false

namespace LiveChat

theorem Text.Utf8.size_of_list (chars : List Char) :
    (String.ofList chars).utf8ByteSize = size chars := by
  induction chars with
  | nil => rfl
  | cons char rest induction =>
      rw [show char :: rest = [char] ++ rest from rfl, String.ofList_append,
        String.utf8ByteSize_append, induction, size_append]
      simp [size]

namespace Json

open Text.Utf8 (size_of_list size_append)

theorem size_eq_chars (value : Json) : value.size = Text.Utf8.size value.chars :=
  size_of_list value.chars

/-- Text in brackets is longer by them. -/
theorem size_bracketed (first last : Char) (chars : List Char) :
    Text.Utf8.size chars ≤ Text.Utf8.size (first :: (chars ++ [last])) := by
  simp only [Text.Utf8.size, size_append]
  omega

theorem more_item_size_le {item : Json} {items : List Json} (member : item ∈ items) :
    Text.Utf8.size item.chars ≤ Text.Utf8.size (moreItemChars items) := by
  induction items with
  | nil => cases member
  | cons head rest induction =>
      simp only [moreItemChars, Text.Utf8.size, size_append]
      rcases List.mem_cons.mp member with rfl | inside
      · omega
      · have shorter := induction inside
        omega

theorem item_size_le {item : Json} {items : List Json} (member : item ∈ items) :
    item.size ≤ (array items).size := by
  have inside : Text.Utf8.size item.chars ≤ Text.Utf8.size (itemChars items) := by
    cases items with
    | nil => cases member
    | cons head rest =>
        simp only [itemChars, size_append]
        rcases List.mem_cons.mp member with rfl | later
        · omega
        · have shorter := more_item_size_le later
          omega
  rw [size_eq_chars, size_eq_chars, chars]
  exact Nat.le_trans inside (size_bracketed _ _ _)

theorem more_field_size_le {key : String} {value : Json} {fields : Fields}
    (member : (key, value) ∈ fields) :
    Text.Utf8.size value.chars ≤ Text.Utf8.size (moreFieldChars fields) := by
  induction fields with
  | nil => cases member
  | cons head rest induction =>
      simp only [moreFieldChars, Text.Utf8.size, size_append]
      rcases List.mem_cons.mp member with rfl | inside
      · dsimp only
        omega
      · have shorter := induction inside
        omega

theorem field_size_le {key : String} {value : Json} {fields : Fields}
    (found : fields.get? key = some value) : value.size ≤ (object fields).size := by
  have member : (key, value) ∈ fields := by
    obtain ⟨before, after, same, _⟩ := List.lookup_eq_some_iff.mp found
    rw [same]
    exact List.mem_append_right _ List.mem_cons_self
  have inside : Text.Utf8.size value.chars ≤ Text.Utf8.size (fieldChars fields) := by
    cases fields with
    | nil => cases member
    | cons head rest =>
        simp only [fieldChars, Text.Utf8.size, size_append]
        rcases List.mem_cons.mp member with rfl | later
        · dsimp only
          omega
        · have shorter := more_field_size_le later
          omega
  rw [size_eq_chars, size_eq_chars, chars]
  exact Nat.le_trans inside (size_bracketed _ _ _)

theorem digits_size {chars : List Char} (digits : ∀ char ∈ chars, char.isDigit = true) :
    Text.Utf8.size chars = chars.length := by
  induction chars with
  | nil => rfl
  | cons char rest induction =>
      have digit := digits char List.mem_cons_self
      have short : char.utf8Size = 1 := by
        rw [Char.utf8Size_eq_one_iff]
        simp [Char.isDigit, UInt32.le_iff_toNat_le] at digit ⊢
        omega
      rw [Text.Utf8.size, short, List.length_cons,
        induction fun other member => digits other (List.mem_cons_of_mem char member)]
      omega

/-- A count of 64 bits takes at most twenty digits. -/
theorem count_size_le {count : Nat} (bounded : (count : Int) ≤ largestInteger) :
    Text.Utf8.size (integerChars count) ≤ 20 := by
  have digits : ∀ char ∈ Nat.toDigits 10 count, char.isDigit = true := fun char member =>
    Nat.isDigit_of_mem_toDigits (by omega) (Nat.le_refl 10) member
  have short : (Nat.toDigits 10 count).length ≤ 20 := by
    apply Nat.toDigits_length 10 count 20 (by omega)
    have below : count ≤ 18446744073709551615 := by
      unfold largestInteger at bounded
      omega
    exact Nat.lt_of_le_of_lt below (by decide)
  exact Nat.le_trans (Nat.le_of_eq (digits_size digits)) short

end Json

end LiveChat
