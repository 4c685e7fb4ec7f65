/-!
UTF-8 as octets. Reading walks one scalar value at a time; where the octets are
ill formed, the longest start of a scalar value that they hold counts as one part.
-/

set_option autoImplicit false

namespace LiveChat.Text.Utf8

def encode (text : String) : List UInt8 := text.toList.flatMap String.utf8EncodeChar

def size : List Char → Nat
  | [] => 0
  | char :: rest => char.utf8Size + size rest

theorem size_append (first second : List Char) :
    size (first ++ second) = size first + size second := by
  induction first with
  | nil => simp [size]
  | cons char rest induction =>
    simp only [List.cons_append, size, induction]
    omega

/-- The first scalar value, or nothing where the octets do not hold one, and the octets that
follow it or the ill-formed part. -/
structure Lead where
  scalar : Option Char
  rest : List UInt8

def isTail (octet : UInt8) : Bool := 0x80 ≤ octet && octet ≤ 0xBF

/-- The bounds of the second octet, which keep out long forms, surrogates and values
above U+10FFFF. -/
def secondOk (first second : UInt8) : Bool :=
  if first = 0xE0 then 0xA0 ≤ second && second ≤ 0xBF
  else if first = 0xED then 0x80 ≤ second && second ≤ 0x9F
  else if first = 0xF0 then 0x90 ≤ second && second ≤ 0xBF
  else if first = 0xF4 then 0x80 ≤ second && second ≤ 0x8F
  else isTail second

def low6 (octet : UInt8) : Nat := octet.toNat % 64

def lead (first : UInt8) (rest : List UInt8) : Lead :=
  if first < 0x80 then ⟨some (Char.ofNat first.toNat), rest⟩
  else if first < 0xC2 || 0xF4 < first then ⟨none, rest⟩
  else match rest with
    | [] => ⟨none, rest⟩
    | second :: rest2 =>
      if !secondOk first second then ⟨none, rest⟩
      else if first < 0xE0 then
        ⟨some (Char.ofNat (first.toNat % 32 * 64 + low6 second)), rest2⟩
      else match rest2 with
        | [] => ⟨none, rest2⟩
        | third :: rest3 =>
          if !isTail third then ⟨none, rest2⟩
          else if first < 0xF0 then
            ⟨some (Char.ofNat ((first.toNat % 16 * 64 + low6 second) * 64 + low6 third)), rest3⟩
          else match rest3 with
            | [] => ⟨none, rest3⟩
            | fourth :: rest4 =>
              if !isTail fourth then ⟨none, rest3⟩
              else ⟨some (Char.ofNat
                (((first.toNat % 8 * 64 + low6 second) * 64 + low6 third) * 64 + low6 fourth)),
                rest4⟩

theorem lead_rest_length (first : UInt8) (rest : List UInt8) :
    (lead first rest).rest.length ≤ rest.length := by
  unfold lead
  repeat' split
  all_goals simp only [List.length_cons, List.length_nil]
  all_goals omega

def leadsFrom (seen : List (Option Char)) : List UInt8 → List (Option Char)
  | [] => seen.reverse
  | first :: rest =>
      have := lead_rest_length first rest
      leadsFrom ((lead first rest).scalar :: seen) (lead first rest).rest
  termination_by octets => octets.length
  decreasing_by simp; omega

/-- The scalar values in order, with nothing in place of each ill-formed part. -/
def leads (octets : List UInt8) : List (Option Char) := leadsFrom [] octets

def faultFrom (index : Nat) : List UInt8 → Option (Nat × Nat)
  | [] => none
  | first :: rest =>
      have := lead_rest_length first rest
      let size := rest.length + 1 - (lead first rest).rest.length
      if (lead first rest).scalar.isNone then some (index, size)
      else faultFrom (index + size) (lead first rest).rest
  termination_by octets => octets.length
  decreasing_by simp; omega

/-- Where the first ill-formed part starts, and how many octets it has. -/
def fault? (octets : List UInt8) : Option (Nat × Nat) := faultFrom 0 octets

/-- The text, or nothing if any part is ill formed. -/
def decode (octets : List UInt8) : Option String :=
  ((leads octets).mapM id).map String.ofList

/-- The text with one U+FFFD for each ill-formed part. -/
def decodeLossy (octets : List UInt8) : String :=
  String.ofList ((leads octets).map (·.getD '\uFFFD'))

end LiveChat.Text.Utf8
