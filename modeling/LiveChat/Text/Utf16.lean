import LiveChat.Text.Charset.Piece

/-!
UTF-16 as octets. Half of a pair of surrogates that stands alone is lost, and what follows it is
read on its own; a text that breaks off inside of a character loses that character as a whole.
-/

set_option autoImplicit false

namespace LiveChat.Text.Utf16

open Charset

def unit (bigEndian : Bool) (first second : UInt8) : Nat :=
  if bigEndian then first.toNat * 256 + second.toNat else second.toNat * 256 + first.toNat

def isHigh (unit : Nat) : Bool := 0xD800 ≤ unit && unit < 0xDC00

def isLow (unit : Nat) : Bool := 0xDC00 ≤ unit && unit < 0xE000

def joined (high low : Nat) : Char :=
  Char.ofNat (0x10000 + (high - 0xD800) * 0x400 + (low - 0xDC00))

def piece (bigEndian : Bool) (first : UInt8) : List UInt8 → Piece
  | [] => .lost 0
  | second :: rest =>
      let high := unit bigEndian first second
      if isLow high then .lost 1
      else if !isHigh high then ⟨[Char.ofNat high], 1⟩
      else match rest with
        | third :: fourth :: _ =>
            let low := unit bigEndian third fourth
            if isLow low then ⟨[joined high low], 3⟩ else .lost 1
        | _ => .lost (rest.length + 1)

def decode (bigEndian : Bool) (octets : List UInt8) : String := read (piece bigEndian) octets

end LiveChat.Text.Utf16
