import LiveChat.Text.Charset.Pair

/-!
Japanese text of seven-bit octets, in which a sequence after the escape octet says how the octets
behind it are read, up to the next such sequence.
-/

set_option autoImplicit false

namespace LiveChat.Text.Charset

inductive Mode where
  | ascii
  | roman
  | katakana
  | pairs
  deriving Repr, DecidableEq

/-- `bare` says that nothing was read since the last sequence. -/
structure Escape where
  mode : Mode
  bare : Bool
  deriving Repr, DecidableEq

namespace Escape

def start : Escape := ⟨.ascii, false⟩

def mode? : List UInt8 → Option Mode
  | 0x28 :: 0x42 :: _ => some .ascii
  | 0x28 :: 0x4A :: _ => some .roman
  | 0x28 :: 0x49 :: _ => some .katakana
  | 0x24 :: 0x40 :: _ => some .pairs
  | 0x24 :: 0x42 :: _ => some .pairs
  | _ => none

def plain (first : UInt8) : Piece :=
  if first < 0x80 && first ≠ 0x0E && first ≠ 0x0F then .ofOctet first else .lost 0

def pairPiece (first : UInt8) : List UInt8 → Piece
  | [] => .lost 0
  | second :: _ =>
      if !within 0x21 0x7E first || second = 0x1B then .lost 0
      else if !within 0x21 0x7E second then .lost 1
      else .ofChar? (Chart.jis0208.get? ((first.toNat - 0x21) * 94 + (second.toNat - 0x21))) 1

def inMode (first : UInt8) (rest : List UInt8) : Mode → Piece
  | .ascii => plain first
  | .roman =>
      if first = 0x5C then ⟨['¥'], 0⟩ else if first = 0x7E then ⟨['‾'], 0⟩ else plain first
  | .katakana =>
      if within 0x21 0x5F first then ⟨[halfWidth (first + 0x80)], 0⟩ else .lost 0
  | .pairs => pairPiece first rest

/-- A sequence right behind another one is read, but leaves a mark. -/
def piece (state : Escape) (first : UInt8) (rest : List UInt8) : Piece × Escape :=
  if first = 0x1B then
    match mode? rest with
    | some mode => (⟨if state.bare then ['\uFFFD'] else [], 2⟩, ⟨mode, true⟩)
    | none => (.lost 0, ⟨state.mode, false⟩)
  else (inMode first rest state.mode, ⟨state.mode, false⟩)

end Escape

end LiveChat.Text.Charset
