import LiveChat.Text.Charset.Piece
import LiveChat.Text.Chart.Big5
import LiveChat.Text.Chart.Gb18030
import LiveChat.Text.Chart.Japanese
import LiveChat.Text.Chart.Korean

/-!
Sets in which an octet from 0x80 mostly starts a pair. In a pair that stands for nothing the first
octet is lost; a second octet that is ASCII is read again on its own, any other is lost with it.
-/

set_option autoImplicit false

namespace LiveChat.Text.Charset

def within (low high octet : UInt8) : Bool := low ≤ octet && octet ≤ high

def pair (chars : UInt8 → UInt8 → List Char) (first : UInt8) : List UInt8 → Piece
  | [] => .lost 0
  | second :: _ =>
      match chars first second with
      | [] => .lost (if second < 0x80 then 0 else 1)
      | found => ⟨found, 1⟩

/-- The place of a second octet in its row, which leaves out the octets between `low` and `high`. -/
def column? (start low high last second : UInt8) : Option Nat :=
  if within start low second then some (second.toNat - start.toNat)
  else if within high last second then
    some (second.toNat - high.toNat + (low.toNat + 1 - start.toNat))
  else none

def halfWidth (octet : UInt8) : Char := Char.ofNat (0xFF61 + octet.toNat - 0xA1)

def eucKrChars (first second : UInt8) : List Char :=
  if within 0x41 0xFE second then
    (Chart.korean.get? ((first.toNat - 0x81) * 190 + (second.toNat - 0x41))).toList
  else []

def eucKrPiece (first : UInt8) (rest : List UInt8) : Piece :=
  if first < 0x80 then .ofOctet first
  else if within 0x81 0xFE first then pair eucKrChars first rest
  else .lost 0

/-- The letters with a mark that stand as two characters. -/
def big5Marked : List (Nat × List Char) :=
  [(1133, ['Ê', '\u0304']), (1135, ['Ê', '\u030C']), (1164, ['ê', '\u0304']),
    (1166, ['ê', '\u030C'])]

def big5Chars (first second : UInt8) : List Char :=
  match column? 0x40 0x7E 0xA1 0xFE second with
  | none => []
  | some column =>
      let index := (first.toNat - 0x81) * 157 + column
      (big5Marked.lookup index).getD (Chart.big5.get? index).toList

def big5Piece (first : UInt8) (rest : List UInt8) : Piece :=
  if first < 0x80 then .ofOctet first
  else if within 0x81 0xFE first then pair big5Chars first rest
  else .lost 0

/-- The first octets from 0xF0 to 0xF9 are for private use. -/
def shiftJisChars (first second : UInt8) : List Char :=
  match column? 0x40 0x7E 0x80 0xFC second with
  | none => []
  | some column =>
      let row := first.toNat - (if first < 0xA0 then 0x81 else 0xC1)
      let index := row * 188 + column
      if 8836 ≤ index && index ≤ 10715 then [Char.ofNat (0xE000 + index - 8836)]
      else (Chart.jis0208.get? index).toList

def shiftJisPiece (first : UInt8) (rest : List UInt8) : Piece :=
  if first ≤ 0x80 then .ofOctet first
  else if within 0xA1 0xDF first then ⟨[halfWidth first], 0⟩
  else if within 0x81 0x9F first || within 0xE0 0xFC first then pair shiftJisChars first rest
  else .lost 0

def eucJpChars (chart : Chart) (first second : UInt8) : List Char :=
  if within 0xA1 0xFE first && within 0xA1 0xFE second then
    (chart.get? ((first.toNat - 0xA1) * 94 + (second.toNat - 0xA1))).toList
  else []

def halfWidthChars (_ second : UInt8) : List Char :=
  if within 0xA1 0xDF second then [halfWidth second] else []

/-- 0x8F puts the pair that follows it into the supplementary set. -/
def eucJpPiece (first : UInt8) (rest : List UInt8) : Piece :=
  if first < 0x80 then .ofOctet first
  else if first = 0x8E then pair halfWidthChars first rest
  else if within 0xA1 0xFE first then pair (eucJpChars Chart.jis0208) first rest
  else if first = 0x8F then
    match rest with
    | second :: third =>
        if within 0xA1 0xFE second then
          let found := pair (eucJpChars Chart.jis0212) second third
          ⟨found.chars, found.more + 1⟩
        else .lost (if second < 0x80 then 0 else 1)
    | [] => .lost 0
  else .lost 0

def gb18030Chars (first second : UInt8) : List Char :=
  match column? 0x40 0x7E 0x80 0xFE second with
  | none => []
  | some column => (Chart.gb18030.get? ((first.toNat - 0x81) * 190 + column)).toList

/-- Four octets, after whose first one stands a digit. One that is out of place leaves all after
the first octet to be read again; where they break off, what there is of them is lost. -/
def gb18030LongPiece (first second : UInt8) : List UInt8 → Piece
  | [] => .lost 1
  | third :: rest =>
      if !within 0x81 0xFE third then .lost 0
      else match rest with
        | [] => .lost 2
        | fourth :: _ =>
            if !within 0x30 0x39 fourth then .lost 0
            else
              let high := (first.toNat - 0x81) * 10 + (second.toNat - 0x30)
              let low := (third.toNat - 0x81) * 10 + (fourth.toNat - 0x30)
              .ofChar? (Chart.gb18030Long.get? (high * 1260 + low)) 3

def gb18030Piece (first : UInt8) (rest : List UInt8) : Piece :=
  if first < 0x80 then .ofOctet first
  else if first = 0x80 then ⟨['€'], 0⟩
  else if first = 0xFF then .lost 0
  else match rest with
    | second :: others =>
        if within 0x30 0x39 second then gb18030LongPiece first second others
        else pair gb18030Chars first rest
    | [] => .lost 0

end LiveChat.Text.Charset
