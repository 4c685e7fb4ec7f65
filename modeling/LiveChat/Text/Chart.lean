/-!
Charts, which give the characters of a set by index.
-/

set_option autoImplicit false

namespace LiveChat.Text

/-- A row has `width` places; it may stop early, and a space is a place without a character. A run
is the first index, the size and the first code point of characters that follow one another:
controls, marks, private use and letters of scripts from right to left are given so. -/
structure Chart where
  width : Nat
  rows : Array String
  runs : List (Nat × Nat × Nat)
  deriving Repr

namespace Chart

def inRows? (chart : Chart) (index : Nat) : Option Char := do
  let row ← chart.rows[index / chart.width]?
  let char ← row.toList[index % chart.width]?
  if char = ' ' then none else some char

def inRuns? (chart : Chart) (index : Nat) : Option Char :=
  (chart.runs.find? fun (first, size, _) => first ≤ index && index < first + size).map
    fun (first, _, code) => Char.ofNat (code + (index - first))

def get? (chart : Chart) (index : Nat) : Option Char :=
  (chart.inRows? index).or (chart.inRuns? index)

end Chart

end LiveChat.Text
