import LiveChat.Url.Address
import LiveChat.Url.Domain.Direction
import LiveChat.Url.Domain.Mapping
import LiveChat.Url.Punycode

/-!
Domain names in ASCII. Characters stand for others, mostly in lower case, and a label with other
characters than those of ASCII is marked and written in their place.
-/

set_option autoImplicit false

namespace LiveChat.Url.Domain

def isForbidden (char : Char) : Bool :=
  char.toNat ≤ 0x20 || char.toNat = 0x7F ||
    char ∈ ['%', '#', '/', ':', '<', '>', '?', '@', '[', '\\', ']', '^', '|']

def isAscii (label : List Char) : Bool := label.all (·.toNat < 0x80)

def mark : List Char := ['x', 'n', '-', '-']

/-- How long a label can be, and how long one in marked form. -/
def maxLabel : Nat := 1000

def maxMarked : Nat := 2000

/-- What the characters of a name stand for, in normal form. -/
def mapped? (chars : List Char) : Option (List Char) :=
  (chars.mapM image?).map fun images => Text.composed images.flatten

/-- The label that a marked one was written for, which must need the mark. -/
def unmarked? (label : List Char) : Option (List Char) := do
  let written := label.drop mark.length
  let plain ← Punycode.decode? written
  if maxMarked < written.length || isAscii plain || mapped? plain ≠ some plain then none
  else some plain

/-- A label as it is read, if it is written as it should be. -/
def readLabel? (label : List Char) : Option (List Char) :=
  if label.take mark.length = mark then unmarked? label else some label

/-- A label starts with no mark, and its joiners make a difference. -/
def isSound (label : List Char) : Bool :=
  !label.any isForbidden && !label.head?.any Text.isMark && joinersFit label

def writeLabel? (label : List Char) : Option (List Char) :=
  if isAscii label then some label
  else if maxLabel < label.length then none
  else some (mark ++ Punycode.encode label)

/-- The name in ASCII, if it is the name of a domain. -/
def toAscii? (chars : List Char) : Option (List Char) := do
  let labels := pieces (· = '.') (← mapped? chars)
  let plain ← labels.mapM readLabel?
  if !plain.all isSound || !areOneWay plain then none
  let written ← labels.mapM writeLabel?
  some (['.'].intercalate written)

end LiveChat.Url.Domain
