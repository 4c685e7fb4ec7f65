import LiveChat.Text.Category

/-!
Characters that have no visible form of their own: vacant code points, formats, characters that
extend the one before them, and letters that only fill a place.
-/

set_option autoImplicit false

namespace LiveChat.Text

/-- Letters of Hangul that stand for none. -/
def fillers : List Char := ['\u115F', '\u1160', '\u3164', '\uFFA0']

def isHidden (char : Char) : Bool :=
  isVacant char || isFormat char || isNonspacing char || extendingRanges.covers char ||
    char ∈ fillers

end LiveChat.Text
