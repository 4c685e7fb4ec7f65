/-!
Sets of code points, given by ranges.
-/

set_option autoImplicit false

namespace LiveChat.Text

/-- Each range has its first and its last code point. -/
abbrev Ranges := List (Nat × Nat)

namespace Ranges

def covers (ranges : Ranges) (char : Char) : Bool :=
  ranges.any fun (first, last) => first ≤ char.toNat && char.toNat ≤ last

end Ranges

end LiveChat.Text
