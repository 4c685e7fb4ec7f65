import LiveChat.Stream.Event

/-!
The most recent changes on the server, oldest first, for display.
-/

set_option autoImplicit false

namespace LiveChat.Stream

structure RecentChanges where
  capacity : Nat
  entries : List Change
  deriving DecidableEq, Repr

namespace RecentChanges

def new (capacity : Nat) : RecentChanges := { capacity := max capacity 1, entries := [] }

def add (recent : RecentChanges) (change : Change) : RecentChanges :=
  let held := if recent.entries.length = recent.capacity then recent.entries.drop 1
    else recent.entries
  { recent with entries := held ++ [change] }

end RecentChanges

end LiveChat.Stream
