/-!
Bounded queues between a sender and a receiver. A queue whose receiver is gone takes nothing.
-/

set_option autoImplicit false

namespace LiveChat.Stream

structure Channel (Item : Type) where
  capacity : Nat
  /-- What waits to be received, oldest first. -/
  items : List Item
  /-- The receiver still exists. -/
  receiving : Bool
  deriving Repr

namespace Channel

variable {Item : Type}

def new (capacity : Nat) : Channel Item := { capacity, items := [], receiving := true }

def hasRoom (channel : Channel Item) : Bool := channel.items.length < channel.capacity

inductive Offer (Item : Type) where
  | sent (channel : Channel Item)
  | full
  | gone

def offer (channel : Channel Item) (item : Item) : Offer Item :=
  if !channel.receiving then .gone
  else if channel.hasRoom then .sent { channel with items := channel.items ++ [item] }
  else .full

def take? (channel : Channel Item) : Option (Item × Channel Item) :=
  match channel.items with
  | [] => none
  | item :: rest => some (item, { channel with items := rest })

/-- The receiver goes away, and what waited with it. -/
def drop (channel : Channel Item) : Channel Item :=
  { channel with items := [], receiving := false }

theorem offer_sent_items {channel next : Channel Item} {item : Item}
    (sent : channel.offer item = .sent next) : next.items = channel.items ++ [item] := by
  unfold offer at sent
  split at sent
  · cases sent
  · split at sent
    · cases sent
      rfl
    · cases sent

theorem take_items {channel next : Channel Item} {item : Item}
    (taken : channel.take? = some (item, next)) : channel.items = item :: next.items := by
  unfold take? at taken
  split at taken
  · cases taken
  · next items =>
    cases taken
    exact items

theorem take_receiving {channel rest : Channel Item} {item : Item}
    (taken : channel.take? = some (item, rest)) : rest.receiving = channel.receiving := by
  unfold take? at taken
  split at taken
  · cases taken
  · cases taken
    rfl

end Channel

end LiveChat.Stream
