import LiveChat.Json.Printer
import LiveChat.Text.Blank
import LiveChat.Text.Utf8

/-!
Limits on what a conversation holds. Sizes are lengths in UTF-8.
-/

set_option autoImplicit false

namespace LiveChat.Conversation

def maxMessages : Nat := 500

def maxContent : Nat := 100000

def maxInput : Nat := 10000

def maxTools : Nat := 50

def maxToolArgs : Nat := 10000

def maxCards : Nat := 10

def maxCardData : Nat := 50000

def maxId : Nat := 256

/-- Arguments that are too large give way to a note of their size. -/
def capToolArgs (args : Json) : Json :=
  if args.size ≤ maxToolArgs then args
  else .ofFields [("truncated", .bool true), ("original_size", .integer args.size)]

/-- How many of the leading characters fit in the room, on top of `count`. -/
def fitting (room count : Nat) : List Char → Nat
  | [] => count
  | char :: rest =>
      if char.utf8Size ≤ room then fitting (room - char.utf8Size) (count + 1) rest else count

/-- The longest start of the text that is whole characters and at most `limit` octets. -/
def cutText (limit : Nat) (text : String) : String :=
  if text.utf8ByteSize ≤ limit then text
  else String.ofList (text.toList.take (fitting limit 0 text.toList))

def validId (id : String) : Bool :=
  !(Text.trimChars id.toList).isEmpty && id.utf8ByteSize ≤ maxId && !id.toList.any Text.isControl

/-- The newest items, as many as a conversation holds. -/
def newest {Item : Type} (items : List Item) : List Item := items.drop (items.length - maxMessages)

theorem newest_length {Item : Type} (items : List Item) :
    (newest items).length ≤ maxMessages := by
  simp only [newest, List.length_drop]
  omega

end LiveChat.Conversation
