import LiveChat.Json.Value

/-!
Records in JSON: an object whose other fields are ignored, or an array of the fields in order.
A slot is the value at a field's place, if there is one.
-/

set_option autoImplicit false

namespace LiveChat.Json

def slots (names : List String) : Json → Option (List (Option Json))
  | object fields => some (names.map fun name => Fields.get? fields name)
  | array items =>
      if items.length ≤ names.length then
        some (items.map some ++ List.replicate (names.length - items.length) none)
      else none
  | _ => none

def natural? (limit : Nat) : Json → Option Nat
  | integer value => if 0 ≤ value ∧ value < limit then some value.toNat else none
  | _ => none

/-- A value of a fixed list of labels: the label itself or an object with it as the only key
and null behind it. -/
def label? : Json → Option String
  | string text => some text
  | object [(key, null)] => some key
  | _ => none

end LiveChat.Json
