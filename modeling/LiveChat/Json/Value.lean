/-!
JSON values. The fields of an object stand in ascending order of their keys, each key once.
-/

set_option autoImplicit false

namespace LiveChat

inductive Json where
  | null
  | bool (value : Bool)
  | integer (value : Int)
  | real (value : Float)
  | string (text : String)
  | array (items : List Json)
  | object (fields : List (String × Json))
  deriving BEq, Repr, Inhabited

namespace Json

abbrev Fields := List (String × Json)

/-- A field that is already there gets the new value. -/
def Fields.insert (key : String) (value : Json) : Fields → Fields
  | [] => [(key, value)]
  | (other, held) :: rest =>
      if key < other then (key, value) :: (other, held) :: rest
      else if key = other then (key, value) :: rest
      else (other, held) :: Fields.insert key value rest

/-- Of two fields with one key the later one counts. -/
def Fields.ofList (fields : List (String × Json)) : Fields :=
  fields.foldl (fun sorted (key, value) => Fields.insert key value sorted) []

def Fields.get? (fields : Fields) (key : String) : Option Json := fields.lookup key

def ofFields (fields : List (String × Json)) : Json := object (Fields.ofList fields)

def field? (key : String) : Json → Option Json
  | object fields => Fields.get? fields key
  | _ => none

def text? : Json → Option String
  | string text => some text
  | _ => none

def items? : Json → Option (List Json)
  | array items => some items
  | _ => none

def fields? : Json → Option Fields
  | object fields => some fields
  | _ => none

def bool? : Json → Option Bool
  | bool value => some value
  | _ => none

def isObject : Json → Bool
  | object _ => true
  | _ => false

/-- The integers are those of 64 bits, with a sign or without one. -/
def largestInteger : Int := 18446744073709551615

def largestSigned : Int := 9223372036854775807

def smallestInteger : Int := -9223372036854775808

end Json

end LiveChat
