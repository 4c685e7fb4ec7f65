import LiveChat.Settings.Basic
import LiveChat.Text.Blank
import LiveChat.Toml.Text

/-!
Settings in variables of the environment. A name starts with a mark in either case; two
underscores, or a dot, lead into a section. A value that is not a truth value, number, character,
quoted text, array or table stands for itself.
-/

set_option autoImplicit false

namespace LiveChat.Settings.Environment

abbrev Reader (Value : Type) := List Char → Option (Value × List Char)

def isSpace (char : Char) : Bool := char ∈ [' ', '\t', '\n', '\x0c', '\r']

def skipSpaces (input : List Char) : List Char := input.dropWhile isSpace

def isSeparator (char : Char) : Bool := char ∈ [',', '\x7b', '\x7d', '[', ']']

def isIdentifier (char : Char) : Bool :=
  Json.isDigit char || char.isAlpha || char = '_' || char = '-'

def numeral? (digits : List Char) : Option Nat :=
  if digits ≠ [] ∧ digits.all Json.isDigit then some (Json.valueOf (digits.map Json.digitValue))
  else none

/-- The exponent of a number, with the sign in front of its digits. -/
def power? : List Char → Option Int
  | [] => some 0
  | _ :: '-' :: digits => (numeral? digits).map fun value => -(value : Int)
  | _ :: '+' :: digits => (numeral? digits).map fun value => (value : Int)
  | _ :: digits => (numeral? digits).map fun value => (value : Int)

def isPower (char : Char) : Bool := char = 'e' || char = 'E'

/-- A number with a point; digits may be missing on one side of it. -/
def real? (word : List Char) : Option Json := do
  let (negative, magnitude) := match word with
    | '-' :: rest => (true, rest)
    | '+' :: rest => (false, rest)
    | _ => (false, word)
  let mantissa := magnitude.takeWhile fun char => !isPower char
  let power ← power? (magnitude.dropWhile fun char => !isPower char)
  let second := (mantissa.dropWhile (· ≠ '.')).drop 1
  let digits ← numeral? (mantissa.takeWhile (· ≠ '.') ++ second)
  let exponent := max (-100000) (min 100000 (power - second.length))
  let value := Float.ofScientific digits (exponent < 0) exponent.natAbs
  some (.real (if negative then -value else value))

def number? (word : List Char) : Option Json :=
  if '.' ∈ word then real? word
  else match word with
    | '-' :: digits => do
        let value ← numeral? digits
        if value ≤ Nat.pow 2 63 then some (.integer (-(value : Int))) else none
    | _ => do
        let digits := match word with
          | '+' :: digits => digits
          | _ => word
        let value ← numeral? digits
        if value < Nat.pow 2 64 then some (.integer value) else none

def readWord (input : List Char) : Json × List Char :=
  let word := Text.trimChars (input.takeWhile fun char => !isSeparator char)
  ((number? word).getD (.string (String.ofList word)),
    input.dropWhile fun char => !isSeparator char)

/-- Items with commas between them up to the closing mark; a comma may stand before it. -/
def readMany {Value : Type} (item : Reader Value) (closing : Char) :
    Nat → List Value → Reader (List Value)
  | 0, _, _ => none
  | fuel + 1, seen, input =>
      if input.head? = some closing then some (seen.reverse, input.drop 1)
      else do
        let (value, rest) ← item input
        match rest with
        | ',' :: rest => readMany item closing fuel (value :: seen) rest
        | char :: rest => if char = closing then some ((value :: seen).reverse, rest) else none
        | [] => none

def readKey (input : List Char) : Option (String × List Char) :=
  match input with
  | '"' :: rest => Toml.readLine '"' input.length [] rest
  | _ =>
      let key := input.takeWhile isIdentifier
      if key = [] then none else some (String.ofList key, input.dropWhile isIdentifier)

def readPair (item : Reader Json) (input : List Char) : Option ((String × Json) × List Char) := do
  let (key, rest) ← readKey (skipSpaces input)
  let '=' :: rest := skipSpaces rest | none
  let (value, rest) ← item rest
  some ((key, value), rest)

/-- One value with the blanks around it. -/
def readValue : Nat → Reader Json
  | 0, _ => none
  | fuel + 1, input => do
      let input := skipSpaces input
      let (value, rest) ← match input with
        | 't' :: 'r' :: 'u' :: 'e' :: rest => some (Json.bool true, rest)
        | 'f' :: 'a' :: 'l' :: 's' :: 'e' :: rest => some (Json.bool false, rest)
        | '\x7b' :: rest =>
            (readMany (readPair (readValue fuel)) '\x7d' (rest.length + 1) [] rest).map
              fun (fields, rest) => (Json.ofFields fields, rest)
        | '[' :: rest =>
            (readMany (readValue fuel) ']' (rest.length + 1) [] rest).map
              fun (items, rest) => (Json.array items, rest)
        | '"' :: rest =>
            (Toml.readLine '"' input.length [] rest).map
              fun (text, rest) => (Json.string text, rest)
        | '\'' :: char :: '\'' :: rest => some (Json.string (String.singleton char), rest)
        | '\'' :: _ => none
        | _ => some (readWord input)
      some (value, skipSpaces rest)

def valueOf (text : String) : Json :=
  match readValue (text.length + 1) text.toList with
  | some (value, []) => value
  | _ => .string text

def mark : List Char := "jobtrail_".toList

/-- Two underscores become a dot. -/
def dotted : List Char → List Char
  | '_' :: '_' :: rest => '.' :: dotted rest
  | char :: rest => char :: dotted rest
  | [] => []

def keys (chars : List Char) : List (List Char) :=
  let (key, others) := chars.foldr (fun char (key, others) =>
    if char = '.' then ([], key :: others) else (char :: key, others))
    (([] : List Char), ([] : List (List Char)))
  key :: others

/-- The keys that a name leads through. -/
def keysOf? (name : String) : Option (List String) :=
  let chars := (Text.trimChars name.toList).map Char.toLower
  if chars.take mark.length = mark then
    let keys := keys (Text.trimChars (dotted (chars.drop mark.length)))
    if [] ∈ keys then none else some (keys.map String.ofList)
  else none

def nested (value : Json) : List String → Json
  | [] => value
  | key :: keys => .object [(key, nested value keys)]

/-- The settings in one variable. -/
def ofVariable? (name value : String) : Option Json :=
  (keysOf? name).map (nested (valueOf value))

end LiveChat.Settings.Environment
