import LiveChat.Json.Value

/-!
Reading JSON text. A text is one value between blanks. Arrays and objects nest at most 127
deep. A whole number outside the 64-bit ranges, a number with a fraction or an exponent, and
minus zero are real; a real too large for binary64 is refused.
-/

set_option autoImplicit false

namespace LiveChat.Json

abbrev Reader (Value : Type) := List Char → Option (Value × List Char)

def isSpace (char : Char) : Bool :=
  char = ' ' || char = '\n' || char = '\r' || char = '\t'

def skipSpaces (input : List Char) : List Char := input.dropWhile isSpace

def expect : List Char → List Char → Option (List Char)
  | [], input => some input
  | char :: word, other :: input => if char = other then expect word input else none
  | _ :: _, [] => none

def isDigit (char : Char) : Bool := '0' ≤ char && char ≤ '9'

def digitValue (char : Char) : Nat := char.toNat - '0'.toNat

def hexDigit? (char : Char) : Option Nat :=
  if isDigit char then some (digitValue char)
  else if 'a' ≤ char ∧ char ≤ 'f' then some (char.toNat - 'a'.toNat + 10)
  else if 'A' ≤ char ∧ char ≤ 'F' then some (char.toNat - 'A'.toNat + 10)
  else none

def hex4? (a b c d : Char) : Option Nat := do
  let a ← hexDigit? a
  let b ← hexDigit? b
  let c ← hexDigit? c
  let d ← hexDigit? d
  some (((a * 16 + b) * 16 + c) * 16 + d)

def shortEscape? (char : Char) : Option Char :=
  if char = '"' then some '"'
  else if char = '\\' then some '\\'
  else if char = '/' then some '/'
  else if char = 'b' then some '\x08'
  else if char = 'f' then some '\x0c'
  else if char = 'n' then some '\n'
  else if char = 'r' then some '\r'
  else if char = 't' then some '\t'
  else none

/-- Reads up to the closing quote. A number in an escape is a UTF-16 unit: a high surrogate
needs a low one right behind it, and a low one never stands alone. -/
def readText (seen : List Char) : List Char → Option (String × List Char)
  | [] => none
  | '"' :: rest => some (String.ofList seen.reverse, rest)
  | '\\' :: 'u' :: a :: b :: c :: d :: rest =>
      match hex4? a b c d with
      | none => none
      | some unit =>
          if 0xDC00 ≤ unit ∧ unit ≤ 0xDFFF then none
          else if 0xD800 ≤ unit ∧ unit ≤ 0xDBFF then
            match rest with
            | '\\' :: 'u' :: e :: f :: g :: h :: rest =>
                match hex4? e f g h with
                | none => none
                | some low =>
                    if 0xDC00 ≤ low ∧ low ≤ 0xDFFF then
                      readText (Char.ofNat (0x10000 + (unit - 0xD800) * 0x400 + (low - 0xDC00))
                        :: seen) rest
                    else none
            | _ => none
          else readText (Char.ofNat unit :: seen) rest
  | '\\' :: char :: rest =>
      match shortEscape? char with
      | none => none
      | some escaped => readText (escaped :: seen) rest
  | char :: rest =>
      if char = '\\' ∨ char.toNat < 0x20 then none else readText (char :: seen) rest

def readString : Reader String
  | '"' :: rest => readText [] rest
  | _ => none

def takeDigits (input : List Char) : List Nat × List Char :=
  ((input.takeWhile isDigit).map digitValue, input.dropWhile isDigit)

/-- The leading digits that fit an unsigned 64-bit number, and those that follow. -/
def fitDigits (value : Nat) : List Nat → Nat × List Nat
  | [] => (value, [])
  | digit :: rest =>
      if value * 10 + digit < Nat.pow 2 64 then fitDigits (value * 10 + digit) rest
      else (value, digit :: rest)

/-- Multiplies or divides by powers of ten, as many as needed, each at most `10 ^ 308`. -/
def scaleReal : Nat → Float → Int → Option Float
  | 0, _, _ => none
  | steps + 1, value, exponent =>
      if exponent.natAbs ≤ 308 then
        let power := Float.ofScientific 1 false exponent.natAbs
        if 0 ≤ exponent then
          if (value * power).isInf then none else some (value * power)
        else some (value / power)
      else if value == 0 then some value
      else if 0 ≤ exponent then none
      else scaleReal steps (value / Float.ofScientific 1 false 308) (exponent + 308)

/-- The value that the digits and the exponent stand for, by one conversion of the digits and
one product or quotient for each power of ten, each step rounded. -/
def realOf (negative : Bool) (significand : Nat) (exponent : Int) : Option Json :=
  (scaleReal 4 significand.toUInt64.toFloat exponent).map fun value =>
    real (if negative then -value else value)

/-- An exponent too large for a signed 32-bit number. -/
def farReal (negative : Bool) (significand : Nat) (positive : Bool) : Option Json :=
  if significand ≠ 0 ∧ positive then none
  else some (real (if negative then -0.0 else 0.0))

def valueOf (digits : List Nat) : Nat := digits.foldl (fun value digit => value * 10 + digit) 0

def clampExponent (exponent : Int) : Int := max (-2147483648) (min 2147483647 exponent)

def readExponent (negative : Bool) (significand : Nat) (start : Int) : Reader Json := fun input =>
  let (positive, rest) := match input with
    | '+' :: rest => (true, rest)
    | '-' :: rest => (false, rest)
    | _ => (true, input)
  let (digits, rest) := takeDigits rest
  if digits.isEmpty then none
  else
    let exponent := valueOf digits
    if Nat.pow 2 31 ≤ exponent then
      (farReal negative significand positive).map (·, rest)
    else
      let total := clampExponent (if positive then start + exponent else start - exponent)
      (realOf negative significand total).map (·, rest)

/-- What may follow the digits of a real number: an exponent or nothing. -/
def finishReal (negative : Bool) (significand : Nat) (exponent : Int) : Reader Json
  | 'e' :: rest => readExponent negative significand exponent rest
  | 'E' :: rest => readExponent negative significand exponent rest
  | rest => (realOf negative significand exponent).map (·, rest)

/-- Digits that no longer fit count for their place only before the point. -/
def readFraction (negative : Bool) (significand : Nat) (exponent : Int) : Reader Json :=
  fun input =>
    let (digits, rest) := takeDigits input
    if digits.isEmpty then none
    else
      let (significand, left) := fitDigits significand digits
      finishReal negative significand (exponent - (digits.length - left.length : Nat)) rest

def integerOf (negative : Bool) (significand : Nat) : Json :=
  if !negative then integer significand
  else if significand = 0 ∨ Nat.pow 2 63 < significand then real (-significand.toUInt64.toFloat)
  else integer (-(significand : Int))

/-- What may follow the whole part. -/
def finishNumber (negative : Bool) (significand : Nat) (extra : Nat) : Reader Json
  | '.' :: rest => readFraction negative significand extra rest
  | 'e' :: rest => readExponent negative significand extra rest
  | 'E' :: rest => readExponent negative significand extra rest
  | rest =>
      if extra = 0 then some (integerOf negative significand, rest)
      else (realOf negative significand extra).map (·, rest)

/-- The whole part is `0` or starts with another digit. -/
def readMagnitude (negative : Bool) : Reader Json := fun input =>
  match takeDigits input with
  | ([], _) => none
  | (0 :: _ :: _, _) => none
  | (digits, rest) =>
      let (significand, left) := fitDigits 0 digits
      finishNumber negative significand left.length rest

def readNumber : Reader Json
  | '-' :: rest => readMagnitude true rest
  | rest => readMagnitude false rest

def readScalar : Reader Json
  | 'n' :: rest => (expect ['u', 'l', 'l'] rest).map (null, ·)
  | 't' :: rest => (expect ['r', 'u', 'e'] rest).map (bool true, ·)
  | 'f' :: rest => (expect ['a', 'l', 's', 'e'] rest).map (bool false, ·)
  | '"' :: rest => (readText [] rest).map fun (text, rest) => (string text, rest)
  | input => readNumber input

/-- Items up to the closing bracket, at least one. -/
def readItems (item : Reader Json) : Nat → List Json → Reader (List Json)
  | 0, _, _ => none
  | fuel + 1, seen, input =>
      match item (skipSpaces input) with
      | none => none
      | some (value, rest) =>
          match skipSpaces rest with
          | ',' :: rest => readItems item fuel (value :: seen) rest
          | ']' :: rest => some ((value :: seen).reverse, rest)
          | _ => none

/-- Fields up to the closing brace, at least one. -/
def readFields (item : Reader Json) : Nat → Fields → Reader Fields
  | 0, _, _ => none
  | fuel + 1, seen, input =>
      match readString (skipSpaces input) with
      | none => none
      | some (key, rest) =>
          match skipSpaces rest with
          | ':' :: rest =>
              match item (skipSpaces rest) with
              | none => none
              | some (value, rest) =>
                  match skipSpaces rest with
                  | ',' :: rest => readFields item fuel (seen.insert key value) rest
                  | '\x7d' :: rest => some (seen.insert key value, rest)
                  | _ => none
          | _ => none

def readArray (item : Reader Json) : Reader Json := fun input =>
  match skipSpaces input with
  | ']' :: rest => some (array [], rest)
  | rest => (readItems item rest.length [] rest).map fun (items, rest) => (array items, rest)

def readObject (item : Reader Json) : Reader Json := fun input =>
  match skipSpaces input with
  | '\x7d' :: rest => some (object [], rest)
  | rest => (readFields item rest.length [] rest).map fun (fields, rest) => (object fields, rest)

/-- One value whose arrays and objects nest at most `depth` deep. -/
def readValue : Nat → Reader Json
  | 0 => readScalar
  | depth + 1 => fun input =>
      match input with
      | '[' :: rest => readArray (readValue depth) rest
      | '\x7b' :: rest => readObject (readValue depth) rest
      | _ => readScalar input

def depthLimit : Nat := 127

def parse (text : String) : Option Json :=
  match readValue depthLimit (skipSpaces text.toList) with
  | none => none
  | some (value, rest) => if (skipSpaces rest).isEmpty then some value else none

end LiveChat.Json
