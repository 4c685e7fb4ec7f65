import LiveChat.Decimal.Shortest
import LiveChat.Json.Value

/-!
The compact text of a JSON value: no blanks, object fields in order of their keys, and only
the escapes that the format demands.
-/

set_option autoImplicit false

namespace LiveChat.Json

def hexDigit (value : Nat) : Char := Nat.digitChar value

def escapedChar (char : Char) : List Char :=
  if char = '"' then ['\\', '"']
  else if char = '\\' then ['\\', '\\']
  else if char = '\n' then ['\\', 'n']
  else if char = '\r' then ['\\', 'r']
  else if char = '\t' then ['\\', 't']
  else if char = '\x08' then ['\\', 'b']
  else if char = '\x0c' then ['\\', 'f']
  else if char.toNat < 0x20 then
    ['\\', 'u', '0', '0', hexDigit (char.toNat / 16), hexDigit (char.toNat % 16)]
  else [char]

def stringChars (text : String) : List Char :=
  '"' :: (text.toList.flatMap escapedChar ++ ['"'])

def integerChars (value : Int) : List Char :=
  match value with
  | .ofNat size => Nat.toDigits 10 size
  | .negSucc size => '-' :: Nat.toDigits 10 (size + 1)

def exponentChars (exponent : Int) : List Char :=
  if exponent < 0 then 'e' :: integerChars exponent else 'e' :: '+' :: integerChars exponent

/-- Digits with a point where the number is neither too long nor too small for it, and with a
signed exponent otherwise. A whole number keeps one zero after its point. -/
def digitsChars (digits : List Char) (exponent : Int) : List Char :=
  let point := (digits.length : Int) + exponent
  if 0 ≤ exponent ∧ point ≤ 16 then
    digits ++ List.replicate exponent.toNat '0' ++ ['.', '0']
  else if 0 < point ∧ point ≤ 16 then
    digits.take point.toNat ++ '.' :: digits.drop point.toNat
  else if -5 < point ∧ point ≤ 0 then
    '0' :: '.' :: (List.replicate (-point).toNat '0' ++ digits)
  else
    let power := exponentChars (point - 1)
    match digits with
    | [] => power
    | [only] => only :: power
    | first :: rest => first :: '.' :: (rest ++ power)

/-- The number is finite. -/
def realChars (value : Float) : List Char :=
  let binary := Decimal.Binary.ofFloat value
  let sign := if binary.negative then ['-'] else []
  if binary.significand = 0 then sign ++ ['0', '.', '0']
  else
    let short := Decimal.shortest binary.significand binary.exponent
    sign ++ digitsChars (Nat.toDigits 10 short.digits) short.exponent

mutual

def chars : Json → List Char
  | null => ['n', 'u', 'l', 'l']
  | bool true => ['t', 'r', 'u', 'e']
  | bool false => ['f', 'a', 'l', 's', 'e']
  | integer value => integerChars value
  | real value => realChars value
  | string text => stringChars text
  | array items => '[' :: (itemChars items ++ [']'])
  | object fields => '\x7b' :: (fieldChars fields ++ ['\x7d'])

def itemChars : List Json → List Char
  | [] => []
  | item :: rest => chars item ++ moreItemChars rest

def moreItemChars : List Json → List Char
  | [] => []
  | item :: rest => ',' :: (chars item ++ moreItemChars rest)

def fieldChars : List (String × Json) → List Char
  | [] => []
  | (key, value) :: rest => stringChars key ++ ':' :: (chars value ++ moreFieldChars rest)

def moreFieldChars : List (String × Json) → List Char
  | [] => []
  | (key, value) :: rest =>
      ',' :: (stringChars key ++ ':' :: (chars value ++ moreFieldChars rest))

end

def render (value : Json) : String := String.ofList value.chars

/-- The length of the compact text in octets. -/
def size (value : Json) : Nat := value.render.utf8ByteSize

end LiveChat.Json
