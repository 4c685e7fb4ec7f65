import LiveChat.Text.Hidden

/-!
Text between quotation marks, as error messages show it: a quote and a backslash carry a
backslash, and a character without a visible form is written by its number.
-/

set_option autoImplicit false

namespace LiveChat.Text

def hexDigits (value : Nat) : List Char := Nat.toDigits 16 value

def quotedChar (char : Char) : List Char :=
  if char = '"' then ['\\', '"']
  else if char = '\\' then ['\\', '\\']
  else if char = '\n' then ['\\', 'n']
  else if char = '\r' then ['\\', 'r']
  else if char = '\t' then ['\\', 't']
  else if char = '\x00' then ['\\', '0']
  else if 0x20 ≤ char.toNat && char.toNat < 0x7F then [char]
  else if isHidden char then ['\\', 'u', '\x7b'] ++ hexDigits char.toNat ++ ['\x7d']
  else [char]

def quoted (text : String) : String :=
  "\"" ++ String.ofList (text.toList.flatMap quotedChar) ++ "\""

example : quoted "a\"b\\\n" = "\"a\\\"b\\\\\\n\"" := by decide

end LiveChat.Text
