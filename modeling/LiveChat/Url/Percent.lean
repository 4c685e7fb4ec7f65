import LiveChat.Text.Utf8

/-!
Percent encoding. An octet that a part of a URL cannot hold is written as a percent sign and two
hexadecimal digits; octets outside printable ASCII are always written so.
-/

set_option autoImplicit false

namespace LiveChat.Url.Percent

def upperDigit (value : Nat) : Char :=
  if value < 10 then Char.ofNat (0x30 + value) else Char.ofNat (0x37 + value)

def encodeOctet (octet : UInt8) : List Char :=
  ['%', upperDigit (octet.toNat / 16), upperDigit (octet.toNat % 16)]

def isPrintable (char : Char) : Bool := 0x20 ≤ char.toNat && char.toNat < 0x7F

/-- Characters that satisfy the test are encoded although they are printable. -/
def encode (reserved : Char → Bool) (chars : List Char) : List Char :=
  chars.flatMap fun char =>
    if isPrintable char && !reserved char then [char]
    else (String.utf8EncodeChar char).flatMap encodeOctet

def inFragment (char : Char) : Bool := char ∈ [' ', '"', '<', '>', '\x60']

def inPath (char : Char) : Bool := inFragment char || char ∈ ['#', '?', '\x7b', '\x7d']

def inUserinfo (char : Char) : Bool :=
  inPath char || char ∈ ['/', ':', ';', '=', '@', '[', '\\', ']', '^', '|']

def inQuery (char : Char) : Bool := char ∈ [' ', '"', '#', '<', '>']

/-- In addresses of servers the apostrophe is encoded too. -/
def inSpecialQuery (char : Char) : Bool := inQuery char || char = '\''

def digit? (octet : UInt8) : Option Nat :=
  if 0x30 ≤ octet && octet ≤ 0x39 then some (octet.toNat - 0x30)
  else if 0x41 ≤ octet && octet ≤ 0x46 then some (octet.toNat - 0x37)
  else if 0x61 ≤ octet && octet ≤ 0x66 then some (octet.toNat - 0x57)
  else none

/-- A percent sign that two digits do not follow stands for itself. -/
def decode : List UInt8 → List UInt8
  | 0x25 :: high :: low :: rest =>
      match digit? high, digit? low with
      | some first, some second => UInt8.ofNat (first * 16 + second) :: decode rest
      | _, _ => 0x25 :: decode (high :: low :: rest)
  | octet :: rest => octet :: decode rest
  | [] => []

end LiveChat.Url.Percent
