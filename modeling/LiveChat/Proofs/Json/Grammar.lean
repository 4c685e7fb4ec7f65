import LiveChat.Json.Reader
import LiveChat.Proofs.Json.Fields

/-!
Which texts spell which JSON value, by the grammar of the format and without a word on how a text
is read. A value within brackets may be spelled in any of its ways, with blanks around it.
-/

set_option autoImplicit false

namespace LiveChat.Json

def Blank (chars : List Char) : Prop := ∀ char ∈ chars, isSpace char = true

/-- Blanks may stand before and after it. -/
def Padded (spelled : List Char → Prop) (chars : List Char) : Prop :=
  ∃ before inner after, Blank before ∧ spelled inner ∧ Blank after ∧
    chars = before ++ (inner ++ after)

/-! Strings. -/

/-- The ways to write one character. Two units of UTF-16 make one character where it takes two,
and a half of such a pair is not a character. -/
inductive Written : Char → List Char → Prop where
  | plain {char : Char} (unquoted : char ≠ '"') (unescaped : char ≠ '\\')
      (printable : 0x20 ≤ char.toNat) : Written char [char]
  | short {char letter : Char} (known : shortEscape? letter = some char) :
      Written char ['\\', letter]
  | one {a b c d : Char} {unit : Nat} (digits : hex4? a b c d = some unit)
      (whole : unit < 0xD800 ∨ 0xDFFF < unit) :
      Written (Char.ofNat unit) ['\\', 'u', a, b, c, d]
  | two {a b c d e f g h : Char} {high low : Nat} (first : hex4? a b c d = some high)
      (second : hex4? e f g h = some low) (above : 0xD800 ≤ high ∧ high ≤ 0xDBFF)
      (below : 0xDC00 ≤ low ∧ low ≤ 0xDFFF) :
      Written (Char.ofNat (0x10000 + (high - 0xD800) * 0x400 + (low - 0xDC00)))
        ['\\', 'u', a, b, c, d, '\\', 'u', e, f, g, h]

inductive WrittenText : List Char → List Char → Prop where
  | nil : WrittenText [] []
  | cons {char : Char} {text piece chars : List Char} (first : Written char piece)
      (rest : WrittenText text chars) : WrittenText (char :: text) (piece ++ chars)

def Quoted (text : String) (chars : List Char) : Prop :=
  ∃ inner, WrittenText text.toList inner ∧ chars = '"' :: (inner ++ ['"'])

/-! Numbers. -/

def Digits (chars : List Char) : Prop := chars ≠ [] ∧ ∀ char ∈ chars, isDigit char = true

def decimals (chars : List Char) : List Nat := chars.map digitValue

structure Exponent where
  mark : Char
  sign : List Char
  digits : List Char

structure Exponent.Proper (exponent : Exponent) : Prop where
  mark : exponent.mark = 'e' ∨ exponent.mark = 'E'
  sign : exponent.sign = [] ∨ exponent.sign = ['+'] ∨ exponent.sign = ['-']
  digits : Digits exponent.digits

def Exponent.chars (exponent : Exponent) : List Char :=
  exponent.mark :: (exponent.sign ++ exponent.digits)

/-- The exponent counts beside the place that the digits have by themselves. One that is out of
all bounds makes zero or no number. -/
def Exponent.value? (negative : Bool) (significand : Nat) (place : Int) (exponent : Exponent) :
    Option Json :=
  let size := valueOf (decimals exponent.digits)
  let positive : Bool := exponent.sign ≠ ['-']
  if Nat.pow 2 31 ≤ size then farReal negative significand positive
  else realOf negative significand (clampExponent (if positive then place + size else place - size))

structure Numeral where
  negative : Bool
  whole : List Char
  fraction : Option (List Char)
  exponent : Option Exponent

namespace Numeral

structure Proper (numeral : Numeral) : Prop where
  whole : Digits numeral.whole
  unpadded : numeral.whole.head? = some '0' → numeral.whole = ['0']
  fraction : ∀ digits, numeral.fraction = some digits → Digits digits
  exponent : ∀ exponent, numeral.exponent = some exponent → exponent.Proper

def signChars (negative : Bool) : List Char := if negative then ['-'] else []

def fractionChars : Option (List Char) → List Char
  | none => []
  | some digits => '.' :: digits

def exponentChars : Option Exponent → List Char
  | none => []
  | some exponent => exponent.chars

def chars (numeral : Numeral) : List Char :=
  signChars numeral.negative ++ (numeral.whole ++
    (fractionChars numeral.fraction ++ exponentChars numeral.exponent))

def realValue? (negative : Bool) (significand : Nat) (place : Int) :
    Option Exponent → Option Json
  | none => realOf negative significand place
  | some exponent => exponent.value? negative significand place

/-- Digits of the fraction that are lost have no place either. -/
def fractionValue? (negative : Bool) (significand : Nat) (place : Int) (digits : List Char)
    (exponent : Option Exponent) : Option Json :=
  let (significand, lost) := fitDigits significand (decimals digits)
  realValue? negative significand (place - (digits.length - lost.length : Nat)) exponent

/-- The value, when so many digits of the whole part are lost. -/
def valueAfter? (negative : Bool) (significand lost : Nat) :
    Option (List Char) → Option Exponent → Option Json
  | none, none =>
      if lost = 0 then some (integerOf negative significand)
      else realOf negative significand lost
  | none, some exponent => exponent.value? negative significand lost
  | some digits, exponent => fractionValue? negative significand lost digits exponent

/-- Of the digits the first ones count, as many as 64 bits can hold. -/
def value? (numeral : Numeral) : Option Json :=
  let (significand, lost) := fitDigits 0 (decimals numeral.whole)
  valueAfter? numeral.negative significand lost.length numeral.fraction numeral.exponent

end Numeral

/-! Values. -/

inductive Scalar : Json → List Char → Prop where
  | null : Scalar null ['n', 'u', 'l', 'l']
  | yes : Scalar (bool true) ['t', 'r', 'u', 'e']
  | no : Scalar (bool false) ['f', 'a', 'l', 's', 'e']
  | string {text : String} {chars : List Char} (quoted : Quoted text chars) :
      Scalar (string text) chars
  | number {numeral : Numeral} {value : Json} (proper : numeral.Proper)
      (has : numeral.value? = some value) : Scalar value numeral.chars

/-- At least one of them, with commas in between. -/
inductive Listed {Value : Type} (spelled : Value → List Char → Prop) :
    List Value → List Char → Prop where
  | last {value : Value} {chars : List Char} (only : spelled value chars) :
      Listed spelled [value] chars
  | more {value : Value} {values : List Value} {chars rest : List Char}
      (first : spelled value chars) (others : Listed spelled values rest) :
      Listed spelled (value :: values) (chars ++ ',' :: rest)

section

variable (item : Json → List Char → Prop)

inductive ArrayOf : Json → List Char → Prop where
  | empty {chars : List Char} (blank : Blank chars) : ArrayOf (array []) ('[' :: (chars ++ [']']))
  | filled {values : List Json} {chars : List Char}
      (items : Listed (fun value => Padded (item value)) values chars) :
      ArrayOf (array values) ('[' :: (chars ++ [']']))

def Member (field : String × Json) (chars : List Char) : Prop :=
  ∃ name body, Padded (Quoted field.1) name ∧ Padded (item field.2) body ∧
    chars = name ++ ':' :: body

inductive ObjectOf : Json → List Char → Prop where
  | empty {chars : List Char} (blank : Blank chars) :
      ObjectOf (object []) ('\x7b' :: (chars ++ ['\x7d']))
  | filled {written : List (String × Json)} {fields : Fields} {chars : List Char}
      (members : Listed (Member item) written chars) (gathers : Fields.Gathers written fields) :
      ObjectOf (object fields) ('\x7b' :: (chars ++ ['\x7d']))

end

/-- The value is spelled so, and its arrays and objects nest at most `depth` deep. -/
def Spells : Nat → Json → List Char → Prop
  | 0, value, chars => Scalar value chars
  | depth + 1, value, chars =>
      Scalar value chars ∨ ArrayOf (Spells depth) value chars ∨ ObjectOf (Spells depth) value chars

/-- A JSON text is one value. -/
def IsText (value : Json) (text : String) : Prop := Padded (Spells depthLimit value) text.toList

end LiveChat.Json
