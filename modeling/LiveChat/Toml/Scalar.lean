import LiveChat.Json.Reader
import LiveChat.Time.Calendar

/-!
Numbers, truth values and dates of the TOML format. Each is a word that is classified as a whole.
-/

set_option autoImplicit false

namespace LiveChat.Toml

open Json (isDigit)

/-- The word without the underscores, each of which must stand between two digits. -/
def joined? (digit : Char → Bool) : List Char → Option (List Char)
  | [] => none
  | [char] => if digit char then some [char] else none
  | char :: '_' :: rest => if digit char then (joined? digit rest).map (char :: ·) else none
  | char :: rest => if digit char then (joined? digit rest).map (char :: ·) else none

def numeral (base : Nat) (digits : List Char) : Nat :=
  digits.foldl (fun value char => value * base + (Json.hexDigit? char).getD 0) 0

def inRange? (value : Int) : Option Json :=
  if Json.smallestInteger ≤ value ∧ value ≤ Json.largestSigned then some (.integer value) else none

def signed (word : List Char) : Bool × List Char :=
  match word with
  | '+' :: rest => (false, rest)
  | '-' :: rest => (true, rest)
  | _ => (false, word)

/-- A zero leads only where it stands alone. -/
def whole? (digits : List Char) : Option (List Char) := do
  let digits ← joined? isDigit digits
  if digits.head? = some '0' ∧ digits ≠ ['0'] then none else some digits

def based? (base : Nat) (digits : List Char) : Option Json := do
  let digit := fun char => match Json.hexDigit? char with
    | some value => decide (value < base)
    | none => false
  inRange? (numeral base (← joined? digit digits))

def integer? : List Char → Option Json
  | '0' :: 'x' :: digits => based? 16 digits
  | '0' :: 'o' :: digits => based? 8 digits
  | '0' :: 'b' :: digits => based? 2 digits
  | word => do
      let (negative, digits) := signed word
      let value : Int := numeral 10 (← whole? digits)
      inRange? (if negative then -value else value)

def power? : List Char → Option Int
  | [] => some 0
  | _ :: word => do
      let (negative, digits) := signed word
      let value : Int := numeral 10 (← joined? isDigit digits)
      some (if negative then -value else value)

def isPower (char : Char) : Bool := char = 'e' || char = 'E'

def magnitude? (word : List Char) : Option Float := do
  if !word.any fun char => char = '.' || isPower char then none
  let mantissa := word.takeWhile fun char => !isPower char
  let power ← power? (word.dropWhile fun char => !isPower char)
  let first ← whole? (mantissa.takeWhile (· ≠ '.'))
  let second ← match mantissa.dropWhile (· ≠ '.') with
    | [] => some []
    | _ :: places => joined? isDigit places
  let exponent := power - second.length
  let digits := numeral 10 (first ++ second)
  -- beyond these bounds every value is zero or infinite
  let exponent := max (-100000) (min 100000 exponent)
  some (Float.ofScientific digits (exponent < 0) exponent.natAbs)

def real? (word : List Char) : Option Json := do
  let (negative, magnitude) := signed word
  let value ←
    if magnitude = ['i', 'n', 'f'] then some (1.0 / 0.0)
    else if magnitude = ['n', 'a', 'n'] then some (0.0 / 0.0)
    else magnitude? magnitude
  some (.real (if negative then -value else value))

/-- The number that as many digits stand for, and what follows. -/
def fixed? (count : Nat) (chars : List Char) : Option (Nat × List Char) :=
  let digits := chars.take count
  if digits.length = count ∧ digits.all isDigit then some (numeral 10 digits, chars.drop count)
  else none

def date? (chars : List Char) : Option (List Char) := do
  let (year, rest) ← fixed? 4 chars
  let '-' :: rest := rest | none
  let (month, rest) ← fixed? 2 rest
  let '-' :: rest := rest | none
  let (day, rest) ← fixed? 2 rest
  if ({ year, month, day : Time.Date }).valid then some rest else none

def clock? (chars : List Char) : Option (List Char) := do
  let (hour, rest) ← fixed? 2 chars
  let ':' :: rest := rest | none
  let (minute, rest) ← fixed? 2 rest
  let ':' :: rest := rest | none
  let (second, rest) ← fixed? 2 rest
  if 23 < hour ∨ 59 < minute ∨ 60 < second then none
  match rest with
  | '.' :: rest => if (rest.takeWhile isDigit) = [] then none else some (rest.dropWhile isDigit)
  | _ => some rest

def isOffset (chars : List Char) : Bool :=
  match chars with
  | [] => true
  | ['Z'] => true
  | ['z'] => true
  | sign :: rest =>
      (sign = '+' || sign = '-') && ((do
        let (hour, rest) ← fixed? 2 rest
        let ':' :: rest := rest | none
        let (minute, rest) ← fixed? 2 rest
        if hour ≤ 23 ∧ minute ≤ 59 ∧ rest = [] then some () else none) : Option Unit).isSome

/-- A date, a time of day, or both with or without an offset. -/
def isMoment (word : List Char) : Bool :=
  match date? word with
  | some [] => true
  | some (separator :: rest) =>
      separator ∈ ['T', 't', ' '] && ((clock? rest).map isOffset).getD false
  | none => clock? word = some []

/-- A moment stands for a table with its text. -/
def moment? (word : List Char) : Option Json :=
  if isMoment word then some (.ofFields [("moment", .string (String.ofList word))]) else none

def truth? (word : List Char) : Option Json :=
  if word = ['t', 'r', 'u', 'e'] then some (.bool true)
  else if word = ['f', 'a', 'l', 's', 'e'] then some (.bool false)
  else none

def scalar? (word : List Char) : Option Json :=
  truth? word <|> moment? word <|> integer? word <|> real? word

def inWord (char : Char) : Bool :=
  isDigit char || char.isAlpha || char ∈ ['+', '-', '_', '.', ':']

/-- The word at the front; one blank may stand between a date and a time of day. -/
def takeWord (chars : List Char) : List Char × List Char :=
  let word := chars.takeWhile inWord
  let rest := chars.dropWhile inWord
  match rest with
  | ' ' :: more =>
      if date? word = some [] ∧ (more.head?.map isDigit).getD false then
        (word ++ ' ' :: more.takeWhile inWord, more.dropWhile inWord)
      else (word, rest)
  | _ => (word, rest)

end LiveChat.Toml
