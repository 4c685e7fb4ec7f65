import LiveChat.Json.Reader

/-!
Numeric addresses of hosts. A dotted address has up to four numbers, of which the last one fills
what the others leave; a colon address has eight groups, of which one run of zeros may be left out.
-/

set_option autoImplicit false

namespace LiveChat.Url

/-- The text cut at every separator. -/
def pieces (separator : Char → Bool) (chars : List Char) : List (List Char) :=
  let (piece, pieces) := chars.foldl (fun (piece, pieces) char =>
    if separator char then ([], piece.reverse :: pieces) else (char :: piece, pieces))
    (([] : List Char), ([] : List (List Char)))
  (piece.reverse :: pieces).reverse

/-- The number that the digits stand for, if all are below the base. -/
def numeral? (base : Nat) (digits : List Char) : Option Nat :=
  digits.foldlM (fun value char => do
    let digit ← Json.hexDigit? char
    if digit < base then some (value * base + digit) else none) 0

/-- One number of a dotted address: hexadecimal after `0x`, octal after `0`. -/
def dottedNumber? : List Char → Option Nat
  | [] => none
  | '0' :: 'x' :: digits => numeral? 16 digits
  | '0' :: 'X' :: digits => numeral? 16 digits
  | '0' :: digit :: digits => numeral? 8 (digit :: digits)
  | digits => numeral? 10 digits

/-- The parts between the dots; a dot at the end adds none. -/
def dottedParts (chars : List Char) : List (List Char) :=
  let parts := pieces (· = '.') chars
  if parts.getLast? = some [] then parts.dropLast else parts

/-- Such a name is a dotted address or no name at all. -/
def endsInNumber (chars : List Char) : Bool :=
  match (dottedParts chars).getLast? with
  | none => false
  | some part => (part ≠ [] && part.all Json.isDigit) || (dottedNumber? part).isSome

/-- An address of 32 bits. -/
def dotted? (chars : List Char) : Option Nat := do
  let numbers ← (dottedParts chars).mapM dottedNumber?
  let last ← numbers.getLast?
  let others := numbers.dropLast
  if 3 < others.length then none
  if others.any (255 < ·) then none
  if Nat.pow 256 (4 - others.length) ≤ last then none
  let place := fun total (number, index) => total + number * Nat.pow 256 (3 - index)
  some (others.zipIdx.foldl place last)

def renderDotted (address : Nat) : String :=
  let octet := fun place => Nat.repr (address / Nat.pow 256 place % 256)
  ".".intercalate [octet 3, octet 2, octet 1, octet 0]

/-- A group of up to four hexadecimal digits. -/
def group? (chars : List Char) : Option Nat :=
  if chars = [] ∨ 4 < chars.length then none else numeral? 16 chars

/-- Four numbers without needless zeros, as the last two groups of a colon address. -/
def tailGroups? (chars : List Char) : Option (List Nat) := do
  let parts := pieces (· = '.') chars
  let plain := fun (part : List Char) =>
    part ≠ [] && part.all Json.isDigit && (part.head? ≠ some '0' || part.length = 1)
  if !parts.all plain then none
  let [first, second, third, fourth] ← parts.mapM (numeral? 10) | none
  if [first, second, third, fourth].any (255 < ·) then none
  some [first * 256 + second, third * 256 + fourth]

/-- Groups between single colons; the last one may be dotted. -/
def groups? (dottedEnd : Bool) (chars : List Char) : Option (List Nat) := do
  if chars = [] then return []
  let parts := pieces (· = ':') chars
  let last ← parts.getLast?
  let leading ← parts.dropLast.mapM group?
  if dottedEnd && '.' ∈ last then some (leading ++ (← tailGroups? last))
  else some (leading ++ [← group? last])

/-- What stands before the first pair of colons, and what after it. -/
def cutAtGap (before : List Char) : List Char → Option (List Char × List Char)
  | ':' :: ':' :: after => some (before.reverse, after)
  | char :: rest => cutAtGap (char :: before) rest
  | [] => none

/-- The eight groups of an address of 128 bits. -/
def colons? (chars : List Char) : Option (List Nat) := do
  match cutAtGap [] chars with
  | none =>
      let groups ← groups? true chars
      if groups.length = 8 then some groups else none
  | some (before, after) =>
      let leading ← groups? false before
      let trailing ← groups? true after
      let count := leading.length + trailing.length
      if 7 < count then none
      else some (leading ++ List.replicate (8 - count) 0 ++ trailing)

/-- How many groups from this one on are zero. -/
def zerosAt (groups : List Nat) (index : Nat) : Nat :=
  ((groups.drop index).takeWhile (· = 0)).length

/-- The first longest run of zeros, if it has two groups or more. -/
def longestGap? (groups : List Nat) : Option (Nat × Nat) :=
  (List.range groups.length).foldl (fun (best : Option (Nat × Nat)) index =>
    let count := zerosAt groups index
    if 2 ≤ count && (best.map Prod.snd).getD 0 < count then some (index, count) else best) none

def renderGroups (groups : List Nat) : String :=
  ":".intercalate (groups.map fun group => String.ofList (Nat.toDigits 16 group))

def renderColons (groups : List Nat) : String :=
  match longestGap? groups with
  | none => renderGroups groups
  | some (index, count) =>
      renderGroups (groups.take index) ++ "::" ++ renderGroups (groups.drop (index + count))

end LiveChat.Url
