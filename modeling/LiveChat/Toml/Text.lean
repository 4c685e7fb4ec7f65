import LiveChat.Json.Reader

/-!
Texts of the TOML format: with escapes between double quotes, plain between single ones, and
either kind over several lines between three of them.
-/

set_option autoImplicit false

namespace LiveChat.Toml

def isBlank (char : Char) : Bool := char = ' ' || char = '\t'

/-- What may stand in a text or a comment as it is. -/
def isPlain (char : Char) : Bool := char = '\t' || (0x20 ≤ char.toNat && char.toNat ≠ 0x7F)

def scalarOf? (digits : List Char) : Option Char := do
  let value ← digits.foldlM (fun value char => do some (value * 16 + (← Json.hexDigit? char))) 0
  if value.isValidChar then some (Char.ofNat value) else none

/-- The character that stands behind a backslash as this one. -/
def shortEscape? (char : Char) : Option Char :=
  [('"', '"'), ('\\', '\\'), ('b', '\x08'), ('f', '\x0c'), ('n', '\n'), ('r', '\r'),
    ('t', '\t')].lookup char

/-- The character of an escape without its backslash, and what follows. -/
def escape? : List Char → Option (Char × List Char)
  | 'u' :: a :: b :: c :: d :: rest => (scalarOf? [a, b, c, d]).map (·, rest)
  | 'U' :: a :: b :: c :: d :: e :: f :: g :: h :: rest =>
      (scalarOf? [a, b, c, d, e, f, g, h]).map (·, rest)
  | char :: rest => (shortEscape? char).map (·, rest)
  | [] => none

/-- A text up to the quote that ends it. -/
def readLine (quote : Char) : Nat → List Char → List Char → Option (String × List Char)
  | 0, _, _ => none
  | fuel + 1, seen, input =>
      match input with
      | [] => none
      | char :: rest =>
          if char = quote then some (String.ofList seen.reverse, rest)
          else if char = '\\' ∧ quote = '"' then
            match escape? rest with
            | none => none
            | some (escaped, rest) => readLine quote fuel (escaped :: seen) rest
          else if isPlain char then readLine quote fuel (char :: seen) rest
          else none

def dropLineEnd? : List Char → Option (List Char)
  | '\n' :: rest => some rest
  | '\r' :: '\n' :: rest => some rest
  | _ => none

/-- What follows a backslash at the end of a line: everything up to the next visible
character is left out. -/
def continuation? (input : List Char) : Option (List Char) :=
  (dropLineEnd? (input.dropWhile isBlank)).map fun rest =>
    rest.dropWhile fun char => isBlank char || char = '\n' || char = '\r'

/-- A text of several lines up to three quotes; up to two more belong to the text. -/
def readLines (quote : Char) : Nat → List Char → List Char → Option (String × List Char)
  | 0, _, _ => none
  | fuel + 1, seen, input =>
      let quotes := (input.takeWhile (· = quote)).length
      if 3 ≤ quotes then
        let extra := min (quotes - 3) 2
        some (String.ofList (List.replicate extra quote ++ seen).reverse, input.drop (3 + extra))
      else
        match dropLineEnd? input with
        | some rest => readLines quote fuel ('\n' :: seen) rest
        | none =>
            match input with
            | [] => none
            | char :: rest =>
                if char = '\\' ∧ quote = '"' then
                  match continuation? rest with
                  | some rest => readLines quote fuel seen rest
                  | none =>
                      match escape? rest with
                      | none => none
                      | some (escaped, rest) => readLines quote fuel (escaped :: seen) rest
                else if isPlain char then readLines quote fuel (char :: seen) rest
                else none

/-- A text that its first quote announces. A line end right behind three quotes is left out. -/
def readText (quote : Char) (input : List Char) : Option (String × List Char) :=
  match input with
  | first :: second :: third :: rest =>
      if first = quote ∧ second = quote ∧ third = quote then
        readLines quote (rest.length + 1) [] ((dropLineEnd? rest).getD rest)
      else if first = quote then readLine quote input.length [] (input.drop 1)
      else none
  | first :: rest => if first = quote then readLine quote input.length [] rest else none
  | [] => none

end LiveChat.Toml
