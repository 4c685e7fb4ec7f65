import LiveChat.Toml.Scalar
import LiveChat.Toml.Table
import LiveChat.Toml.Text

/-!
Reading documents of the TOML format.
-/

set_option autoImplicit false

namespace LiveChat.Toml

abbrev Reader (Value : Type) := List Char → Option (Value × List Char)

def skipBlanks (input : List Char) : List Char := input.dropWhile isBlank

def isBare (char : Char) : Bool :=
  Json.isDigit char || char.isAlpha || char = '_' || char = '-'

def readKey (input : List Char) : Option (String × List Char) :=
  match input with
  | '"' :: rest => readLine '"' input.length [] rest
  | '\'' :: rest => readLine '\'' input.length [] rest
  | _ =>
      let key := input.takeWhile isBare
      if key = [] then none else some (String.ofList key, input.dropWhile isBare)

/-- How deep values nest, and how many keys a path has, at most. -/
def depthLimit : Nat := 79

/-- Keys with dots between them. -/
def readPath : Nat → List String → Reader (List String)
  | 0, _, _ => none
  | fuel + 1, seen, input => do
      let (key, rest) ← readKey (skipBlanks input)
      match skipBlanks rest with
      | '.' :: rest => readPath fuel (key :: seen) rest
      | rest => if depthLimit ≤ seen.length then none else some ((key :: seen).reverse, rest)

/-- A comment up to the end of its line. -/
def skipComment (input : List Char) : List Char :=
  match input with
  | '#' :: rest => rest.dropWhile isPlain
  | _ => input

/-- Blanks, comments and line ends. -/
def skipLines : Nat → List Char → List Char
  | 0, input => input
  | fuel + 1, input =>
      let rest := skipComment (skipBlanks input)
      match dropLineEnd? rest with
      | some rest => skipLines fuel rest
      | none => rest

def skipAll (input : List Char) : List Char := skipLines input.length input

/-- Items up to the closing bracket; a comma may stand before it. -/
def readItems (item : Reader Json) : Nat → List Json → Reader Json
  | 0, _, _ => none
  | fuel + 1, seen, input =>
      match skipAll input with
      | ']' :: rest => some (.array seen.reverse, rest)
      | input => do
          let (value, rest) ← item input
          match skipAll rest with
          | ',' :: rest => readItems item fuel (value :: seen) rest
          | ']' :: rest => some (.array (value :: seen).reverse, rest)
          | _ => none

/-- The path and the value of one line. -/
def readPair (item : Reader Json) (input : List Char) :
    Option ((List String × String × Json) × List Char) := do
  let (path, rest) ← readPath (input.length + 1) [] input
  let key ← path.getLast?
  let '=' :: rest := rest | none
  let (value, rest) ← item (skipBlanks rest)
  some ((path.dropLast, key, value), rest)

def addPair (origin : Origin) (pair : List String × String × Json) (entries : Entries) :
    Option Entries :=
  let (path, key, value) := pair
  entries.alter true (Entries.add (path ≠ []) key value) path origin

/-- Pairs up to the closing brace, at least one, all on one line. -/
def readPairs (item : Reader Json) : Nat → Entries → Reader Json
  | 0, _, _ => none
  | fuel + 1, entries, input => do
      let (pair, rest) ← readPair item (skipBlanks input)
      let entries ← addPair .header pair entries
      match skipBlanks rest with
      | ',' :: rest => readPairs item fuel entries rest
      | '\x7d' :: rest => some (.ofFields (fieldsOf entries), rest)
      | _ => none

def readTable (item : Reader Json) (input : List Char) : Option (Json × List Char) :=
  match skipBlanks input with
  | '\x7d' :: rest => some (.object [], rest)
  | rest => readPairs item (rest.length + 1) [] rest

def readScalar (input : List Char) : Option (Json × List Char) :=
  match input with
  | '"' :: _ => (readText '"' input).map fun (text, rest) => (.string text, rest)
  | '\'' :: _ => (readText '\'' input).map fun (text, rest) => (.string text, rest)
  | _ =>
      let (word, rest) := takeWord input
      (scalar? word).map (·, rest)

/-- One value whose arrays and tables nest at most `depth` deep. -/
def readValue : Nat → Reader Json
  | 0 => readScalar
  | depth + 1 => fun input =>
      match input with
      | '[' :: rest => readItems (readValue depth) (rest.length + 1) [] rest
      | '\x7b' :: rest => readTable (readValue depth) rest
      | _ => readScalar input

/-- What was read, and the table that the next line belongs to. -/
structure Document where
  entries : Entries
  current : List String

namespace Document

def empty : Document := { entries := [], current := [] }

def openTable (append : Bool) (path : List String) (document : Document) : Option Document := do
  let key ← path.getLast?
  let change := if append then Entries.append key else Entries.define key
  let entries ← document.entries.alter false change path.dropLast .header
  some { entries, current := path }

def addPair (pair : List String × String × Json) (document : Document) : Option Document := do
  let change := fun origin entries => Toml.addPair origin pair entries
  let entries ← document.entries.alter false change document.current .header
  some { document with entries }

/-- The path in a header and what follows its brackets. -/
def readHeader (closing : List Char) (input : List Char) : Option (List String × List Char) := do
  let (path, rest) ← readPath (input.length + 1) [] input
  some (path, ← Json.expect closing rest)

/-- One line that is neither blank nor a comment. -/
def readEntry (document : Document) (input : List Char) : Option (Document × List Char) :=
  match input with
  | '[' :: '[' :: rest => do
      let (path, rest) ← readHeader [']', ']'] rest
      some (← document.openTable true path, rest)
  | '[' :: rest => do
      let (path, rest) ← readHeader [']'] rest
      some (← document.openTable false path, rest)
  | _ => do
      let (pair, rest) ← readPair (readValue depthLimit) input
      some (← document.addPair pair, rest)

def readEntries : Nat → Document → List Char → Option Document
  | 0, _, _ => none
  | fuel + 1, document, input =>
      match skipAll input with
      | [] => some document
      | input => do
          let (document, rest) ← document.readEntry input
          match skipComment (skipBlanks rest) with
          | [] => some document
          | rest => readEntries fuel document (← dropLineEnd? rest)

end Document

/-- The fields of a document; a byte order mark at its start does not count. -/
def parse (text : String) : Option Json :=
  let chars := match text.toList with
    | '\uFEFF' :: rest => rest
    | chars => chars
  (Document.empty.readEntries (chars.length + 1) chars).map fun document =>
    .ofFields (fieldsOf document.entries)

end LiveChat.Toml
