import LiveChat.Json.Value

/-!
Tables of the TOML format while a document is read. A table is defined once, by a header or by
dotted keys; a header may still define one that only the path of another header made.
-/

set_option autoImplicit false

namespace LiveChat.Toml

/-- What made a table. -/
inductive Origin where
  | path
  | header
  | dotted
  deriving DecidableEq, Repr

inductive Node where
  | value (value : Json)
  | table (origin : Origin) (entries : List (String × Node))
  /-- Tables under one key; the last one takes what follows. -/
  | tables (items : List (List (String × Node)))

abbrev Entries := List (String × Node)

namespace Entries

def put (key : String) (node : Node) (entries : Entries) : Entries :=
  entries.filter (·.1 ≠ key) ++ [(key, node)]

/-- Changes the table at the end of a path. Dotted keys do not enter a table that a header
defined. -/
def alter (dotted : Bool) (change : Origin → Entries → Option Entries) :
    List String → Origin → Entries → Option Entries
  | [], origin, entries => change origin entries
  | key :: path, _, entries =>
      match entries.lookup key with
      | none => do
          let made := if dotted then Origin.dotted else .path
          some (put key (.table made (← alter dotted change path made [])) entries)
      | some (.value _) => none
      | some (.table origin inner) =>
          if dotted ∧ origin = .header then none
          else do some (put key (.table origin (← alter dotted change path origin inner)) entries)
      | some (.tables items) => do
          let last ← items.getLast?
          let last ← alter dotted change path .header last
          some (put key (.tables (items.dropLast ++ [last])) entries)

/-- Opens the table that a header names. -/
def define (key : String) (_ : Origin) (entries : Entries) : Option Entries :=
  match entries.lookup key with
  | none => some (put key (.table .header []) entries)
  | some (.table .path inner) => some (put key (.table .header inner) entries)
  | some _ => none

/-- Opens one more table under a key. -/
def append (key : String) (_ : Origin) (entries : Entries) : Option Entries :=
  match entries.lookup key with
  | none => some (put key (.tables [[]]) entries)
  | some (.tables items) => some (put key (.tables (items ++ [[]])) entries)
  | some _ => none

/-- Adds a value under a new key; dotted keys and plain keys do not share a table. -/
def add (dotted : Bool) (key : String) (value : Json) (origin : Origin) (entries : Entries) :
    Option Entries :=
  if dotted ≠ (origin = .dotted) then none
  else if (entries.lookup key).isSome then none
  else some (put key (.value value) entries)

end Entries

mutual

def Node.toJson : Node → Json
  | .value value => value
  | .table _ entries => .ofFields (fieldsOf entries)
  | .tables items => .array (itemsOf items)

def fieldsOf : List (String × Node) → List (String × Json)
  | [] => []
  | (key, node) :: rest => (key, node.toJson) :: fieldsOf rest

def itemsOf : List (List (String × Node)) → List Json
  | [] => []
  | entries :: rest => .ofFields (fieldsOf entries) :: itemsOf rest

end

end LiveChat.Toml
