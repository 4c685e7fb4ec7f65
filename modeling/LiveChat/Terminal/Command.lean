import LiveChat.Text.Blank

/-!
What a typed line asks for: lines that start with a slash are commands, all else is sent.
-/

set_option autoImplicit false

namespace LiveChat.Terminal

inductive Command where
  | send (text : String)
  | history
  | clear
  | hide
  | «show»
  | status
  | changes
  | help
  | quit
  | unknown (name : String)
  deriving DecidableEq, Repr

namespace Command

def named : List (String × Command) :=
  [("history", history), ("clear", clear), ("hide", hide), ("show", .show), ("status", status),
    ("changes", changes), ("help", help), ("?", help), ("quit", quit), ("exit", quit), ("q", quit)]

/-- A line that is sent keeps its blanks. -/
def parse (line : String) : Command :=
  match Text.trimChars line.toList with
  | '/' :: rest =>
      let name := String.ofList rest
      (named.lookup name).getD (unknown name)
  | _ => send line

end Command

end LiveChat.Terminal
