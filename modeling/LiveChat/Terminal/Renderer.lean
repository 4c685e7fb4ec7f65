import LiveChat.Conversation.Basic

/-!
Printing a conversation as it grows. Each snapshot adds only what was not yet printed: new
messages, and the rest of a reply that was still arriving.
-/

set_option autoImplicit false

namespace LiveChat.Terminal

open Conversation

/-- A printed message that may still grow. -/
structure OpenMessage where
  /-- Its place in the order in which messages were added. -/
  index : Nat
  printedSize : Nat
  printedTools : Nat
  deriving DecidableEq, Repr

structure Renderer where
  epoch : Nat
  printed : Nat
  open? : Option OpenMessage
  deriving DecidableEq, Repr

namespace Renderer

def new : Renderer := { epoch := 0, printed := 0, open? := none }

def roleLabel : Role → String
  | .user => "you>"
  | .agent => "agent>"
  | .system => "!"

def statusLabel : ToolStatus → String
  | .running => "running"
  | .success => "ok"
  | .error => "failed"

def cardTitle (card : Card) : String :=
  let texts := ["title", "name", "id"].filterMap fun key => (card.data.field? key).bind Json.text?
  texts.headD ""

def attachments (message : Message) : String :=
  let tools := message.tools.map fun call =>
    "  tool " ++ call.tool ++ ": " ++ statusLabel call.status ++ "\n"
  let cards := message.cards.map fun card =>
    "  [" ++ card.kind.label ++ "] " ++ cardTitle card ++ "\n"
  String.join (tools ++ cards)

/-- What follows the first `size` octets, if a character starts there. -/
def afterOctets? : Nat → List Char → Option (List Char)
  | 0, chars => some chars
  | _ + 1, [] => none
  | size + 1, char :: rest =>
      if char.utf8Size ≤ size + 1 then afterOctets? (size + 1 - char.utf8Size) rest else none

/-- The part of an open message that was not yet printed. -/
def continued (shown : OpenMessage) (message : Message) : String × Option OpenMessage :=
  let (added, printedSize) := match afterOctets? shown.printedSize message.content.toList with
    | some rest => (String.ofList rest, message.content.utf8ByteSize)
    | none => ("", shown.printedSize)
  let tools := (message.tools.drop shown.printedTools).map fun call =>
    "\n  [" ++ call.tool ++ "...]\n"
  let text := added ++ String.join tools
  if message.streaming then
    (text, some { shown with printedSize, printedTools := message.tools.length })
  else (text ++ "\n" ++ attachments message, none)

/-- A message that was not printed at all. -/
def started (index : Nat) (message : Message) : String × Option OpenMessage :=
  let start := roleLabel message.role ++ " " ++ message.content
  if message.isOpenReply then
    let (text, shown) := continued
      { index, printedSize := message.content.utf8ByteSize, printedTools := 0 } message
    (start ++ text, shown)
  else (start ++ "\n" ++ attachments message, none)

/-- Prints the messages one after the other, the first one at place `index`. -/
def startAll (index : Nat) (out : String) (shown : Option OpenMessage) :
    List Message → String × Option OpenMessage
  | [] => (out, shown)
  | message :: rest =>
      let (text, opened) := started index message
      startAll (index + 1) (out ++ text) (if opened.isSome then opened else shown) rest

/-- A replaced conversation is announced and printed from its start. -/
def reset (renderer : Renderer) (state : State) : String × Renderer :=
  if state.epoch = renderer.epoch then ("", renderer)
  else
    ((if renderer.open?.isSome then "\n" else "") ++ "-- conversation reset ("
        ++ Nat.repr state.messages.length ++ " messages) --\n",
      { epoch := state.epoch, printed := 0, open? := none })

/-- Nothing if the snapshot is older than one that was printed and lacks the message that is
open or counts more messages than it has added. -/
def render? (renderer : Renderer) (state : State) : Option (String × Renderer) := do
  let (announced, renderer) := renderer.reset state
  if state.appended < state.messages.length then none
  let base := state.appended - state.messages.length
  let (grown, shown) ← match renderer.open? with
    | none => some ("", none)
    | some shown =>
        if shown.index < base then some ("\n", none)
        else (state.messages[shown.index - base]?).map (continued shown)
  let first := max renderer.printed base
  let fresh := state.messages.drop (first - base)
  let (text, shown) := startAll first (announced ++ grown) shown fresh
  some (text, { renderer with printed := state.appended, open? := shown })

end Renderer

end LiveChat.Terminal
