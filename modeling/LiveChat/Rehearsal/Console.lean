import LiveChat.Session.Error
import LiveChat.Stream.Connection
import LiveChat.Terminal.Renderer
import LiveChat.Text.Utf8

/-!
A terminal with a person in front of it: what was typed, what was printed, and what the terminal
waits for.
-/

set_option autoImplicit false

namespace LiveChat.Rehearsal

inductive Console.Stage where
  | starting
  | listening
  /-- Until the session has taken the action. -/
  | acting
  | fetching (retries due : Nat)
  | loading
  | turning (visibility : Stream.Visibility)
  | reporting (status : Stream.Status)
  | finished (failure : Option String)

structure Console where
  renderer : Terminal.Renderer
  /-- The newest published state that was printed. -/
  seen : Nat
  /-- Notices may still come. -/
  noticesOpen : Bool
  stage : Console.Stage
  input : List UInt8
  inputEnded : Bool
  interrupted : Bool
  /-- What was printed since the last look. -/
  output : String

namespace Console

def new : Console :=
  { renderer := .new, seen := 0, noticesOpen := true, stage := .starting, input := []
    inputEnded := false, interrupted := false, output := "" }

def isFinished (console : Console) : Bool :=
  match console.stage with
  | .finished _ => true
  | _ => false

def isListening (console : Console) : Bool :=
  match console.stage with
  | .listening => true
  | _ => false

def print (console : Console) (text : String) : Console :=
  { console with output := console.output ++ text }

def lineEnd : UInt8 := 10

def carriageReturn : UInt8 := 13

def withoutReturn (line : List UInt8) : List UInt8 :=
  if line.getLast? = some carriageReturn then line.dropLast else line

/-- What the person typed next. -/
inductive Typed where
  | nothing
  | line (octets : List UInt8)
  | finished

/-- The next line without its end. -/
def takeLine (console : Console) : Typed × Console :=
  let line := console.input.takeWhile (· ≠ lineEnd)
  match console.input.dropWhile (· ≠ lineEnd) with
  | _ :: input => (.line (withoutReturn line), { console with input })
  | [] =>
      if !console.inputEnded then (.nothing, console)
      else if line = [] then (.finished, console)
      else (.line line, { console with input := [] })

/-- Prints what a published state adds. -/
def display (console : Console) (published : Nat) (state : Conversation.State) : Console :=
  match console.renderer.render? state with
  | some (text, renderer) => { console with seen := published, renderer }.print text
  | none => { console with seen := published }

end Console

end LiveChat.Rehearsal
