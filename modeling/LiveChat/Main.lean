import LiveChat.Rehearsal.Operator
import LiveChat.Settings.Client
import LiveChat.Settings.Layers
import LiveChat.Terminal.Options

/-!
The command line: reads the settings and runs the terminal over standard input and output. There
is no network here, so every request goes unanswered.
-/

set_option autoImplicit false

namespace LiveChat.Main

open Rehearsal (Operator Console)

def variableName (area name : String) : String := ("jobtrail_" ++ area ++ "__" ++ name).toUpper

def variableNames : List String :=
  Settings.Server.entries.map (variableName "server" ·.1) ++
    Settings.Stream.entries.map (variableName "stream" ·.1)

def readVariables : IO (List (String × String)) :=
  variableNames.filterMapM fun name => do
    let value ← IO.getEnv name
    return value.map fun value => (name, value)

/-- Where the settings are kept, unless another place is named. -/
def homeDir : IO (Option String) := do
  return (← IO.getEnv "HOME").map (· ++ "/.jobtrail")

def readDocument (dataDir : Option String) : IO (Option String) := do
  let some dataDir := dataDir.or (← homeDir) | return none
  try
    return some (← IO.FS.readFile (dataDir ++ "/config.toml"))
  catch _ => return none

/-- How many changes the terminal remembers. -/
def recentChanges : Nat := 32

def maxNotices : Nat := 16

/-- Events may be longer than payloads, so that the long ones are counted. -/
def eventRoom : Nat := 4

def setup (settings : ClientSettings) (messages : Url) : Operator.Setup :=
  { settings := settings.stream
    source := .http settings.origin (settings.stream.payloadLimit * eventRoom)
    draws := [], chat := none, changes := some settings.eventCapacity
    notices := some maxNotices, session := some settings.eventCapacity
    service := .new (some messages), recent := some recentChanges, console := true }

def start (options : Terminal.Options) (settings : ClientSettings) (messages : Url) : Operator :=
  let operator := Operator.begin (setup settings messages)
  let operator := if options.noHistory then operator else operator.refresh.2
  operator.signal .connect

def printed (operator : Operator) : String :=
  (operator.world.console.map (·.output)).getD ""

def isFinished (operator : Operator) : Bool :=
  (operator.world.console.map Console.isFinished).getD true

def typeLine (line : String) (operator : Operator) : Operator :=
  if line.isEmpty then operator.endInput
  else (operator.type (Text.Utf8.encode (line.dropEndWhile (· = '\n')).toString)).2

/-- Prints what there is and reads the next line, while the clock moves on. -/
partial def serve (input output : IO.FS.Stream) (began : Nat) (operator : Operator) : IO Unit := do
  output.putStr (printed operator)
  output.flush
  if isFinished operator then return
  let quiet := operator.onConsole fun console => { console with output := "" }
  let line ← input.getLine
  let now := (← IO.monoMsNow) - began
  let next := typeLine line (quiet.onWorld fun world => world.advanceTo (max now world.now))
  serve input output began next.settle

def fail (messages : List String) : IO UInt32 := do
  IO.eprintln ("Error: " ++ ": ".intercalate messages)
  return 1

end LiveChat.Main

open LiveChat in
def main (arguments : List String) : IO UInt32 := do
  match Terminal.Options.parse arguments with
  | .error message => Main.fail [message]
  | .ok options =>
      match Settings.load (← Main.readDocument options.dataDir) (← Main.readVariables) with
      | .error place => Main.fail ["Failed to load settings", ".".intercalate place]
      | .ok written =>
          let origin := options.origin.getD written.server.origin
          let written := { written with server := { written.server with origin } }
          match ClientSettings.ofSettings written with
          | .error fault => Main.fail fault.messages
          | .ok settings =>
              match settings.messagesUrl with
              | .error fault => Main.fail ["Invalid messages path", fault.message]
              | .ok messages =>
                  let operator := Main.start options settings messages
                  Main.serve (← IO.getStdin) (← IO.getStdout) (← IO.monoMsNow) operator
                  return 0
