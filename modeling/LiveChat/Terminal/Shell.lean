import LiveChat.Session.Error
import LiveChat.Stream.Connection
import LiveChat.Stream.RecentChanges
import LiveChat.Terminal.Command
import LiveChat.Terminal.Renderer

/-!
What the terminal prints beside the conversation.
-/

set_option autoImplicit false

namespace LiveChat.Terminal

open LiveChat.Stream (Status Visibility Notice Change Connection StreamError Endpoint)

def greeting : String := "type /help for commands\n"

def help : String :=
  String.join
    ["commands:\n",
      "  /history   reload the conversation from the server\n",
      "  /clear     clear the conversation locally\n",
      "  /hide      pretend the window went to the background\n",
      "  /show      bring it back\n",
      "  /status    stream status and counters\n",
      "  /changes   recent data change notices\n",
      "  /help      this text\n",
      "  /quit      exit\n",
      "anything else is sent to the assistant\n"]

def noticeText : Notice → String
  | .disconnected => "\n-- connection lost, reconnecting --\n"
  | .reconnected => "-- reconnected --\n"

def visibilityText : Visibility → String
  | .hidden => "-- hidden --\n"
  | .visible => "-- visible --\n"

def unknownText (name : String) : String :=
  "! unknown command /" ++ name ++ ", try /help\n"

def failureText (error : Session.SessionError) : String := "! " ++ error.message ++ "\n"

def loadedText (count : Nat) : String := "-- loaded " ++ Nat.repr count ++ " messages --\n"

def notLoadedText (error : Session.SessionError) : String :=
  "! could not load history: " ++ error.message ++ "\n"

def changesText (changes : List Change) : String :=
  if changes = [] then "-- no data changes yet --\n"
  else
    String.join (changes.map fun change =>
      "  " ++ change.action ++ " " ++ change.resource ++ " " ++ change.id ++ "\n")

def truthLabel (value : Bool) : String := if value then "true" else "false"

def visibilityLabel : Visibility → String
  | .visible => "Visible"
  | .hidden => "Hidden"

def connectionText : Except StreamError Connection → String
  | .ok connection =>
      "  attempt " ++ Nat.repr connection.attempt
        ++ " reconnecting=" ++ truthLabel connection.reconnecting
        ++ " idle_closed=" ++ truthLabel connection.closedByInactivity
        ++ " visibility=" ++ visibilityLabel connection.visibility ++ "\n"
  | .error error => "  " ++ error.message ++ "\n"

def countersText (counters : Stream.Counters) : String :=
  "  opened " ++ Nat.repr counters.connectionsOpened
    ++ " payloads " ++ Nat.repr counters.payloadsReceived
    ++ " dispatched " ++ Nat.repr counters.eventsDispatched
    ++ " dropped " ++ Nat.repr counters.droppedTotal
    ++ " notices lost " ++ Nat.repr counters.noticesDropped ++ "\n"

/-- The report on the stream. Its three lines may be from different moments. -/
def statusText (status : Status) (endpoint : Endpoint) (connection : Except StreamError Connection)
    (counters : Stream.Counters) : String :=
  "stream " ++ status.label ++ " (" ++ endpoint.path ++ ")\n" ++ connectionText connection
    ++ countersText counters

end LiveChat.Terminal
