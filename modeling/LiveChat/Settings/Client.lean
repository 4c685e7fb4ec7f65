import LiveChat.Settings.Basic
import LiveChat.Stream.Connection
import LiveChat.Url.Parser

/-!
Settings that were checked: the origin is the address of a server alone, both paths stay on that
server, and the backoff runs from a positive delay to one that is not shorter.
-/

set_option autoImplicit false

namespace LiveChat

inductive Settings.Fault where
  | origin (text : String) (fault : Url.Fault)
  | scheme (name : String)
  | noHost (text : String)
  | originPath (text : String)
  | messagesPath (error : Stream.StreamError)
  | streamPath (error : Stream.StreamError)
  | backoff (initial ceiling : Nat)
  deriving Repr

/-- What is wrong, and then why. -/
def Settings.Fault.messages : Settings.Fault → List String
  | origin text fault => ["Invalid server.origin " ++ Text.quoted text, fault.message]
  | scheme name => ["server.origin must be http or https, got " ++ Text.quoted name]
  | noHost text => ["server.origin " ++ Text.quoted text ++ " has no host"]
  | originPath text =>
      ["server.origin " ++ Text.quoted text ++ " must not carry a path or query"]
  | messagesPath error => ["Invalid server.messages_path", error.message]
  | streamPath error => ["Invalid stream.path", error.message]
  | backoff initial ceiling =>
      ["stream backoff must satisfy 0 < initial_backoff_ms (" ++ Nat.repr initial
        ++ ") <= max_backoff_ms (" ++ Nat.repr ceiling ++ ")"]

structure ClientSettings where
  origin : Url
  messages : Stream.Endpoint
  stream : Stream.Settings
  /-- How many events may wait for the session. -/
  eventCapacity : Nat

namespace ClientSettings

open Settings (Fault)

def readOrigin (text : String) : Except Fault Url := do
  let origin ← (Url.parse text).mapError (Fault.origin text)
  if origin.scheme ≠ "http" ∧ origin.scheme ≠ "https" then throw (.scheme origin.scheme)
  if origin.authority.isNone then throw (.noHost text)
  if origin.path.render ≠ "/" ∨ origin.query.isSome then throw (.originPath text)
  pure origin

/-- The address of the messages on the server. -/
def messagesUrl (settings : ClientSettings) : Except Url.Fault Url :=
  settings.origin.join settings.messages.path

def ofSettings (settings : Settings) : Except Fault ClientSettings := do
  let origin ← readOrigin settings.server.origin
  let messages ← (Stream.Endpoint.parse settings.server.messagesPath).mapError .messagesPath
  let endpoint ← (Stream.Endpoint.parse settings.stream.path).mapError .streamPath
  let initial := settings.stream.initialBackoff
  let ceiling := settings.stream.maxBackoff
  if initial = 0 ∨ ceiling < initial then throw (.backoff initial ceiling)
  pure
    { origin, messages
      stream :=
        { endpoint
          policy :=
            { initial := .ofMillis initial, ceiling := .ofMillis ceiling
              maxAttempts := settings.stream.maxReconnectAttempts }
          inactivity := .ofSeconds settings.stream.inactivitySeconds
          payloadLimit := settings.stream.maxPayload }
      eventCapacity := max settings.stream.channelCapacity 1 }

end ClientSettings

end LiveChat
