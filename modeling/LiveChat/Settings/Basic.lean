import LiveChat.Json.Record

/-!
The settings as a person writes them, in two sections. Whatever is left out has a standard value.
-/

set_option autoImplicit false

namespace LiveChat

namespace Settings

structure Server where
  origin : String
  messagesPath : String
  deriving DecidableEq, Repr

def Server.standard : Server :=
  { origin := "http://127.0.0.1:8000", messagesPath := "/api/chat/messages" }

structure Stream where
  path : String
  initialBackoff : Nat
  maxBackoff : Nat
  maxReconnectAttempts : Nat
  inactivitySeconds : Nat
  maxPayload : Nat
  channelCapacity : Nat
  deriving DecidableEq, Repr

def Stream.standard : Stream :=
  { path := "/api/chat/stream", initialBackoff := 1000, maxBackoff := 30000
    maxReconnectAttempts := 20, inactivitySeconds := 300, maxPayload := 65536
    channelCapacity := 256 }

end Settings

structure Settings where
  server : Settings.Server
  stream : Settings.Stream
  deriving DecidableEq, Repr

namespace Settings

def standard : Settings := { server := .standard, stream := .standard }

/-- Where a value stands: the keys from the outside in. -/
abbrev Place := List String

/-- Reads one value into a record. -/
abbrev Entry (Record : Type) := Json → Record → Except Place Record

def under {Record : Type} (key : String) (result : Except Place Record) : Except Place Record :=
  result.mapError (key :: ·)

/-- Whether an array may hold more items than the record has entries. -/
inductive Surplus where
  | refused
  | ignored
  deriving DecidableEq

/-- Reads a record from an object, of which unknown keys are ignored, or from an array of the
values in order. The first value that does not fit is the fault. -/
def readRecord {Record : Type} (surplus : Surplus) (entries : List (String × Entry Record)) :
    Entry Record
  | .object fields, record =>
      fields.foldlM (fun record (key, value) =>
        match entries.lookup key with
        | none => .ok record
        | some entry => under key (entry value record)) record
  | .array items, record =>
      if surplus = .refused ∧ entries.length < items.length then .error []
      else
        ((items.zip entries).zipIdx).foldlM (fun record ((value, _, entry), index) =>
          under (Nat.repr index) (entry value record)) record
  | _, _ => .error []

def textEntry {Record : Type} (set : String → Record → Record) : Entry Record
  | .string text, record => .ok (set text record)
  | _, _ => .error []

def naturalEntry {Record : Type} (limit : Nat) (set : Nat → Record → Record) : Entry Record :=
  fun value record =>
    match value.natural? limit with
    | some number => .ok (set number record)
    | none => .error []

def Server.entries : List (String × Entry Server) :=
  [("origin", textEntry fun origin server => { server with origin }),
    ("messages_path", textEntry fun messagesPath server => { server with messagesPath })]

def Stream.entries : List (String × Entry Stream) :=
  [("path", textEntry fun path stream => { stream with path }),
    ("initial_backoff_ms",
      naturalEntry (Nat.pow 2 64) fun initialBackoff stream =>
        { stream with initialBackoff }),
    ("max_backoff_ms",
      naturalEntry (Nat.pow 2 64) fun maxBackoff stream => { stream with maxBackoff }),
    ("max_reconnect_attempts",
      naturalEntry (Nat.pow 2 32) fun maxReconnectAttempts stream =>
        { stream with maxReconnectAttempts }),
    ("inactivity_timeout_secs",
      naturalEntry (Nat.pow 2 64) fun inactivitySeconds stream =>
        { stream with inactivitySeconds }),
    ("max_payload_bytes",
      naturalEntry (Nat.pow 2 64) fun maxPayload stream => { stream with maxPayload }),
    ("channel_capacity",
      naturalEntry (Nat.pow 2 64) fun channelCapacity stream => { stream with channelCapacity })]

def entries (surplus : Surplus) : List (String × Entry Settings) :=
  [("server", fun value settings => do
      let server ← readRecord surplus Server.entries value .standard
      .ok { settings with server }),
    ("stream", fun value settings => do
      let stream ← readRecord surplus Stream.entries value .standard
      .ok { settings with stream })]

def read (surplus : Surplus) (value : Json) : Except Place Settings :=
  readRecord surplus (entries surplus) value standard

def ofJson? (value : Json) : Option Settings := (read .refused value).toOption

def Server.toJson (server : Server) : Json :=
  .ofFields [("origin", .string server.origin), ("messages_path", .string server.messagesPath)]

def Stream.toJson (stream : Stream) : Json :=
  .ofFields [("path", .string stream.path), ("initial_backoff_ms", .integer stream.initialBackoff),
    ("max_backoff_ms", .integer stream.maxBackoff),
    ("max_reconnect_attempts", .integer stream.maxReconnectAttempts),
    ("inactivity_timeout_secs", .integer stream.inactivitySeconds),
    ("max_payload_bytes", .integer stream.maxPayload),
    ("channel_capacity", .integer stream.channelCapacity)]

def toJson (settings : Settings) : Json :=
  .ofFields [("server", settings.server.toJson), ("stream", settings.stream.toJson)]

end Settings

end LiveChat
