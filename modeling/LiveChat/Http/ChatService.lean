import LiveChat.Http.Retry
import LiveChat.Json.Printer
import LiveChat.Url.Parser

/-!
The server's resource of chat messages: a message is posted to it, and the records of the
conversation are read from it.
-/

set_option autoImplicit false

namespace LiveChat.Http.ChatService

open Session (ServiceError)

inductive Call where
  | submit (content : String)
  | history
  deriving DecidableEq, Repr

/-- The identifier of a message, or the records. -/
inductive Result where
  | messageId (id : String)
  | records (records : List Json)

def request (messages : Url) : Call → Request
  | .submit content =>
      { method := .post, url := messages, headers := []
        body := some (.ofFields [("content", .string content)]) }
  | .history => { method := .get, url := messages, headers := [], body := none }

def idOfField? : Json → Option String
  | .string id => if id = "" then none else some id
  | .integer id => some (String.ofList (Json.integerChars id))
  | _ => none

/-- The identifier that the server gave to a message. -/
def messageId (value : Json) : Except ServiceError String :=
  match ["id", "message_id"].findSome? fun key => (value.field? key).bind idOfField? with
  | some id => .ok id
  | none => .error (.decode "response carries no message id")

/-- The records are a list, or stand in an object under `messages`. -/
def records : Json → Except ServiceError (List Json)
  | .array records => .ok records
  | .object fields =>
      match Json.Fields.get? fields "messages" with
      | some (.array records) => .ok records
      | _ => .error (.decode "history object has no messages array")
  | _ => .error (.decode "history is not an array")

def read (call : Call) (response : Response) : Except ServiceError Result :=
  match response.json? with
  | none => .error (.decode decodeFailed)
  | some value =>
      match call with
      | .submit _ => (messageId value).map .messageId
      | .history => (records value).map .records

/-- What a call gives after its exchange. -/
def finish (call : Call) (result : Except ServiceError Response) : Except ServiceError Result :=
  result.bind (read call)

end LiveChat.Http.ChatService
