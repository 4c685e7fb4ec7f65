import LiveChat.Conversation.Limits
import LiveChat.Http.Message
import LiveChat.Session.Error
import LiveChat.Stream.Backoff

/-!
Sending a request until it is answered. An answer that asks for patience is followed by a wait
and the same request again, three times at most; all else ends the exchange at once.
-/

set_option autoImplicit false

namespace LiveChat.Http

open Session (ServiceError)

def maxRetries : Nat := 3

def maxRetryAfter : Time.Duration := .ofSeconds 30

def maxErrorBody : Nat := 512

def tooManyRequests : Nat := 429

/-- A number of seconds, which may carry a plus sign. -/
def seconds? (text : String) : Option Nat := do
  let digits := match Text.trimChars text.toList with
    | '+' :: digits => digits
    | digits => digits
  if digits = [] ∨ !digits.all Json.isDigit then none
  let seconds := Json.valueOf (digits.map Json.digitValue)
  if seconds < Nat.pow 2 64 then some seconds else none

def Response.retryAfter? (response : Response) : Option Nat :=
  (response.header? "retry-after").bind seconds?

/-- The wait before the request is sent again, after this many retries. -/
def retryDelay (retries : Nat) (response : Response) : Time.Duration :=
  match response.retryAfter? with
  | some seconds => (Time.Duration.ofSeconds seconds).min maxRetryAfter
  | none => Stream.ReconnectPolicy.standard.nominal retries

/-- What is done about a reply. -/
inductive Verdict where
  | retry (delay : Time.Duration)
  | done (result : Except ServiceError Response)

def judge (retries : Nat) : Reply → Verdict
  | .failed text => .done (.error (.request text))
  | .answered response =>
      if response.status = tooManyRequests then
        if maxRetries ≤ retries then .done (.error (.rateLimited response.retryAfter?))
        else .retry (retryDelay retries response)
      else if response.isSuccess then .done (.ok response)
      else
        let body := Conversation.cutText maxErrorBody (response.text?.getD "")
        .done (.error (.status response.status body))

/-- A request with all that it led to. -/
structure Exchange where
  result : Except ServiceError Response
  /-- The waits between the requests; there is one request more. -/
  waits : List Time.Duration
  /-- The replies that were not asked for. -/
  rest : List Reply

/-- The exchange in which these replies come one after the other, and then none. -/
def exchange (silence : String) (retries : Nat) : List Reply → Exchange
  | [] => { result := .error (.request silence), waits := [], rest := [] }
  | reply :: rest =>
      match judge retries reply with
      | .done result => { result, waits := [], rest }
      | .retry delay =>
          let later := exchange silence (retries + 1) rest
          { later with waits := delay :: later.waits }

end LiveChat.Http
