import LiveChat.Http.ChatService
import LiveChat.Session.Basic

/-!
The service that takes messages and keeps the history, with answers laid down beforehand. It is
either near at hand or reached over HTTP. Near at hand, answers may be held back.
-/

set_option autoImplicit false

namespace LiveChat.Rehearsal

open Conversation (Action Submission)
open Session (ServiceError)

structure Service where
  /-- The resource of messages, if the service is reached over HTTP. -/
  remote : Option Url
  replies : List (Except ServiceError String)
  history : Except ServiceError (List Json)
  held : Bool
  /-- The messages that were handed in, newest first. -/
  submitted : List String
  responses : List Http.Reply
  requests : List Http.Request

/-- A submission on its way. -/
inductive Stage where
  | fresh
  | held (reply : Except ServiceError String)
  | waiting (retries due : Nat)
  | over

structure Job where
  submission : Submission
  stage : Stage

namespace Service

def new (remote : Option Url) : Service :=
  { remote, replies := [], history := .ok [], held := false, submitted := [], responses := []
    requests := [] }

def silence : String := "no scripted response left"

/-- Sends one request and judges what comes back. -/
def ask (service : Service) (messages : Url) (call : Http.ChatService.Call) (retries : Nat) :
    Http.Verdict × Service :=
  let request := Http.ChatService.request messages call
  (Http.judge retries (service.responses.headD (.failed silence)),
    { service with
      responses := service.responses.drop 1
      requests := service.requests ++ [request] })

/-- Hands in a message and takes the next answer. -/
def record (service : Service) (content : String) : Except ServiceError String × Service :=
  let submitted := content :: service.submitted
  match service.replies with
  | [] => (.ok ("srv-" ++ Nat.repr submitted.length), { service with submitted })
  | reply :: replies => (reply, { service with submitted, replies })

end Service

/-- A timer goes off at the first millisecond that is not before it. -/
def tick (nanoseconds : Nat) : Nat := (nanoseconds + 999999) / 1000000

def idOf (result : Except ServiceError Http.ChatService.Result) : Except ServiceError String :=
  result.bind fun
    | .messageId id => .ok id
    | .records _ => .ok ""

def recordsOf (result : Except ServiceError Http.ChatService.Result) :
    Except ServiceError (List Json) :=
  result.map fun
    | .messageId _ => []
    | .records records => records

/-- How a request over HTTP goes on: it waits, or it is done. -/
inductive Progress where
  | waiting (retries due : Nat)
  | done (result : Except ServiceError Http.ChatService.Result)

def Service.attempt (service : Service) (messages : Url) (now : Nat)
    (call : Http.ChatService.Call) (retries : Nat) : Progress × Service :=
  match service.ask messages call retries with
  | (.retry delay, service) => (.waiting (retries + 1) (now + tick delay.nanoseconds), service)
  | (.done result, service) => (.done (Http.ChatService.finish call result), service)

namespace Job

def outcome (job : Job) (result : Except ServiceError String) : Action :=
  Session.outcome job.submission result

/-- Sends the message over HTTP once. -/
def send (job : Job) (service : Service) (messages : Url) (now retries : Nat) :
    Job × Service × Option Action :=
  match service.attempt messages now (.submit job.submission.content) retries with
  | (.waiting retries due, service) =>
      ({ job with stage := .waiting retries due }, service, none)
  | (.done result, service) =>
      ({ job with stage := .over }, service, some (job.outcome (idOf result)))

/-- Gives the answer unless it is held back. -/
def answer (job : Job) (service : Service) (reply : Except ServiceError String) :
    Job × Service × Option Action :=
  if service.held then ({ job with stage := .held reply }, service, none)
  else ({ job with stage := .over }, service, some (job.outcome reply))

/-- Goes on as far as possible; the action is what the session hears of it. -/
def advance (job : Job) (service : Service) (now : Nat) : Job × Service × Option Action :=
  match job.stage, service.remote with
  | .over, _ => (job, service, none)
  | .fresh, some messages => job.send service messages now 0
  | .fresh, none =>
      let (reply, service) := service.record job.submission.content
      job.answer service reply
  | .held reply, _ => job.answer service reply
  | .waiting retries due, some messages =>
      if now < due then (job, service, none) else job.send service messages now retries
  | .waiting _ _, none => (job, service, none)

end Job

end LiveChat.Rehearsal
