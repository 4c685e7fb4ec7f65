/-!
Why a request to the server or a call of the session failed.
-/

set_option autoImplicit false

namespace LiveChat.Session

inductive ServiceError where
  | status (number : Nat) (body : String)
  | rateLimited (retryAfter : Option Nat)
  | decode (text : String)
  | request (text : String)
  deriving DecidableEq, Repr

namespace ServiceError

def code : ServiceError → String
  | status _ _ => "http_status"
  | rateLimited _ => "rate_limited"
  | decode _ => "decode_failed"
  | request _ => "request_failed"

def secondsLabel : Option Nat → String
  | some seconds => "Some(" ++ Nat.repr seconds ++ ")"
  | none => "None"

def message : ServiceError → String
  | status number body => "server answered " ++ Nat.repr number ++ ": " ++ body
  | rateLimited retryAfter => "rate limited, retry after " ++ secondsLabel retryAfter ++ "s"
  | decode text => "could not decode response: " ++ text
  | request text => "request failed: " ++ text

end ServiceError

inductive SessionError where
  | closed
  | service (error : ServiceError)
  deriving DecidableEq, Repr

namespace SessionError

def code : SessionError → String
  | closed => "closed"
  | service error => error.code

def message : SessionError → String
  | closed => "session task has shut down"
  | service error => error.message

end SessionError

end LiveChat.Session
