import LiveChat.Text.Quoted

/-!
Why a connection could not be made or was lost.
-/

set_option autoImplicit false

namespace LiveChat.Stream

inductive StreamError where
  | invalidEndpoint (path reason : String)
  | connect (text : String)
  | broken (text : String)
  | closed
  deriving DecidableEq, Repr

namespace StreamError

def code : StreamError → String
  | invalidEndpoint _ _ => "invalid_endpoint"
  | connect _ => "connect_failed"
  | broken _ => "stream_failed"
  | closed => "closed"

def message : StreamError → String
  | invalidEndpoint path reason =>
      "invalid stream endpoint " ++ Text.quoted path ++ ": " ++ reason
  | connect text => "connect failed: " ++ text
  | broken text => "stream failed: " ++ text
  | closed => "transport task has shut down"

/-- Whether another attempt may succeed. -/
def transient : StreamError → Bool
  | connect _ => true
  | broken _ => true
  | _ => false

end StreamError

end LiveChat.Stream
