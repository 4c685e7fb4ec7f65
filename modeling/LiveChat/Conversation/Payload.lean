import LiveChat.Conversation.Basic
import LiveChat.Stream.Payload

/-!
Payloads of the stream as actions on a conversation.
-/

set_option autoImplicit false

namespace LiveChat.Conversation

/-- Why a payload gives no action. -/
inductive Silence where
  | rejected (rejection : Stream.Rejection)
  | change
  | keepalive
  deriving DecidableEq, Repr

def Silence.label : Silence → String
  | rejected rejection => "drop " ++ rejection.label
  | change => "data_changed"
  | keepalive => "keepalive"

def Action.ofPayload (limit : Nat) (payload : String) : Except Silence Action :=
  match Stream.Event.parse limit payload with
  | .error rejection => .error (.rejected rejection)
  | .ok event =>
      match event.route with
      | .chat chat => .ok (.ofChat chat)
      | .change _ => .error .change
      | .keepalive => .error .keepalive

end LiveChat.Conversation
