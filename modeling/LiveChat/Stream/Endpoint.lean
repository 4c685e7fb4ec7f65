import LiveChat.Stream.Error
import LiveChat.Text.Blank

/-!
Paths on the server that the client was configured for. A path starts with one slash and holds
neither a backslash nor a control character, so it never names another host.
-/

set_option autoImplicit false

namespace LiveChat.Stream

def Endpoint.fault? (path : List Char) : Option String :=
  match path with
  | '/' :: rest =>
      if rest.head? = some '/' then some "protocol-relative URLs leave the origin"
      else if '\\' ∈ path then some "backslashes are not allowed"
      else if path.any Text.isControl then some "control characters are not allowed"
      else none
  | _ => some "must be a relative path starting with '/'"

structure Endpoint where
  path : String
  faultless : Endpoint.fault? path.toList = none

namespace Endpoint

instance : BEq Endpoint := ⟨fun first second => first.path == second.path⟩

def parse (path : String) : Except StreamError Endpoint :=
  match found : fault? path.toList with
  | some reason => .error (.invalidEndpoint path reason)
  | none => .ok ⟨path, found⟩

def standard : Endpoint := ⟨"/api/chat/stream", by decide⟩

instance : Inhabited Endpoint := ⟨standard⟩

end Endpoint

end LiveChat.Stream
