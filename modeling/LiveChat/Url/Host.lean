import LiveChat.Text.Blank
import LiveChat.Url.Address
import LiveChat.Url.Domain
import LiveChat.Url.Percent

/-!
Hosts in URLs: a domain in ASCII, or a numeric address.
-/

set_option autoImplicit false

namespace LiveChat.Url

inductive Host where
  | domain (name : String)
  | dotted (address : Nat)
  | colons (groups : List Nat)
  deriving DecidableEq, Repr

/-- Why a text is no URL. -/
inductive Fault where
  | emptyHost
  | domain
  | port
  | dottedAddress
  | colonAddress
  | hostCharacter
  | relative
  | relativeToPlain
  deriving DecidableEq, Repr

def Fault.message : Fault → String
  | emptyHost => "empty host"
  | domain => "invalid international domain name"
  | port => "invalid port number"
  | dottedAddress => "invalid IPv4 address"
  | colonAddress => "invalid IPv6 address"
  | hostCharacter => "invalid domain character"
  | relative => "relative URL without a base"
  | relativeToPlain => "relative URL with a cannot-be-a-base base"

namespace Host

def render : Host → String
  | domain name => name
  | dotted address => renderDotted address
  | colons groups => "[" ++ renderColons groups ++ "]"

/-- What stands between brackets. -/
def ofBracketed (rest : List Char) : Except Fault Host :=
  if rest.getLast? = some ']' then
    match colons? rest.dropLast with
    | some groups => .ok (colons groups)
    | none => .error .colonAddress
  else .error .colonAddress

/-- The host of a server's address. -/
def parse (chars : List Char) : Except Fault Host :=
  match chars with
  | '[' :: rest => ofBracketed rest
  | _ =>
      match Text.Utf8.decode (Percent.decode (Text.Utf8.encode (String.ofList chars))) with
      | none => .error .domain
      | some text =>
          match Domain.toAscii? text.toList with
          | none => .error .domain
          | some [] => .error .emptyHost
          | some name =>
              if endsInNumber name then
                match dotted? name with
                | some address => .ok (dotted address)
                | none => .error .dottedAddress
              else .ok (domain (String.ofList name))

def isForbidden (char : Char) : Bool :=
  char ∈ ['\x00', '\t', '\n', '\r', ' ', '#', '/', ':', '<', '>', '?', '@', '[', '\\', ']', '^',
    '|']

/-- The host of a scheme that has rules of its own; it may be empty. -/
def parseForeign (chars : List Char) : Except Fault Host :=
  match chars with
  | '[' :: rest => ofBracketed rest
  | _ =>
      if chars.any isForbidden then .error .hostCharacter
      else .ok (domain (String.ofList (Percent.encode (fun _ => false) chars)))

end Host

end LiveChat.Url
