import LiveChat.Url.Host

/-!
URLs in their normal form.
-/

set_option autoImplicit false

namespace LiveChat

/-- Who and where: the part of a URL between the slashes and the path. -/
structure Url.Authority where
  user : String
  password : String
  host : Url.Host
  /-- Absent where it is the one that the scheme implies. -/
  port : Option Nat
  deriving DecidableEq, Repr

/-- A path has segments, or is plain text that nothing can be relative to. -/
inductive Url.Path where
  | plain (text : String)
  | segments (names : List String)
  deriving DecidableEq, Repr

structure Url where
  scheme : String
  authority : Option Url.Authority
  path : Url.Path
  query : Option String
  fragment : Option String
  deriving DecidableEq, Repr

namespace Url

/-- The schemes of servers, with the ports that they imply. -/
def impliedPorts : List (String × Nat) :=
  [("http", 80), ("https", 443), ("ws", 80), ("wss", 443), ("ftp", 21)]

def isServer (scheme : String) : Bool := (impliedPorts.lookup scheme).isSome

/-- A backslash separates like a slash. -/
def isSpecial (scheme : String) : Bool := isServer scheme || scheme = "file"

def Authority.render (authority : Authority) : String :=
  let secret := if authority.password = "" then "" else ":" ++ authority.password
  let account := authority.user ++ secret
  let port := authority.port.map fun port => ":" ++ Nat.repr port
  (if account = "" then "" else account ++ "@") ++ authority.host.render ++ port.getD ""

def Path.render : Path → String
  | plain text => text
  | segments names => String.join (names.map ("/" ++ ·))

/-- A path that starts with two slashes would read as an authority where there is none. -/
def guarded (authority : Option Authority) (path : String) : String :=
  match authority with
  | some authority => "//" ++ authority.render ++ path
  | none => if path.startsWith "//" then "/." ++ path else path

def render (url : Url) : String :=
  url.scheme ++ ":" ++ guarded url.authority url.path.render
    ++ ((url.query.map ("?" ++ ·)).getD "") ++ ((url.fragment.map ("#" ++ ·)).getD "")

end Url

end LiveChat
