import LiveChat.Json.Reader
import LiveChat.Text.Charset
import LiveChat.Url.Basic

/-!
Requests to a server over HTTP, and what comes back.
-/

set_option autoImplicit false

namespace LiveChat.Http

inductive Method where
  | get
  | post
  deriving DecidableEq, Repr

def Method.label : Method → String
  | get => "GET"
  | post => "POST"

structure Request where
  method : Method
  url : Url
  /-- The fields that are set beside those that every request carries. -/
  headers : List (String × String)
  body : Option Json
  deriving Repr

/-- A body arrives in parts; one that is broken does not end well. -/
structure Body where
  parts : List (List UInt8)
  broken : Bool
  deriving Repr

structure Response where
  status : Nat
  headers : List (String × String)
  body : Body
  deriving Repr

/-- What a request leads to. -/
inductive Reply where
  | failed (text : String)
  | answered (response : Response)
  deriving Repr

def decodeFailed : String := "error decoding response body"

/-- The reason phrases of the registered statuses. -/
def phrases : List (Nat × String) :=
  [(100, "Continue"), (101, "Switching Protocols"), (102, "Processing"), (103, "Early Hints"),
    (200, "OK"),
    (201, "Created"), (202, "Accepted"), (203, "Non Authoritative Information"),
    (204, "No Content"), (205, "Reset Content"), (206, "Partial Content"), (207, "Multi-Status"),
    (208, "Already Reported"), (226, "IM Used"), (300, "Multiple Choices"),
    (301, "Moved Permanently"), (302, "Found"), (303, "See Other"), (304, "Not Modified"),
    (305, "Use Proxy"), (307, "Temporary Redirect"), (308, "Permanent Redirect"),
    (400, "Bad Request"), (401, "Unauthorized"), (402, "Payment Required"), (403, "Forbidden"),
    (404, "Not Found"), (405, "Method Not Allowed"), (406, "Not Acceptable"),
    (407, "Proxy Authentication Required"), (408, "Request Timeout"), (409, "Conflict"),
    (410, "Gone"), (411, "Length Required"), (412, "Precondition Failed"),
    (413, "Payload Too Large"), (414, "URI Too Long"), (415, "Unsupported Media Type"),
    (416, "Range Not Satisfiable"), (417, "Expectation Failed"), (418, "I'm a teapot"),
    (421, "Misdirected Request"), (422, "Unprocessable Entity"), (423, "Locked"),
    (424, "Failed Dependency"), (425, "Too Early"), (426, "Upgrade Required"),
    (428, "Precondition Required"), (429, "Too Many Requests"),
    (431, "Request Header Fields Too Large"), (451, "Unavailable For Legal Reasons"),
    (500, "Internal Server Error"), (501, "Not Implemented"), (502, "Bad Gateway"),
    (503, "Service Unavailable"), (504, "Gateway Timeout"), (505, "HTTP Version Not Supported"),
    (506, "Variant Also Negotiates"), (507, "Insufficient Storage"), (508, "Loop Detected"),
    (510, "Not Extended"), (511, "Network Authentication Required")]

namespace Response

def isSuccess (response : Response) : Bool := 200 ≤ response.status && response.status < 300

def statusLine (response : Response) : String :=
  Nat.repr response.status ++ " "
    ++ (phrases.lookup response.status).getD "<unknown status code>"

def lower (text : String) : String := String.ofList (text.toList.map Char.toLower)

/-- The first field of this name, which is given in lower case, if it is readable text. -/
def header? (name : String) (response : Response) : Option String := do
  let (_, value) ← response.headers.find? fun (other, _) => lower other = name
  if value.toList.all fun char => char = '\t' || (0x20 ≤ char.toNat && char.toNat < 0x7F) then
    some value
  else none

def octets? (response : Response) : Option (List UInt8) :=
  if response.body.broken then none else some response.body.parts.flatten

def json? (response : Response) : Option Json := do
  Json.parse (← Text.Utf8.decode (← response.octets?))

def isTokenChar (char : Char) : Bool :=
  Json.isDigit char || char.isAlpha ||
    char ∈ ['!', '#', '$', '%', '&', '\'', '*', '+', '-', '.', '^', '_', '\x60', '|', '~']

def isQuotable (char : Char) : Bool := 0x1F < char.toNat && char.toNat ≠ 0x7F

/-- What follows a quoted value: blanks, and a semicolon unless it is the last one. -/
def afterQuoted? (input : List Char) : Option (List Char) :=
  match input.dropWhile (· = ' ') with
  | [] => some []
  | ';' :: rest => some rest
  | _ => none

/-- The value of a parameter, and what follows its semicolon. A quoted value is not empty. -/
def parameterValue? (input : List Char) : Option (List Char × List Char) :=
  match input with
  | '"' :: first :: more =>
      let value := first :: more.takeWhile (· ≠ '"')
      match more.dropWhile (· ≠ '"') with
      | _ :: rest =>
          if value.all isQuotable then (afterQuoted? rest).map fun rest => (value, rest) else none
      | [] => none
  | _ =>
      let value := input.takeWhile isTokenChar
      match input.dropWhile isTokenChar with
      | [] => some (value, [])
      | ';' :: rest => if value = [] then none else some (value, rest)
      | _ => none

/-- The parameters of a media type, each a name with a value. -/
def parameters? : Nat → List Char → Option (List (String × String))
  | 0, _ => none
  | fuel + 1, input =>
      match input.dropWhile (· = ' ') with
      | [] => some []
      | input => do
          let name := input.takeWhile isTokenChar
          let '=' :: rest := input.dropWhile isTokenChar | none
          if name = [] then none
          let (value, rest) ← parameterValue? rest
          let others ← parameters? fuel rest
          some ((lower (String.ofList name), String.ofList value) :: others)

/-- The parameters behind the two names of a media type, if all of it is well formed. -/
def mediaParameters? (kind : String) : Option (List (String × String)) := do
  let chars := kind.toList
  let '/' :: rest := chars.dropWhile isTokenChar | none
  if (chars.takeWhile isTokenChar).isEmpty then none
  match rest.dropWhile isTokenChar with
  | [] => some []
  | ';' :: parameters =>
      if (rest.takeWhile isTokenChar).isEmpty then none
      else parameters? (parameters.length + 1) parameters
  | _ => none

/-- The character set of the body: UTF-8 unless the type of the content names a known one. -/
def charset (response : Response) : Text.Charset :=
  let named := do
    let kind ← response.header? "content-type"
    let parameters ← mediaParameters? kind
    Text.Charset.ofName? (← parameters.lookup "charset")
  named.getD .utf8

def text? (response : Response) : Option String :=
  response.octets?.map fun octets => Text.Charset.decodeMarked octets response.charset

end Response

end LiveChat.Http
