import LiveChat.Url.Basic

/-!
Reading URLs, alone or relative to another one. What is read is in normal form: dot segments
are resolved, the scheme and the domain are in lower case, implied ports are left out, and what
cannot stand in a part is percent encoded.
-/

set_option autoImplicit false

namespace LiveChat.Url

/-- Blanks and controls around a URL do not count, nor do tabs and line ends within it. -/
def significant (text : String) : List Char :=
  let outer := fun (char : Char) => char.toNat ≤ 0x20
  let trimmed := ((text.toList.dropWhile outer).reverse.dropWhile outer).reverse
  trimmed.filter fun char => char ≠ '\t' && char ≠ '\n' && char ≠ '\r'

def isSchemeChar (char : Char) : Bool :=
  Json.isDigit char || char.isAlpha || char ∈ ['+', '-', '.']

/-- The scheme in lower case and what follows its colon. -/
def scheme? (chars : List Char) : Option (String × List Char) :=
  match chars with
  | [] => none
  | first :: _ =>
      if first.isAlpha then
        match chars.dropWhile isSchemeChar with
        | ':' :: rest =>
            some (String.ofList ((chars.takeWhile isSchemeChar).map Char.toLower), rest)
        | _ => none
      else none

def isSlash (special : Bool) (char : Char) : Bool := char = '/' || (special && char = '\\')

def endsAuthority (special : Bool) (char : Char) : Bool :=
  isSlash special char || char = '?' || char = '#'

/-- The query and the fragment, from where the path ends. -/
def queryAndFragment (scheme : String) (chars : List Char) : Option String × Option String :=
  let body := chars.takeWhile (· ≠ '#')
  let reserved := if isSpecial scheme then Percent.inSpecialQuery else Percent.inQuery
  let query := match body with
    | '?' :: query => some (String.ofList (Percent.encode reserved query))
    | _ => none
  let fragment := match chars.dropWhile (· ≠ '#') with
    | '#' :: fragment => some (String.ofList (Percent.encode Percent.inFragment fragment))
    | _ => none
  (query, fragment)

def lowerText (chars : List Char) : String := String.ofList (chars.map Char.toLower)

def isSingleDot (segment : List Char) : Bool := lowerText segment ∈ [".", "%2e"]

def isDoubleDot (segment : List Char) : Bool :=
  lowerText segment ∈ ["..", ".%2e", "%2e.", "%2e%2e"]

/-- A letter and a colon, or a bar in its place: the name of a drive. -/
def isDrive : List Char → Bool
  | [letter, mark] => letter.isAlpha && (mark = ':' || mark = '|')
  | _ => false

/-- Without the last segment, which stays if it names a drive. -/
def shorten : List String → List String
  | name :: kept => if isDrive name.toList then name :: kept else kept
  | [] => []

/-- A segment as it is written; a drive at the start of a file's path has a colon. -/
def segmentText (drive : Bool) (segment : List Char) : String :=
  if drive && isDrive segment then String.ofList (segment.take 1 ++ [':'])
  else String.ofList (Percent.encode Percent.inPath segment)

/-- Resolves dot segments; `kept` holds the segments so far, the last one first. -/
def resolve (file : Bool) (kept : List String) : List (List Char) → List String
  | [] => kept.reverse
  | [last] =>
      if isDoubleDot last then ("" :: shorten kept).reverse
      else if isSingleDot last then ("" :: kept).reverse
      else (segmentText (file && kept.isEmpty) last :: kept).reverse
  | segment :: rest =>
      if isDoubleDot segment then resolve file (shorten kept) rest
      else if isSingleDot segment then resolve file kept rest
      else resolve file (segmentText (file && kept.isEmpty) segment :: kept) rest

/-- No empty segment stands before a name. -/
def withoutGap (names : List String) : List String :=
  match names.dropWhile (· = "") with
  | [] => [""]
  | names => names

/-- Segments that follow the kept ones, the query and the fragment. -/
def withSegments (scheme : String) (authority : Option Authority) (kept : List String)
    (chars : List Char) : Url :=
  let inPath := fun (char : Char) => char ≠ '?' && char ≠ '#'
  let segments := pieces (isSlash (isSpecial scheme)) (chars.takeWhile inPath)
  let names := resolve (scheme = "file") kept segments
  let names := if scheme = "file" then withoutGap names else names
  let (query, fragment) := queryAndFragment scheme (chars.dropWhile inPath)
  { scheme, authority, path := .segments names, query, fragment }

/-- The path after an authority; it is never empty where a backslash separates. -/
def afterAuthority (scheme : String) (authority : Authority) (chars : List Char) : Url :=
  match chars with
  | [] =>
      { scheme, authority, path := .segments (if isSpecial scheme then [""] else [])
        query := none, fragment := none }
  | first :: rest =>
      if isSlash (isSpecial scheme) first then withSegments scheme (some authority) [] rest
      else if !isSpecial scheme && (first = '?' || first = '#') then
        let (query, fragment) := queryAndFragment scheme chars
        { scheme, authority, path := .segments [], query, fragment }
      else withSegments scheme (some authority) [] chars

structure Account where
  user : String
  password : String

/-- The account that the last at sign ends, and what follows it. -/
def account (special : Bool) (chars : List Char) : Except Fault (Account × List Char) :=
  let area := chars.takeWhile fun char => !endsAuthority special char
  if '@' ∈ area then
    let host := (area.reverse.takeWhile (· ≠ '@')).reverse
    let given := area.take (area.length - host.length - 1)
    let rest := chars.drop (given.length + 1)
    let hostless := (rest.head?.map (endsAuthority special)).getD false
    if given = [] ∧ hostless then .error .emptyHost
    else
      let encoded := fun part => String.ofList (Percent.encode Percent.inUserinfo part)
      let user := given.takeWhile (· ≠ ':')
      let password := (given.dropWhile (· ≠ ':')).drop 1
      .ok ({ user := encoded user, password := encoded password }, rest)
  else .ok (⟨"", ""⟩, chars)

/-- The text of the host; a colon within brackets belongs to it. -/
def hostText (special : Bool) (bracketed : Bool) : List Char → List Char
  | [] => []
  | char :: rest =>
      if endsAuthority special char || (char = ':' && !bracketed) then []
      else if char = '[' then char :: hostText special true rest
      else if char = ']' then char :: hostText special false rest
      else char :: hostText special bracketed rest

def maxPort : Nat := 65535

/-- The port, unless the scheme implies it, and what follows. -/
def port (scheme : String) (chars : List Char) : Except Fault (Option Nat × List Char) :=
  let digits := chars.takeWhile Json.isDigit
  let rest := chars.dropWhile Json.isDigit
  let number := (numeral? 10 digits).getD 0
  let ends := match rest.head? with
    | none => true
    | some char => endsAuthority true char
  if maxPort < number || !ends then .error .port
  else if digits = [] || impliedPorts.lookup scheme = some number then .ok (none, rest)
  else .ok (some number, rest)

/-- A URL of which the two slashes before the authority were read. -/
def ofAuthority (scheme : String) (chars : List Char) : Except Fault Url := do
  let special := isSpecial scheme
  let (account, chars) ← account special chars
  let text := hostText special false chars
  let rest := chars.drop text.length
  if text = [] ∧ (special ∨ rest.head? = some ':') then throw .emptyHost
  let host ← if special then Host.parse text else Host.parseForeign text
  let (port, rest) ← match rest with
    | ':' :: rest => port scheme rest
    | _ => pure (none, rest)
  if text = [] ∧ (account.user ≠ "" ∨ account.password ≠ "") then throw .emptyHost
  let { user, password } := account
  pure (afterAuthority scheme { user, password, host, port } rest)

/-- The base with another query or fragment, if the reference has no path. -/
def beside? (base : Url) (chars : List Char) : Option Url :=
  match chars.head? with
  | none => some { base with fragment := none }
  | some '#' => some { base with fragment := (queryAndFragment base.scheme chars).2 }
  | some '?' =>
      let (query, fragment) := queryAndFragment base.scheme chars
      some { base with query, fragment }
  | _ => none

/-- The text starts with the name of a drive that a separator or the end follows. -/
def startsWithDrive (chars : List Char) : Bool :=
  isDrive (chars.take 2) && ((chars.drop 2).head?.map (endsAuthority true)).getD true

/-- The first segment of a path, if it names a drive with a colon. -/
def Path.drive? : Path → Option String
  | .segments (name :: _) => if isDrive name.toList && name.endsWith ":" then some name else none
  | _ => none

def nowhere : Authority := { user := "", password := "", host := .domain "", port := none }

/-- A file on the host that is named; where its path starts with a drive the host is left out. -/
def ofFileHost (chars : List Char) : Except Fault Url := do
  let text := chars.takeWhile fun char => !endsAuthority true char
  if text = [] || isDrive text then return withSegments "file" nowhere [] chars
  let host ← Host.parse text
  let rest := chars.drop text.length
  if host = .domain "localhost" then return withSegments "file" nowhere [] rest
  let url := afterAuthority "file" { nowhere with host } rest
  return if url.path.drive?.isSome then { url with authority := some nowhere } else url

/-- A file whose path starts at the root: on the drive or the host of the base. -/
def ofFileRoot (base : Option Url) (rest : List Char) : Url :=
  match base with
  | some { path, authority, .. } =>
      if startsWithDrive rest then withSegments "file" nowhere [] rest
      else match path.drive? with
        | some drive => withSegments "file" nowhere [drive] rest
        | none => withSegments "file" authority [] rest
  | none => withSegments "file" nowhere [] rest

/-- A file whose path continues that of the base, of which a drive in the last place stays. -/
def ofFileName (base : Option Url) (chars : List Char) : Url :=
  match base with
  | some { path := .segments names, authority, .. } =>
      if startsWithDrive chars then withSegments "file" nowhere [] chars
      else
        let last := (names.getLast?.getD "").toList
        let start := if isDrive last && last.getLast? = some ':' then last else []
        withSegments "file" authority names.dropLast.reverse (start ++ chars)
  | _ => withSegments "file" nowhere [] chars

/-- A file, seen from the base if that is a file too. -/
def ofFile (base : Option Url) (chars : List Char) : Except Fault Url :=
  match chars.span (isSlash true), base.bind (beside? · chars) with
  | ([], _), some url => .ok url
  | ([], _), none => .ok (ofFileName base chars)
  | ([_], rest), _ => .ok (ofFileRoot base rest)
  | (_, _), _ => ofFileHost (chars.drop 2)

/-- A URL of a scheme with rules of its own. -/
def ofForeign (scheme : String) (chars : List Char) : Except Fault Url :=
  match chars with
  | '/' :: '/' :: rest => ofAuthority scheme rest
  | '/' :: rest => .ok (withSegments scheme none [] rest)
  | _ =>
      let inPath := fun (char : Char) => char ≠ '?' && char ≠ '#'
      let text := Percent.encode (fun _ => false) (chars.takeWhile inPath)
      let (query, fragment) := queryAndFragment scheme (chars.dropWhile inPath)
      .ok { scheme, authority := none, path := .plain (String.ofList text), query, fragment }

def ofScheme (scheme : String) (chars : List Char) : Except Fault Url :=
  if scheme = "file" then ofFile none chars
  else if isServer scheme then ofAuthority scheme (chars.dropWhile (isSlash true))
  else ofForeign scheme chars

def parse (text : String) : Except Fault Url :=
  match scheme? (significant text) with
  | some (scheme, rest) => ofScheme scheme rest
  | none => .error .relative

/-- A reference without a scheme, taken relative to a URL whose path has these segments. -/
def relative (base : Url) (names : List String) (chars : List Char) : Except Fault Url :=
  match chars.span (isSlash true), beside? base chars with
  | ([], _), some url => .ok url
  | ([], _), none =>
      .ok (withSegments base.scheme base.authority names.dropLast.reverse chars)
  | ([_], rest), _ => .ok (withSegments base.scheme base.authority [] rest)
  | (_, rest), _ =>
      ofAuthority base.scheme (match chars with
        | '/' :: '/' :: rest => rest
        | _ => rest)

/-- The URL that a reference names, seen from the base. -/
def join (base : Url) (reference : String) : Except Fault Url :=
  let chars := significant reference
  match scheme? chars, base.path with
  | some (scheme, rest), .segments names =>
      let slashes := rest.takeWhile (isSlash true)
      if scheme = base.scheme && scheme = "file" then ofFile (some base) rest
      else if scheme = base.scheme && isServer scheme && slashes.length < 2 then
        relative base names rest
      else ofScheme scheme rest
  | some (scheme, rest), .plain _ => ofScheme scheme rest
  | none, .segments names =>
      if base.scheme = "file" then ofFile (some base) chars else relative base names chars
  | none, .plain _ =>
      if chars.head? = some '#' then
        .ok { base with fragment := (queryAndFragment base.scheme chars).2 }
      else .error .relativeToPlain

end LiveChat.Url
