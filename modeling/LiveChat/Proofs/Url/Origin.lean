import LiveChat.Http.ChatService
import LiveChat.Http.EventSource
import LiveChat.Settings.Client
import Mathlib.Data.List.DropRight
import Mathlib.Data.List.TakeDrop

/-!
A path that was checked never leaves the server. Its first slash is followed by none, nor by a
backslash, also once blanks and controls are dropped, so it is read as a path and the authority of
the base stays. Dot segments, percent signs, at signs and colons behind it belong to the path.
-/

set_option autoImplicit false

namespace LiveChat

/-- Scheme, host and port. A port that the scheme implies is left out of both. -/
def Url.origin (url : Url) : String × Option (Url.Host × Option Nat) :=
  (url.scheme, url.authority.map fun authority => (authority.host, authority.port))

namespace Url

/-! What is read of a reference that starts with a slash. -/

def isOuter (char : Char) : Bool := char.toNat ≤ 0x20

def isInner (char : Char) : Bool := char ≠ '\t' && char ≠ '\n' && char ≠ '\r'

theorem significant_eq (text : String) :
    significant text =
      (List.rdropWhile isOuter (text.toList.dropWhile isOuter)).filter isInner := rfl

theorem inner_of_plain {char : Char} (plain : Text.isControl char = false) :
    isInner char = true := by
  have printed : 0x20 ≤ char.toNat := by
    simp only [Text.isControl, Bool.or_eq_false_iff, decide_eq_false_iff_not] at plain
    omega
  have other : ∀ control : Char, control.toNat < 0x20 → char ≠ control := by
    rintro control low rfl
    omega
  simp [isInner, other '\t' (by decide), other '\n' (by decide), other '\r' (by decide)]

/-- Where no character is a control, only blanks at the end are dropped. -/
theorem significant_rooted {text : String} {rest : List Char} (rooted : text.toList = '/' :: rest)
    (plain : ∀ char ∈ '/' :: rest, Text.isControl char = false) :
    ∃ tail, significant text = '/' :: tail ∧ tail <+: rest := by
  have front : text.toList.dropWhile isOuter = '/' :: rest := by
    rw [rooted]
    rfl
  have start := List.rdropWhile_prefix isOuter ('/' :: rest)
  have whole : (List.rdropWhile isOuter ('/' :: rest)).filter isInner =
      List.rdropWhile isOuter ('/' :: rest) :=
    List.filter_eq_self.mpr fun char member => inner_of_plain (plain char (start.subset member))
  rw [significant_eq, front, whole]
  rcases List.prefix_cons_iff.mp start with empty | ⟨tail, same, before⟩
  · have outer := List.rdropWhile_eq_nil_iff.mp empty '/' List.mem_cons_self
    cases outer
  · exact ⟨tail, same, before⟩

/-- What an endpoint's path comes to: a slash, and then no separator. -/
theorem significant_endpoint (endpoint : Stream.Endpoint) :
    ∃ tail, significant endpoint.path = '/' :: tail ∧
      ∀ char ∈ tail.head?, isSlash true char = false := by
  obtain ⟨path, faultless⟩ := endpoint
  unfold Stream.Endpoint.fault? at faultless
  split at faultless
  · next rest rooted =>
    split at faultless
    · cases faultless
    · next single =>
      split at faultless
      · cases faultless
      · next forward =>
        split at faultless
        · cases faultless
        · next plain =>
          rw [rooted] at forward plain
          obtain ⟨tail, read, before⟩ := significant_rooted rooted (by simpa using plain)
          refine ⟨tail, read, ?_⟩
          intro char first
          -- The first character behind the slash is the one that was checked.
          have stood : rest.head? = some char := by
            obtain ⟨later, rfl⟩ := List.head?_eq_some_iff.mp first
            obtain ⟨more, rfl⟩ := before
            rfl
          have noSlash : char ≠ '/' := by
            rintro rfl
            exact single stood
          have noBackslash : char ≠ '\\' := by
            rintro rfl
            exact forward (List.mem_cons_of_mem _ (List.mem_of_mem_head? stood))
          simp [isSlash, noSlash, noBackslash]
  · cases faultless

/-! Where such a reference leads. -/

/-- A single slash in front keeps the authority, whatever follows. -/
theorem join_rooted {base : Url} {names : List String} {reference : String} {tail : List Char}
    (listed : base.path = .segments names) (server : base.scheme ≠ "file")
    (read : significant reference = '/' :: tail)
    (single : ∀ char ∈ tail.head?, isSlash true char = false) :
    base.join reference = .ok (withSegments base.scheme base.authority [] tail) := by
  have cut : ('/' :: tail).span (isSlash true) = (['/'], tail) := by
    have stops : tail.takeWhile (isSlash true) = [] ∧ tail.dropWhile (isSlash true) = tail := by
      cases tail with
      | nil => exact ⟨rfl, rfl⟩
      | cons char rest =>
          have other := single char rfl
          simp [other]
    rw [List.span_eq_takeWhile_dropWhile]
    simp [isSlash, stops.1, stops.2]
  have schemeless : scheme? ('/' :: tail) = none := rfl
  simp only [join, read, schemeless, listed, if_neg server, relative, cut]

/-- A path has a segment, be it an empty one. -/
theorem resolve_ne_nil (file : Bool) (kept : List String) {segments : List (List Char)}
    (given : segments ≠ []) : resolve file kept segments ≠ [] := by
  induction segments generalizing kept with
  | nil => exact absurd rfl given
  | cons segment rest induction =>
      cases rest with
      | nil =>
          unfold resolve
          split
          · simp
          · split <;> simp
      | cons next later =>
          unfold resolve
          split
          · exact induction _ (List.cons_ne_nil _ _)
          · split
            · exact induction _ (List.cons_ne_nil _ _)
            · exact induction _ (List.cons_ne_nil _ _)

theorem pieces_ne_nil (separator : Char → Bool) (chars : List Char) :
    pieces separator chars ≠ [] := by
  simp [pieces]

theorem with_segments_path {scheme : String} (server : scheme ≠ "file")
    (authority : Option Authority) (chars : List Char) :
    ∃ name names, (withSegments scheme authority [] chars).path = .segments (name :: names) := by
  have given := resolve_ne_nil false [] (pieces_ne_nil (isSlash (isSpecial scheme))
    (chars.takeWhile fun char => char ≠ '?' && char ≠ '#'))
  obtain ⟨name, names, same⟩ := List.exists_cons_of_ne_nil given
  refine ⟨name, names, ?_⟩
  simp only [withSegments, server, decide_false, if_false, same]

/-- What is sent starts with the address of the server and a slash. -/
theorem render_with_segments {scheme : String} (server : scheme ≠ "file") (authority : Authority)
    (chars : List Char) :
    ∃ rest, (withSegments scheme (some authority) [] chars).render =
      scheme ++ "://" ++ authority.render ++ "/" ++ rest := by
  obtain ⟨name, names, listed⟩ := with_segments_path server (some authority) chars
  have schemes : (withSegments scheme (some authority) [] chars).scheme = scheme := rfl
  have authorities : (withSegments scheme (some authority) [] chars).authority = some authority :=
    rfl
  simp only [render, listed, schemes, authorities, guarded, Path.render, List.map_cons,
    String.join_cons]
  generalize String.join (names.map ("/" ++ ·)) = later
  generalize (Option.map ("?" ++ ·) _).getD "" = query
  generalize (Option.map ("#" ++ ·) _).getD "" = fragment
  refine ⟨name ++ later ++ query ++ fragment, ?_⟩
  have slashes : "://" = ":" ++ "//" := rfl
  simp only [slashes, String.append_assoc]

/-! The address of a server. -/

/-- Whatever URL comes of it has a path of segments. -/
def Listed (result : Except Fault Url) : Prop :=
  ∀ url, result = .ok url → ∃ names, url.path = .segments names

theorem listed_ok {url : Url} {names : List String} (listed : url.path = .segments names) :
    Listed (.ok url) := by
  rintro _ ⟨⟩
  exact ⟨names, listed⟩

theorem listed_bind {Value : Type} (first : Except Fault Value) {next : Value → Except Fault Url}
    (each : ∀ value, Listed (next value)) : Listed (first >>= next) := by
  cases first with
  | error fault => exact nofun
  | ok value => exact each value

theorem after_authority_listed (scheme : String) (authority : Authority) (chars : List Char) :
    Listed (.ok (afterAuthority scheme authority chars)) := by
  unfold afterAuthority
  split
  · exact listed_ok rfl
  · split
    · exact listed_ok rfl
    · split
      · exact listed_ok rfl
      · exact listed_ok rfl

theorem of_authority_listed (scheme : String) (chars : List Char) :
    Listed (ofAuthority scheme chars) := by
  have hosted : ∀ (hostless : Prop) [Decidable hostless] (authority : Authority) (rest : List Char),
      Listed (if hostless then (throw Fault.emptyHost : Except Fault Unit) >>= fun _ =>
          pure (afterAuthority scheme authority rest)
        else pure (afterAuthority scheme authority rest)) := by
    intro hostless _ authority rest
    split
    · exact nofun
    · exact after_authority_listed scheme authority rest
  refine listed_bind _ fun ⟨account, chars⟩ => ?_
  simp only
  split
  · exact nofun
  · split
    · refine listed_bind _ fun host => ?_
      split
      · exact listed_bind _ fun ⟨port, rest⟩ => hosted _ _ _
      · exact listed_bind _ fun ⟨port, rest⟩ => hosted _ _ _
    · refine listed_bind _ fun host => ?_
      split
      · exact listed_bind _ fun ⟨port, rest⟩ => hosted _ _ _
      · exact listed_bind _ fun ⟨port, rest⟩ => hosted _ _ _

theorem of_file_host_listed (chars : List Char) : Listed (ofFileHost chars) := by
  unfold ofFileHost
  dsimp only
  split
  · exact listed_ok rfl
  · refine listed_bind _ fun host => ?_
    split
    · exact listed_ok rfl
    · let rest := chars.drop (chars.takeWhile fun char => !endsAuthority true char).length
      obtain ⟨names, listed⟩ := after_authority_listed "file" { nowhere with host } rest _ rfl
      refine @listed_ok _ names ?_
      split
      · exact listed
      · exact listed

theorem of_file_listed (chars : List Char) : Listed (ofFile none chars) := by
  unfold ofFile
  obtain ⟨slashes, rest⟩ := chars.span (isSlash true)
  match slashes with
  | [] => exact listed_ok rfl
  | [_] => exact listed_ok rfl
  | _ :: _ :: _ => exact of_file_host_listed _

/-- The address of a server has a path of segments. -/
theorem parse_listed {text : String} {url : Url} (read : parse text = .ok url)
    (server : isServer url.scheme = true) : ∃ names, url.path = .segments names := by
  unfold parse at read
  split at read
  · next scheme chars _ =>
    unfold ofScheme at read
    split at read
    · exact of_file_listed _ _ read
    · split at read
      · exact of_authority_listed _ _ _ read
      · next foreign =>
        unfold ofForeign at read
        split at read
        · exact of_authority_listed _ _ _ read
        · cases read
          exact ⟨_, rfl⟩
        · cases read
          exact absurd server foreign
  · cases read

end Url

namespace ClientSettings

/-- An origin is the address of a server. -/
theorem read_origin_server {text : String} {origin : Url} (read : readOrigin text = .ok origin) :
    (origin.scheme = "http" ∨ origin.scheme = "https") ∧
      (∃ authority, origin.authority = some authority) ∧
      ∃ names, origin.path = .segments names := by
  unfold readOrigin at read
  cases parsed : Url.parse text with
  | error fault =>
      rw [parsed] at read
      cases read
  | ok url =>
      rw [parsed] at read
      simp only [Except.mapError, bind, Except.bind] at read
      split at read
      · cases read
      · next scheme =>
        split at read
        · cases read
        · next hosted =>
          split at read
          · cases read
          · cases read
            have schemes : origin.scheme = "http" ∨ origin.scheme = "https" :=
              or_iff_not_imp_left.mpr (by simpa using scheme)
            have server : Url.isServer origin.scheme = true := by
              rcases schemes with http | https
              · rw [http]
                decide
              · rw [https]
                decide
            have address : origin.authority ≠ none := by simpa using hosted
            exact ⟨schemes, Option.ne_none_iff_exists'.mp address, Url.parse_listed parsed server⟩

/-- Seen from the origin, the path of an endpoint names a resource of the same server. -/
theorem join_endpoint {text : String} {origin : Url} (endpoint : Stream.Endpoint)
    (read : readOrigin text = .ok origin) :
    ∃ url, origin.join endpoint.path = .ok url ∧ url.origin = origin.origin ∧
      ∃ authority rest, origin.authority = some authority ∧
        url.render = origin.scheme ++ "://" ++ authority.render ++ "/" ++ rest := by
  obtain ⟨schemes, ⟨authority, hosted⟩, names, listed⟩ := read_origin_server read
  have server : origin.scheme ≠ "file" := by
    rcases schemes with http | https
    · rw [http]
      decide
    · rw [https]
      decide
  obtain ⟨tail, significant, single⟩ := Url.significant_endpoint endpoint
  obtain ⟨rest, sent⟩ := Url.render_with_segments server authority tail
  refine ⟨_, Url.join_rooted listed server significant single, rfl, authority, rest, hosted, ?_⟩
  rw [hosted]
  exact sent

/-- A path is accepted as it is, or not at all. -/
theorem endpoint_parsed_iff (path : String) (endpoint : Stream.Endpoint) :
    Stream.Endpoint.parse path = .ok endpoint ↔ endpoint.path = path := by
  obtain ⟨accepted, faultless⟩ := endpoint
  unfold Stream.Endpoint.parse
  constructor
  · intro checked
    split at checked
    · cases checked
    · cases checked
      rfl
  · rintro rfl
    split
    · next found =>
      rw [faultless] at found
      cases found
    · rfl

/-- An origin and a path that were both accepted give the address of a resource on the server of
the origin: scheme, host and port are the same, and what is sent starts with them. So the stream is
opened there, and messages are posted and read there. -/
theorem accepted_same_origin {text path : String} {origin : Url} {endpoint : Stream.Endpoint}
    (read : readOrigin text = .ok origin)
    (checked : Stream.Endpoint.parse path = .ok endpoint) :
    ∃ url, origin.join path = .ok url ∧ url.origin = origin.origin ∧
      (∃ authority rest, origin.authority = some authority ∧
        url.render = origin.scheme ++ "://" ++ authority.render ++ "/" ++ rest) ∧
      (∃ request, Http.EventSource.request origin endpoint = .ok request ∧
        request.url.origin = origin.origin) ∧
      ∀ call, (Http.ChatService.request url call).url.origin = origin.origin := by
  obtain ⟨url, joined, same, address⟩ := join_endpoint endpoint read
  have opened : ∃ request, Http.EventSource.request origin endpoint = .ok request ∧
      request.url.origin = origin.origin := by
    simp only [Http.EventSource.request, joined]
    exact ⟨_, rfl, same⟩
  rw [(endpoint_parsed_iff path endpoint).mp checked] at joined
  refine ⟨url, joined, same, address, opened, ?_⟩
  intro call
  cases call with
  | submit content => exact same
  | history => exact same

/-- A path that looks like another server's address from its second slash on. -/
def disguised : Stream.Endpoint := ⟨"/.//@evil.example:1/%2E%2e/..?//evil.example#@", rfl⟩

def loopback : Url :=
  { scheme := "http"
    authority := some
      { user := "", password := "", host := .colons [0, 0, 0, 0, 0, 0, 0, 1], port := some 8000 }
    path := .segments [""], query := none, fragment := none }

theorem disguised_same_origin :
    readOrigin "http://[::1]:8000" = .ok loopback ∧
      Stream.Endpoint.parse disguised.path = .ok disguised ∧
      ∃ url, loopback.join disguised.path = .ok url ∧
        url.origin = ("http", some (.colons [0, 0, 0, 0, 0, 0, 0, 1], some 8000)) := by
  have read : readOrigin "http://[::1]:8000" = .ok loopback := rfl
  have checked := (endpoint_parsed_iff disguised.path disguised).mpr rfl
  obtain ⟨url, joined, same, _⟩ := accepted_same_origin read checked
  exact ⟨read, checked, url, joined, same⟩

/-- Whatever the settings are, the client they give sends to the server of its origin alone. -/
theorem settings_same_origin {settings : Settings} {client : ClientSettings}
    (checked : ofSettings settings = .ok client) :
    (∃ url, client.messagesUrl = .ok url ∧ url.origin = client.origin.origin) ∧
      ∃ request, Http.EventSource.request client.origin client.stream.endpoint = .ok request ∧
        request.url.origin = client.origin.origin := by
  have read : readOrigin settings.server.origin = .ok client.origin := by
    unfold ofSettings at checked
    cases read : readOrigin settings.server.origin with
    | error fault =>
        rw [read] at checked
        cases checked
    | ok origin =>
        rw [read] at checked
        simp only [bind, Except.bind] at checked
        split at checked
        · cases checked
        · split at checked
          · cases checked
          · split at checked
            · cases checked
            · cases checked
              rfl
  obtain ⟨messages, joined, same, _⟩ := join_endpoint client.messages read
  obtain ⟨stream, opened, sameToo, _⟩ := join_endpoint client.stream.endpoint read
  refine ⟨⟨messages, joined, same⟩, ?_⟩
  simp only [Http.EventSource.request, opened]
  exact ⟨_, rfl, sameToo⟩

end ClientSettings

end LiveChat
