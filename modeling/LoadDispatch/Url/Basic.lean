import LoadDispatch.Text.Blank
import LoadDispatch.Text.DecimalDigit
import LoadDispatch.Text.Lower
import LoadDispatch.Text.Quoted
import LoadDispatch.Text.Unencodable
import LoadDispatch.Url.Host
import LoadDispatch.Url.Name.Basic

/-!
# URLs

A URL is read into its parts, every part is brought into one form, and the parts are written
together again.  The form: scheme and host in lower case, the port as a number and left out if it
is the usual one of the scheme, `.` and `..` resolved in the path, and in every part the
characters it does not admit percent-encoded.

Two things a caller may not expect.

* The usual port is left out only if the scheme was written in lower case, since that is decided
  before the scheme is lowered.  Reading the text again then leaves the port out.
* A URL without scheme or host is relative.  `absolute` puts it under an empty base, so that it
  keeps nothing but its path and query.
-/

namespace LoadDispatch

/-- A URL, part by part.  The query and the fragment are apart from an empty query and an empty
fragment. -/
structure Url where
  /-- The scheme, in lower case; empty if there is none. -/
  scheme : String
  /-- What stands in front of the host with an `@`; empty if there is nothing. -/
  userinfo : String
  /-- The host, an IPv6 address without its brackets. -/
  host : String
  /-- The port, if it is written. -/
  port : Option Int
  /-- The path. -/
  path : String
  /-- What follows `?`. -/
  query : Option String
  /-- What follows `#`. -/
  fragment : Option String
deriving DecidableEq, Repr

namespace Url

/-- Why a text is not a URL. -/
inductive Refusal where
  /-- It has more than `lengthLimit` characters. -/
  | tooLong
  /-- One of its parts has more than `lengthLimit` characters. -/
  | partTooLong (part : String)
  /-- It has an ASCII control character, here the first of them. -/
  | control (c : Char) (position : Nat)
  /-- What stands behind the host is no number. -/
  | port (text : String)
  /-- The host looks like an IPv4 address and is none. -/
  | ipv4 (host : String)
  /-- The host is in brackets and no IPv6 address. -/
  | ipv6 (host : String)
  /-- The host is no name. -/
  | name (host : String)
  /-- A path behind a host has to begin with a slash. -/
  | pathBehindHost
  /-- A path without scheme and host cannot begin with two slashes. -/
  | pathTwoSlashes
  /-- A path without scheme and host cannot begin with a colon. -/
  | pathColon
  /-- It has a character without bytes. -/
  | unencodable (text : Text.Unencodable)
deriving DecidableEq, Repr

/-- The text of a refusal. -/
def Refusal.message : Refusal → String
  | .tooLong => "URL too long"
  | .partTooLong part => s!"URL component '{part}' too long"
  | .control c position =>
    s!"Invalid non-printable ASCII character in URL, {Text.quoted c.toString} at position " ++
      s!"{position}."
  | .port text => s!"Invalid port: {Text.quoted text}"
  | .ipv4 host => s!"Invalid IPv4 address: {Text.quoted host}"
  | .ipv6 host => s!"Invalid IPv6 address: {Text.quoted host}"
  | .name host => s!"Invalid IDNA hostname: {Text.quoted host}"
  | .pathBehindHost => "For absolute URLs, path must be empty or begin with '/'"
  | .pathTwoSlashes => "Relative URLs cannot have a path starting with '//'"
  | .pathColon => "Relative URLs cannot have a path starting with ':'"
  | .unencodable text => text.message

/-- The greatest number of characters of a URL and of each of its parts. -/
def lengthLimit : Nat := 65536

/-- An ASCII control character. -/
def isControl (c : Char) : Bool :=
  c.toNat < 0x20 || c.toNat == 0x7F

/-- Refuses a text with a control character. -/
def checkControls (cs : List Char) : Except Refusal Unit :=
  match cs.find? isControl with
  | some c => .error (.control c (cs.takeWhile (!isControl ·)).length)
  | none => .ok ()

/-- The parts of a URL as they are written. -/
structure Parts where
  /-- What stands in front of the first colon. -/
  scheme : List Char
  /-- What stands between two slashes and the path. -/
  authority : List Char
  /-- The path. -/
  path : List Char
  /-- What follows `?`. -/
  query : Option (List Char)
  /-- What follows `#`. -/
  fragment : Option (List Char)

/-- A character of a scheme behind its first letter. -/
def isSchemeChar (c : Char) : Bool :=
  c.isAlphanum || c == '+' || c == '.' || c == '-'

/-- The scheme in front of a colon, which may be empty, and what is left. -/
def cutScheme (cs : List Char) : List Char × List Char :=
  let scheme := cs.takeWhile isSchemeChar
  match cs.drop scheme.length with
  | ':' :: rest => if scheme.head?.all Char.isAlpha then (scheme, rest) else ([], cs)
  | _ => ([], cs)

/-- The authority behind two slashes, and what is left. -/
def cutAuthority : List Char → List Char × List Char
  | '/' :: '/' :: rest =>
    let inside (c : Char) : Bool := c != '/' && c != '?' && c != '#'
    (rest.takeWhile inside, rest.dropWhile inside)
  | cs => ([], cs)

/-- Cuts a URL into its parts.  Every text can be cut. -/
def cut (cs : List Char) : Parts :=
  let (scheme, rest) := cutScheme cs
  let (authority, rest) := cutAuthority rest
  let inPath (c : Char) : Bool := c != '?' && c != '#'
  let path := rest.takeWhile inPath
  let rest := rest.dropWhile inPath
  let (query, rest) := match rest with
    | '?' :: rest => (some (rest.takeWhile (· != '#')), rest.dropWhile (· != '#'))
    | _ => (none, rest)
  let fragment := match rest with
    | '#' :: rest => some rest
    | _ => none
  { scheme, authority, path, query, fragment }

/-- The user information, the host and the port text of an authority. -/
def cutHost (authority : List Char) : List Char × List Char × List Char :=
  let behindAt := (authority.reverse.takeWhile (· != '@')).reverse
  let userinfo :=
    if authority.contains '@' then authority.take (authority.length - behindAt.length - 1) else []
  let bracketed :=
    match behindAt with
    | '[' :: _ => behindAt.take (behindAt.length - (behindAt.reverse.takeWhile (· != ']')).length)
    | _ => []
  let host := if bracketed = [] then behindAt.takeWhile (· != ':') else bracketed
  let port := match behindAt.drop host.length with
    | ':' :: port => port
    | port => port
  (userinfo, host, port)

/-- The host in its one form. -/
def host? (cs : List Char) : Except Refusal String :=
  let text := String.ofList cs
  if looksLikeIPv4 cs then if isIPv4 cs then .ok text else .error (.ipv4 text)
  else if cs.head? = some '[' ∧ cs.getLast? = some ']' then
    let inner := (cs.drop 1).dropLast
    if isIPv6 inner then .ok (String.ofList inner) else .error (.ipv6 text)
  else if cs.all (·.toNat < 0x80) then .ok (escape hostSafe (String.ofList (cs.map Char.toLower)))
  else
    match writeName? (Text.lowerFrom [] cs) with
    | .ok sent => .ok (String.ofList sent)
    | .error _ => .error (.name text)

/-- The greatest number of digits of a port. -/
def portDigits : Nat := 4300

/-- A number in digits of any script, with an optional sign, single underscores between its digits,
and blanks around it. -/
def portNumber? (cs : List Char) : Option Int :=
  let trimmed := Text.stripWhile Text.isBlank cs
  let (negative, digits) := match trimmed with
    | '-' :: rest => (true, rest)
    | '+' :: rest => (false, rest)
    | rest => (false, rest)
  let groups := (List.splitOn '_' digits).map fun g => g.map Text.decimalDigit?
  if groups.all (fun g => g ≠ [] && g.all (·.isSome)) ∧ groups.flatten.length ≤ portDigits then
    let n : Nat := (groups.flatten.map (·.getD 0)).foldl (fun n d => 10 * n + d) 0
    some (if negative then -n else n)
  else none

/-- The usual port of a scheme. -/
def usualPort? (scheme : String) : Option Int :=
  [("ftp", 21), ("http", 80), ("https", 443), ("ws", 80), ("wss", 443)].lookup scheme

/-- The port in its one form. -/
def port? (scheme : String) (cs : List Char) : Except Refusal (Option Int) :=
  if cs = [] then .ok none
  else
    match portNumber? cs with
    | none => .error (.port (String.ofList cs))
    | some n => .ok (if usualPort? scheme = some n then none else some n)

/-- Refuses a path that would be read as another part. -/
def checkPath (hasScheme hasHost : Bool) (path : List Char) : Except Refusal Unit :=
  if hasHost then
    if path = [] ∨ path.head? = some '/' then .ok () else .error .pathBehindHost
  else if hasScheme then .ok ()
  else if ['/', '/'].isPrefixOf path then .error .pathTwoSlashes
  else if path.head? = some ':' then .error .pathColon
  else .ok ()

/-- The segments that are left when `.` and `..` are resolved, in reverse order.  The empty segment
in front of a leading slash is never taken away. -/
def resolveSegments (segments : List (List Char)) : List (List Char) :=
  segments.foldl (fun done segment =>
    if segment = ['.'] then done
    else if segment = ['.', '.'] then (if done = [] ∨ done = [[]] then done else done.drop 1)
    else segment :: done) []

/-- A path with `.` and `..` resolved. -/
def resolvePath (path : List Char) : List Char :=
  let segments := List.splitOn '/' path
  if segments.contains ['.'] || segments.contains ['.', '.'] then
    ['/'].intercalate (resolveSegments segments).reverse
  else path

/-- Encodes the characters of a part that are not in `safe`, each by itself. -/
def escape? (safe : Char → Bool) (cs : List Char) : Except Refusal String :=
  match (Text.codePoints cs).find? Text.isSurrogate with
  | some code =>
    match Text.utf8Refusal? (String.ofList (Text.ofCodePoint code)) with
    | some text => .error (.unencodable text)
    | none => .ok (escape safe (String.ofList cs))
  | none => .ok (escape safe (String.ofList cs))

/-- Encodes a part if there is one. -/
def escapeIfAny? (safe : Char → Bool) : Option (List Char) → Except Refusal (Option String)
  | none => .ok none
  | some cs => (escape? safe cs).map some

/-- Brings the parts of a URL into their one form.  The host is another one if one is given. -/
def ofParts? (parts : Parts) (host : Option String := none) : Except Refusal Url := do
  let scheme := String.ofList parts.scheme
  let (userinfo, ownHost, portText) := cutHost parts.authority
  let userinfo ← escape? userinfoSafe userinfo
  let host ← host? ((host.map String.toList).getD ownHost)
  let port ← port? scheme portText
  let hasScheme := parts.scheme ≠ []
  let hasHost := userinfo ≠ "" ∨ host ≠ "" ∨ port ≠ none
  checkPath hasScheme hasHost parts.path
  let path := if hasScheme ∨ hasHost then resolvePath parts.path else parts.path
  let path ← escape? pathSafe path
  let query ← escapeIfAny? querySafe parts.query
  let fragment ← escapeIfAny? fragmentSafe parts.fragment
  pure {
    scheme := String.ofList (parts.scheme.map Char.toLower)
    userinfo, host, port, path, query, fragment }

/-- Reads a URL. -/
def parse? (s : String) : Except Refusal Url :=
  if lengthLimit < s.length then .error .tooLong
  else do
    checkControls s.toList
    ofParts? (cut s.toList)

/-- Host and port as they are written together. -/
def hostAndPort (u : Url) : String :=
  (if u.host.toList.contains ':' then "[" ++ u.host ++ "]" else u.host) ++
  (match u.port with
    | some n => ":" ++ toString n
    | none => "")

/-- User information, host and port as they are written together. -/
def authority (u : Url) : String :=
  (if u.userinfo = "" then "" else u.userinfo ++ "@") ++ u.hostAndPort

/-- The text of a URL. -/
def text (u : Url) : String :=
  (if u.scheme = "" then "" else u.scheme ++ ":") ++
  (if u.authority = "" then "" else "//" ++ u.authority) ++
  u.path ++
  (match u.query with
    | some q => "?" ++ q
    | none => "") ++
  (match u.fragment with
    | some f => "#" ++ f
    | none => "")

/-- Whether a URL says where to send a request. -/
def isAbsolute (u : Url) : Bool :=
  u.scheme ≠ "" && u.host ≠ ""

/-- A URL that says where to send a request, as it is; any other one under an empty base. -/
def absolute (u : Url) : Except Refusal Url :=
  if u.isAbsolute then .ok u
  else
    ofParts? {
      scheme := [], authority := []
      path := '/' :: u.path.toList.dropWhile (· == '/')
      query := u.query.map String.toList
      fragment := none }

/-- The names of the parts of a URL, with the text of each. -/
def namedParts (u : Url) : List (String × String) :=
  [("scheme", u.scheme), ("authority", u.authority), ("path", u.path), ("query", u.query.getD ""),
    ("fragment", u.fragment.getD "")]

/-- The parts of a URL from their text, and perhaps another host. -/
def again (u : Url) (host : Option String := none) : Except Refusal Url :=
  let parts := u.namedParts ++ (host.map fun text => ("host", text)).toList
  match parts.find? (lengthLimit < ·.2.length) with
  | some (part, _) => .error (.partTooLong part)
  | none =>
    ofParts? {
      scheme := u.scheme.toList, authority := u.authority.toList, path := u.path.toList
      query := u.query.map String.toList, fragment := u.fragment.map String.toList } host

/-- `u` with another query.  The other parts are read again from their text. -/
def withQuery (u : Url) (query : String) : Except Refusal Url :=
  again { u with query := some query }

/-- `u` with another host.  The other parts are read again from their text. -/
def withHost (u : Url) (host : String) : Except Refusal Url :=
  u.again (some (if host.toList.contains ':' then "[" ++ host ++ "]" else host))

/-- The host of a URL as it is spoken: a name in its ASCII form is read. -/
def spokenHost (u : Url) : Except NameFault String :=
  if asciiMark.isPrefixOf u.host.toList then
    (readName? u.host.toList).map String.ofList
  else .ok u.host

end Url

end LoadDispatch
