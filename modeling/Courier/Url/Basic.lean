/-
**URL references.**

A URL is cut into scheme, authority, path, query and fragment; the authority into user information
up to its last at-sign, host and port. Each part is then normalised: the scheme and an ASCII host
in small letters, other hosts by IDNA, the port as a number unless it is the default of the scheme
as written, dot segments removed, and everything percent-coded. The first part that cannot be
normalised, in the order user information, host, port, path, query, fragment, is the fault.

* `Url.parse_short`: every URL that is read keeps the limit on the length.
-/
import Courier.Idna.HostName
import Courier.Number.Integer
import Courier.Text.LetterCase
import Courier.Url.Address
import Courier.Url.Percent
namespace Courier

/-- A URL reference in normal form. -/
structure Url where
  scheme : Text
  userinfo : Text
  host : Text
  port : Option Int
  path : Text
  query : Option Text
  fragment : Option Text
  deriving DecidableEq

namespace Url

/-- Why a text is no URL. -/
inductive Invalid
  | tooLong
  | unprintable (point : CodePoint) (position : Nat)
  | ipv4 (host : Text)
  | ipv6 (host : Text)
  | hostName (host : Text)
  | port (text : Text)
  | pathWithoutSlash
  | pathWithSlashes
  | pathWithColon
  deriving DecidableEq

/-- The wording for a text that is no URL. -/
def Invalid.message : Invalid → Text
  | tooLong => "URL too long"
  | unprintable point position =>
    "Invalid non-printable ASCII character in URL, " ++ Text.quoted [point] ++ " at position " ++
      Text.ofNat position ++ "."
  | ipv4 host => "Invalid IPv4 address: " ++ host.quoted
  | ipv6 host => "Invalid IPv6 address: " ++ host.quoted
  | hostName host => "Invalid IDNA hostname: " ++ host.quoted
  | port text => "Invalid port: " ++ text.quoted
  | pathWithoutSlash => "For absolute URLs, path must be empty or begin with '/'"
  | pathWithSlashes => "Relative URLs cannot have a path starting with '//'"
  | pathWithColon => "Relative URLs cannot have a path starting with ':'"

/-- Why a text cannot be read as a URL. -/
inductive Fault
  /-- It is no URL. -/
  | invalid (reason : Invalid)
  /-- A surrogate in it has no escape. -/
  | unencodable (reason : Unencodable)
  deriving DecidableEq

/-- The wording of a fault. -/
def Fault.message : Fault → Text
  | invalid reason => reason.message
  | unencodable reason => reason.message

/-- The most code points that a URL may have. -/
def maxLength : Nat :=
  65536

/-! ### The parts as written -/

/-- The parts of a URL as they are written. -/
structure Parts where
  scheme : Text
  authority : Text
  path : Text
  query : Option Text
  fragment : Option Text

/-- A character of a scheme after its first letter. -/
def isSchemeChar (c : CodePoint) : Bool :=
  c.isAsciiLetter || c.isAsciiDigit || c = '+' || c = '.' || c = '-'

/-- A scheme: empty, or a letter and scheme characters. -/
def isScheme (t : Text) : Bool :=
  match t with
  | [] => true
  | c :: rest => c.isAsciiLetter && rest.all isSchemeChar

/-- The scheme before a colon, if the text starts with one, and the text after it. -/
def cutScheme (t : Text) : Text × Text :=
  let start := t.takeWhile isSchemeChar
  match t.drop start.length with
  | c :: rest => if c = ':' && isScheme start then (start, rest) else ([], t)
  | [] => ([], t)

/-- The authority after two slashes, if the text starts with them, and the text after it. -/
def cutAuthority (t : Text) : Text × Text :=
  match Text.dropStart? "//" t with
  | none => ([], t)
  | some rest =>
    let inside (c : CodePoint) : Bool := !(c = '/' || c = '?' || c = '#')
    (rest.takeWhile inside, rest.dropWhile inside)

/-- Cuts a URL into its parts. -/
def cutParts (t : Text) : Parts :=
  let (scheme, t) := cutScheme t
  let (authority, t) := cutAuthority t
  let (t, fragment) := t.cut '#'
  let (path, query) := t.cut '?'
  ⟨scheme, authority, path, query, fragment⟩

/-- The host at the start of an authority without user information: from a bracket to the last
closing one, or up to a colon. -/
def cutHost (t : Text) : Text × Text :=
  let plain := (t.takeWhile (· != CodePoint.ofChar ':'), t.dropWhile (· != CodePoint.ofChar ':'))
  match t with
  | [] => ([], [])
  | c :: _ =>
    if c = '[' then
      match t.cutLast ']' with
      | (some inside, after) => (inside ++ "]", after)
      | (none, _) => plain
    else plain

/-- User information, host and port of an authority. -/
def cutAuthorityParts (authority : Text) : Text × Text × Text :=
  let (userinfo, rest) := authority.cutLast '@'
  let (host, rest) := cutHost rest
  let port := match rest with
    | c :: after => if c = ':' then after else c :: after
    | [] => []
  (userinfo.getD [], host, port)

/-! ### Normal forms -/

/-- Visible ASCII without the given characters. -/
def visibleExcept (excluded : Text) (c : CodePoint) : Bool :=
  0x20 ≤ c.val && c.val < 0x7F && !excluded.contains c

/-- Safe in user information. -/
def userinfoSafe : CodePoint → Bool :=
  visibleExcept " \"#<>?`\x7b\x7d/;=@[\\]^|"

/-- Safe in a path. -/
def pathSafe : CodePoint → Bool :=
  visibleExcept " \"#<>?`\x7b\x7d"

/-- Safe in a query. -/
def querySafe : CodePoint → Bool :=
  visibleExcept " \"#<>"

/-- Safe in a fragment. -/
def fragmentSafe : CodePoint → Bool :=
  visibleExcept " \"<>`"

/-- Safe in a host name. -/
def hostSafe (c : CodePoint) : Bool :=
  (Text.ofString "!$&'()*+,;=\"`\x7b\x7d%|\\").contains c

/-- One step in recognising four runs of digits with one character between each two: an even state
waits for the first digit of a run, an odd one has met it. -/
def ipv4Step (c : CodePoint) (state : Nat) : List Nat :=
  if state % 2 = 0 then if c.isAsciiDigit then [state + 1] else []
  else (if c.isAsciiDigit then [state] else []) ++ if state < 7 then [state + 1] else []

/-- Four runs of digits with one character, whichever it is, between each two. -/
def looksLikeIpv4 (t : Text) : Bool :=
  (t.foldl (fun states c => (states.flatMap (ipv4Step c)).eraseDups) [0]).contains 7

/-- Between square brackets. -/
def isBracketed (t : Text) : Bool :=
  2 ≤ t.length && t.head? = some (CodePoint.ofChar '[') &&
    t.getLast? = some (CodePoint.ofChar ']')

/-- The normal form of a host. -/
def normalHost (host : Text) : Except Fault Text :=
  if host.isEmpty then .ok []
  else if looksLikeIpv4 host then
    if Address.isIpv4 host then .ok host else .error (.invalid (.ipv4 host))
  else if isBracketed host then
    let inside := (host.drop 1).dropLast
    if Address.isIpv6 inside then .ok inside else .error (.invalid (.ipv6 host))
  else if host.all CodePoint.isAscii then
    match Percent.encode hostSafe host.toLower with
    | .ok encoded => .ok encoded
    | .error reason => .error (.unencodable reason)
  else
    match Idna.encode host.toLower with
    | .ok encoded => .ok encoded
    | .error _ => .error (.invalid (.hostName host))

/-- The port that a scheme has if none is given; schemes are matched as they are written. -/
def defaultPort? (scheme : Text) : Option Int :=
  if scheme = "http" || scheme = "ws" then some 80
  else if scheme = "https" || scheme = "wss" then some 443
  else if scheme = "ftp" then some 21
  else none

/-- The normal form of a port. -/
def normalPort (scheme port : Text) : Except Fault (Option Int) :=
  if port.isEmpty then .ok none
  else
    match Integer.parse? port with
    | none => .error (.invalid (.port port))
    | some number => .ok (if some number = defaultPort? scheme then none else some number)

/-- The segments of a path without the dot segments. A segment before a double dot goes with it,
unless it is a lone empty one; `kept` is in reverse. -/
def resolveSegments (kept : List Text) : List Text → List Text
  | [] => kept.reverse
  | segment :: rest =>
    if segment = "." then resolveSegments kept rest
    else if segment = ".." then
      resolveSegments (if kept = [[]] then kept else kept.drop 1) rest
    else resolveSegments (segment :: kept) rest

/-- A path without dot segments. -/
def resolveDots (path : Text) : Text :=
  Text.join "/" (resolveSegments [] (Text.splitOn '/' path))

/-- Whether a path may stand after this scheme and authority. -/
def checkPath (hasScheme hasAuthority : Bool) (path : Text) : Except Fault Unit :=
  if hasAuthority && !path.isEmpty && path.head? != some (CodePoint.ofChar '/') then
    .error (.invalid .pathWithoutSlash)
  else if !hasScheme && !hasAuthority && (Text.dropStart? "//" path).isSome then
    .error (.invalid .pathWithSlashes)
  else if !hasScheme && !hasAuthority && path.head? = some (CodePoint.ofChar ':') then
    .error (.invalid .pathWithColon)
  else .ok ()

/-- Percent-codes a part of a URL. -/
def encodePart (safe : CodePoint → Bool) (t : Text) : Except Fault Text :=
  match Percent.encode safe t with
  | .ok encoded => .ok encoded
  | .error reason => .error (.unencodable reason)

/-- Percent-codes a part of a URL that may be absent. -/
def encodeOptional (safe : CodePoint → Bool) : Option Text → Except Fault (Option Text)
  | none => .ok none
  | some t => (encodePart safe t).map some

/-- A control character of ASCII. -/
def isControl (c : CodePoint) : Bool :=
  c.val < 0x20 || c.val = 0x7F

/-- Brings the parts of a URL into normal form. -/
def ofParts (parts : Parts) : Except Fault Url := do
  let (userinfo, host, port) := cutAuthorityParts parts.authority
  let scheme := parts.scheme.toAsciiLower
  let userinfo ← encodePart userinfoSafe userinfo
  let host ← normalHost host
  let port ← normalPort parts.scheme port
  let hasScheme := !scheme.isEmpty
  let hasAuthority := !userinfo.isEmpty || !host.isEmpty || port.isSome
  checkPath hasScheme hasAuthority parts.path
  let path := if hasScheme || hasAuthority then resolveDots parts.path else parts.path
  let path ← encodePart pathSafe path
  let query ← encodeOptional querySafe parts.query
  let fragment ← encodeOptional fragmentSafe parts.fragment
  return ⟨scheme, userinfo, host, port, path, query, fragment⟩

/-- Reads a URL reference. -/
def parse (t : Text) : Except Fault Url :=
  if maxLength < t.length then .error (.invalid .tooLong)
  else
    match t.dropWhile (fun c => !isControl c) with
    | c :: _ =>
      .error (.invalid (.unprintable c (t.takeWhile fun c => !isControl c).length))
    | [] => ofParts (cutParts t)

theorem parse_short {t : Text} {url : Url} (read : parse t = .ok url) : t.length ≤ maxLength := by
  unfold parse at read
  split at read
  · cases read
  · omega

/-! ### What a URL says -/

/-- The user name, decoded. -/
def username (url : Url) : Text :=
  Percent.decode (url.userinfo.cut ':').1

/-- The password, decoded; nothing is the empty one. -/
def password (url : Url) : Text :=
  Percent.decode ((url.userinfo.cut ':').2.getD [])

/-- The host name; one that begins with an encoded label is decoded. -/
def hostName (url : Url) : Except Idna.Fault Text :=
  if (Text.dropStart? Idna.encodedMark url.host).isSome then Idna.decode url.host
  else .ok url.host

/-- The path, decoded; an empty one is a slash. -/
def decodedPath (url : Url) : Text :=
  Percent.decode (if url.path.isEmpty then "/" else url.path)

/-- Scheme and host are given. -/
def isAbsolute (url : Url) : Bool :=
  !url.scheme.isEmpty && !url.host.isEmpty

/-- The authority with the given user information; a host with colons is put between brackets. -/
def authorityWith (url : Url) (userinfo : Text) : Text :=
  let user : Text := if userinfo.isEmpty then "" else userinfo ++ "@"
  let host : Text :=
    if url.host.contains (CodePoint.ofChar ':') then "[" ++ url.host ++ "]" else url.host
  let port : Text := match url.port with
    | none => ""
    | some number => ":" ++ Text.ofInt number
  user ++ host ++ port

/-- The text of a URL with the given user information. -/
def textWith (url : Url) (userinfo : Text) : Text :=
  let authority := url.authorityWith userinfo
  let scheme : Text := if url.scheme.isEmpty then "" else url.scheme ++ ":"
  let authority : Text := if authority.isEmpty then "" else "//" ++ authority
  let query : Text := match url.query with
    | none => ""
    | some query => "?" ++ query
  let fragment : Text := match url.fragment with
    | none => ""
    | some fragment => "#" ++ fragment
  scheme ++ authority ++ url.path ++ query ++ fragment

/-- The text of a URL. -/
def toText (url : Url) : Text :=
  url.textWith url.userinfo

/-- A URL inside a message, its password masked. -/
def shown (url : Url) : Text :=
  let userinfo : Text :=
    match url.userinfo.cut ':' with
    | (user, some _) => user ++ ":[secure]"
    | (user, none) => user
  "URL(" ++ (url.textWith userinfo).quoted ++ ")"

end Url

end Courier
