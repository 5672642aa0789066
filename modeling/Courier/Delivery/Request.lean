/-
**Requests.**

An envelope is sent by one POST request with its bytes as the body. The endpoint has to be a URL,
the header that authorises the request has to be ASCII, and the host has to be one that can be
announced, in this order. An endpoint that lacks scheme or host is read as a path under the root.

* `Request.make_body`: the body of a request is the bytes it is made for.
* `Request.make_host`: a request has a host that can be announced.
-/
import Courier.Failure.Cause
namespace Courier

namespace Url

/-- Path and query of a URL under the root, without scheme and host. -/
def underRoot (url : Url) : Url where
  scheme := []
  userinfo := []
  host := []
  port := none
  path := ('/' : CodePoint) :: url.path.dropWhile (· == CodePoint.ofChar '/')
  query := url.query
  fragment := none

/-- Why the host of a URL cannot be announced: its name cannot be decoded, or it is not ASCII. -/
def hostFault? (url : Url) : Option Failure :=
  match url.hostName with
  | .error fault => some (.ofHostName fault)
  | .ok _ =>
    match encodeAscii (url.authorityWith []) with
    | .error fault => some (.ofUnencodable fault)
    | .ok _ => none

end Url

/-- A request that sends an envelope. -/
structure Request where
  url : Url
  /-- The header that authorises the request. -/
  auth : Text
  body : Bytes
  deriving DecidableEq

namespace Request

/-- The method of every request. -/
def method : Text :=
  "POST"

/-- The content type of every body. -/
def contentType : Text :=
  "application/x-sentry-envelope"

/-- The length of the body, as it is announced. -/
def length (request : Request) : Text :=
  Text.ofNat request.body.length

/-- The request for an endpoint. -/
def make (endpoint auth : Text) (body : Bytes) : Except Failure Request :=
  match Url.parse endpoint with
  | .error fault => .error (.ofUrl fault)
  | .ok url =>
    match encodeAscii auth with
    | .error fault => .error (.ofUnencodable fault)
    | .ok _ =>
      let url := if url.isAbsolute then url else url.underRoot
      match url.hostFault? with
      | some failure => .error failure
      | none => .ok ⟨url, auth, body⟩

theorem make_body {endpoint auth : Text} {body : Bytes} {request : Request}
    (made : make endpoint auth body = .ok request) : request.body = body := by
  unfold make at made
  split at made
  · cases made
  split at made
  · cases made
  dsimp only at made
  split at made
  · cases made
  · cases made
    rfl

theorem make_host {endpoint auth : Text} {body : Bytes} {request : Request}
    (made : make endpoint auth body = .ok request) : request.url.hostFault? = none := by
  unfold make at made
  split at made
  · cases made
  split at made
  · cases made
  dsimp only at made
  split at made
  · cases made
  · rename_i sound
    cases made
    exact sound

end Request

end Courier
