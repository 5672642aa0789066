/-
**Redirects.**

A redirect is not followed, but its location has to be one that could be: a URL, whose host can be
announced, and whose path can stand after a host. A location without host stands for the one that
was asked.

* `Redirect.refusal?_none_of_status`: a response with another status is never refused for its
  location.
-/
import Courier.Delivery.Request
import Courier.Delivery.Response
namespace Courier.Redirect

/-- The statuses that redirect. -/
def statuses : List Int :=
  [301, 302, 303, 307, 308]

/-- The header that tells where to. -/
def header : Text :=
  "location"

/-- The location of a response that redirects. -/
def location? (response : Response) : Option Text :=
  if statuses.contains response.status then Keyed.get? header response.fields else none

/-- The URL of a location, with the scheme and the host that were asked where it lacks its own. -/
def completed (asked target : Url) : Url :=
  { target with
    scheme := if target.scheme.isEmpty then asked.scheme else target.scheme
    host := if target.host.isEmpty then asked.host else target.host }

/-- A scheme is given, but no host, and the path cannot stand after one. -/
def lacksSlash (target : Url) : Bool :=
  !target.scheme.isEmpty && target.host.isEmpty && !target.path.isEmpty &&
    target.path.head? != some (CodePoint.ofChar '/')

/-- Why a location cannot be followed from the URL that was asked. -/
def fault? (asked : Url) (location : Text) : Option Failure :=
  match Url.parse location with
  | .error (.invalid reason) =>
    some ⟨"RemoteProtocolError",
      some ("Invalid URL in location header: " ++ reason.message ++ ".")⟩
  | .error (.unencodable reason) => some (.ofUnencodable reason)
  | .ok target =>
    if lacksSlash target then some (.ofUrl (.invalid .pathWithoutSlash))
    else (completed asked target).hostFault?

/-- Why a response is not looked at: the request had no scheme or host, or the response leads to a
location that cannot be followed. -/
def refusal? (request : Request) (response : Response) : Option Failure :=
  if request.url.isAbsolute then (location? response).bind (fault? request.url)
  else some ⟨"ValueError", some ("unknown url type: " ++ request.url.toText.quoted)⟩

theorem refusal?_none_of_status {request : Request} {response : Response}
    (whole : request.url.isAbsolute = true) (other : response.status ∉ statuses) :
    refusal? request response = none := by
  unfold refusal? location?
  rw [if_pos whole, if_neg (by simpa using other)]
  rfl

end Courier.Redirect
