/-
**The data source name.**

One text says where envelopes go and which key signs them:
`<scheme>://<public key>[:<secret key>]@<host>[:<port>]<path>/<project>`. From it follow the
address of the endpoint and the header that authorises a request.

* `Dsn.netloc_of_noPort`: a port that is absent or zero is not written.
* `Dsn.auth_noSecret`: without a secret and a user agent, only the key and the version are sent.
-/
import Courier.Text.LetterCase
import Courier.Text.Quoted
namespace Courier

/-- The scheme of the endpoint. -/
inductive Scheme
  | http
  | https
  deriving DecidableEq

namespace Scheme

/-- The name of a scheme. -/
def name : Scheme → String
  | http => "http"
  | https => "https"

/-- The scheme with exactly this name. -/
def ofName? (t : Text) : Option Scheme :=
  if t = "http" then some http else if t = "https" then some https else none

end Scheme

/-- Where envelopes go, and which key signs them. -/
structure Dsn where
  scheme : Scheme
  publicKey : Text
  host : Text
  projectId : Text
  port : Option Int
  /-- What stands before the project, without a slash at its end. -/
  path : Text
  /-- Empty if there is none. -/
  secretKey : Text
  deriving DecidableEq

namespace Dsn

/-- The version of the protocol that a request announces. -/
def protocolVersion : Nat :=
  7

/-- The host, with the port if it is given and not zero. -/
def netloc (dsn : Dsn) : Text :=
  match dsn.port with
  | none => dsn.host
  | some port => if port = 0 then dsn.host else dsn.host ++ ":" ++ Text.ofInt port

/-- The address that envelopes are sent to. -/
def endpoint (dsn : Dsn) : Text :=
  Text.ofString dsn.scheme.name ++ "://" ++ dsn.netloc ++ dsn.path ++ "/api/" ++ dsn.projectId ++
    "/envelope/"

/-- The fields of the header that authorises a request. -/
def authFields (dsn : Dsn) (userAgent : Text) : List (String × Text) :=
  [("sentry_key", dsn.publicKey), ("sentry_version", Text.ofNat protocolVersion)] ++
    (if dsn.secretKey.isEmpty then [] else [("sentry_secret", dsn.secretKey)]) ++
    (if userAgent.isEmpty then [] else [("sentry_client", userAgent)])

/-- The header that authorises a request; an empty user agent is left out. -/
def auth (dsn : Dsn) (userAgent : Text) : Text :=
  let fields := (dsn.authFields userAgent).map fun (name, value) =>
    Text.ofString name ++ "=" ++ value
  "Sentry " ++ Text.join ", " fields

/-- The data source name, without the secret. -/
def toText (dsn : Dsn) : Text :=
  Text.ofString dsn.scheme.name ++ "://" ++ dsn.publicKey ++ "@" ++ dsn.netloc ++ dsn.path ++
    "/" ++ dsn.projectId

theorem netloc_of_noPort {dsn : Dsn} (noPort : dsn.port = none ∨ dsn.port = some 0) :
    dsn.netloc = dsn.host := by
  rcases noPort with none | zero
  · simp [netloc, none]
  · simp [netloc, zero]

theorem auth_noSecret {dsn : Dsn} (noSecret : dsn.secretKey = []) :
    dsn.auth [] = "Sentry sentry_key=" ++ dsn.publicKey ++ ", sentry_version=7" := by
  have version : Text.ofNat protocolVersion = Text.ofString "7" := by decide
  simp only [auth, authFields, noSecret, List.isEmpty_nil, if_true, List.append_nil, List.map_cons,
    List.map_nil, Text.join, version, List.append_assoc]
  rfl

end Dsn

end Courier
