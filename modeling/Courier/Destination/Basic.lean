/-
**The destination.**

Everything that is needed to reach the endpoint: its address, the header that authorises a request,
the proxy and how requests are made. It is resolved once, from the settings and possibly a data
source name that replaces the one there.

* `Destination.resolve_given`: a name that is given replaces the one in the settings.
-/
import Courier.Destination.Proxy
import Courier.Settings.Basic
namespace Courier

/-- What is needed to reach the endpoint. -/
structure Destination where
  /-- The address of the endpoint. -/
  endpoint : Text
  /-- The header that authorises a request. -/
  auth : Text
  scheme : Scheme
  proxy : Option Text
  /-- Certificates are verified. -/
  verify : Bool
  /-- The seconds that a request may take. -/
  timeout : Binary64
  deriving DecidableEq

namespace Destination

/-- Why there is no destination. -/
inductive Fault
  /-- No data source name is given. -/
  | noDsn
  /-- The one that is given cannot be read. -/
  | dsn (fault : Dsn.Fault)
  deriving DecidableEq

/-- The wording of a fault. -/
def Fault.message : Fault → Text
  | noDsn => "No DSN configured"
  | dsn fault => fault.message

/-- The data source name that counts: the one given, or else the one in the settings. -/
def chosenDsn (settings : Settings) (given : Option Dsn) : Except Fault Dsn :=
  match given with
  | some dsn => .ok dsn
  | none =>
    match settings.parsedDsn with
    | .error fault => .error (.dsn fault)
    | .ok none => .error .noDsn
    | .ok (some dsn) => .ok dsn

/-- The destination for a data source name. -/
def ofDsn (settings : Settings) (dsn : Dsn) : Destination where
  endpoint := dsn.endpoint
  auth := dsn.auth settings.userAgent
  scheme := dsn.scheme
  proxy := Proxy.choose dsn.scheme settings.httpProxy settings.httpsProxy
  verify := !settings.acceptInvalidCerts
  timeout := settings.requestTimeout

/-- What is reported while a destination is resolved. -/
def notes (settings : Settings) (dsn : Dsn) : List Log.Entry :=
  (if settings.acceptInvalidCerts then
    [.plain .warning .destination
      ("TLS certificate verification is disabled for " ++ dsn.host)]
  else []) ++ Proxy.choiceNotes dsn.scheme settings.httpProxy settings.httpsProxy

/-- The destination, with what is reported while it is resolved. -/
def resolve (settings : Settings) (given : Option Dsn) :
    Except Fault (Destination × List Log.Entry) :=
  (chosenDsn settings given).map fun dsn => (ofDsn settings dsn, notes settings dsn)

theorem resolve_given (settings : Settings) (dsn : Dsn) :
    resolve settings (some dsn) = .ok (ofDsn settings dsn, notes settings dsn) :=
  rfl

end Destination

end Courier
