/-
**The choice of a proxy.**

At most one proxy is used. A destination with TLS prefers the proxy for such destinations, all
others have the plain one alone. A proxy that no client could route through is reported and passed
over.

* `Proxy.choose_usable`: the proxy chosen is usable, and is one of the two, verbatim.
* `Proxy.choose_http`: without TLS the other proxy has no influence.
-/
import Courier.Dsn.Basic
import Courier.Log.Entry
import Courier.Url.Basic
namespace Courier.Proxy

/-- Why no client can route through a proxy. -/
inductive Fault
  /-- It is no URL. -/
  | url (reason : Url.Fault)
  /-- Its scheme is none of a proxy. -/
  | scheme (address : Url)
  /-- Its host is not ASCII. -/
  | host (reason : Unencodable)
  deriving DecidableEq

/-- The wording of a fault. -/
def Fault.message : Fault → Text
  | url reason => reason.message
  | scheme address => "Unknown scheme for proxy URL " ++ address.shown
  | host reason => reason.message

/-- The schemes of proxies. -/
def schemes : List String :=
  ["http", "https", "socks5", "socks5h"]

/-- Whether a client can route through a proxy. -/
def check (value : Text) : Except Fault Unit :=
  match Url.parse value with
  | .error reason => .error (.url reason)
  | .ok url =>
    if schemes.any fun scheme => Text.ofString scheme == url.scheme then
      match encodeAscii url.host with
      | .error reason => .error (.host reason)
      | .ok _ => .ok ()
    else .error (.scheme url)

/-- A client can route through a proxy. -/
def isUsable (value : Text) : Bool :=
  (check value).toBool

/-- The setting if it holds a proxy that can be used; an empty one holds none. -/
def usable? (setting : Option Text) : Option Text :=
  setting.filter fun value => !value.isEmpty && isUsable value

/-- What is reported about a setting. -/
def notes (name : String) (setting : Option Text) : List Log.Entry :=
  match setting with
  | none => []
  | some value =>
    if value.isEmpty then []
    else
      match check value with
      | .ok _ => []
      | .error fault =>
        [.plain .warning .destination ("Ignoring invalid " ++ Text.ofString name ++ " " ++
          value.quoted ++ ": " ++ fault.message)]

/-- The proxy for a destination with the given scheme. -/
def choose (scheme : Scheme) (http https : Option Text) : Option Text :=
  match scheme with
  | .https => (usable? https).or (usable? http)
  | .http => usable? http

/-- What is reported about a choice; a setting that is not looked at is not reported. -/
def choiceNotes (scheme : Scheme) (http https : Option Text) : List Log.Entry :=
  match scheme with
  | .https =>
    if (usable? https).isSome then []
    else notes "https_proxy" https ++ notes "http_proxy" http
  | .http => notes "http_proxy" http

theorem usable?_eq_some {setting : Option Text} {value : Text}
    (usable : usable? setting = some value) : setting = some value ∧ isUsable value := by
  unfold usable? at usable
  rw [Option.filter_eq_some_iff] at usable
  exact ⟨usable.1, (Bool.and_eq_true_iff.mp usable.2).2⟩

theorem choose_usable {scheme : Scheme} {http https : Option Text} {value : Text}
    (chosen : choose scheme http https = some value) :
    (http = some value ∨ https = some value) ∧ isUsable value := by
  cases scheme with
  | http =>
    have found := usable?_eq_some chosen
    exact ⟨.inl found.1, found.2⟩
  | https =>
    rcases Option.or_eq_some_iff.mp chosen with first | ⟨_, second⟩
    · have found := usable?_eq_some first
      exact ⟨.inr found.1, found.2⟩
    · have found := usable?_eq_some second
      exact ⟨.inl found.1, found.2⟩

theorem choose_http (http https other : Option Text) :
    choose .http http https = choose .http http other :=
  rfl

end Courier.Proxy
