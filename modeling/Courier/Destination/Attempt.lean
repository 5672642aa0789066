/-
**Trying a proxy.**

Whether a client can route through a proxy is found out by building one. What that raises is a
verdict on the proxy if a value was wrong, a part of the client is not installed or the proxy is no
URL: it is reported, and the proxy is passed over. Anything else that is raised goes on.

* `Destination.resolveWith_build`: the clients that are built here raise nothing else, and then the
  destination is the one that is resolved.
-/
import Courier.Destination.Basic
import Courier.Failure.Cause
namespace Courier

namespace Proxy

/-- What building a client raises. -/
inductive Raised
  /-- Some value is wrong. -/
  | value (failure : Failure)
  /-- Something that the client needs is not installed. -/
  | missing (failure : Failure)
  /-- The proxy is no URL. -/
  | address (failure : Failure)
  | other (failure : Failure)
  deriving DecidableEq

/-- The failure itself. -/
def Raised.failure : Raised → Failure
  | value failure | missing failure | address failure | other failure => failure

/-- It tells that the proxy cannot be used. -/
def Raised.isVerdict : Raised → Bool
  | other _ => false
  | _ => true

/-- Builds a client that routes through a proxy, or raises. -/
abbrev Builder := Text → Except Raised Unit

/-- What a fault of a proxy is raised as. -/
def Fault.raised : Fault → Raised
  | url (.invalid reason) => .address (.ofUrl (.invalid reason))
  | url (.unencodable reason) => .value (.ofUnencodable reason)
  | scheme address => .value ⟨"ValueError", some (Fault.scheme address).message⟩
  | host reason => .value (.ofUnencodable reason)

/-- A client is built exactly if it can route through the proxy. -/
def build : Builder :=
  fun value => (check value).mapError Fault.raised

/-- The setting if a client can be built with it, and what is reported about it; an empty one holds
no proxy. -/
def attempt (build : Builder) (name : String) (setting : Option Text) :
    Except Failure (Option Text × List Log.Entry) :=
  match setting with
  | none => .ok (none, [])
  | some value =>
    if value.isEmpty then .ok (none, [])
    else
      match build value with
      | .ok _ => .ok (some value, [])
      | .error raised =>
        if raised.isVerdict then
          .ok (none, [.plain .warning .destination ("Ignoring invalid " ++ Text.ofString name ++
            " " ++ value.quoted ++ ": " ++ raised.failure.message)])
        else .error raised.failure

/-- The proxy for a destination with the given scheme, and what is reported. -/
def attempts (build : Builder) (scheme : Scheme) (http https : Option Text) :
    Except Failure (Option Text × List Log.Entry) :=
  match scheme with
  | .https => do
    let (proxy, notes) ← attempt build "https_proxy" https
    if proxy.isSome then return (proxy, notes)
    else
      let (proxy, more) ← attempt build "http_proxy" http
      return (proxy, notes ++ more)
  | .http => attempt build "http_proxy" http

theorem message_raised (fault : Fault) : fault.raised.failure.message = fault.message := by
  have plain : ∀ name argument : Text, name ≠ Text.ofString "KeyError" →
      (⟨name, some argument⟩ : Failure).message = argument := by
    intro name argument other
    exact if_neg other
  cases fault with
  | url reason =>
    cases reason with
    | invalid reason => exact plain _ _ (by decide)
    | unencodable reason => exact plain _ _ (by decide)
  | scheme address => exact plain _ _ (by decide)
  | host reason => exact plain _ _ (by decide)

theorem isVerdict_raised (fault : Fault) : fault.raised.isVerdict := by
  cases fault with
  | url reason => cases reason <;> rfl
  | scheme address => rfl
  | host reason => rfl

theorem build_of_ok {value : Text} (checked : check value = .ok ()) : build value = .ok () := by
  unfold build
  rw [checked]
  rfl

theorem build_of_error {value : Text} {fault : Fault} (checked : check value = .error fault) :
    build value = .error fault.raised := by
  unfold build
  rw [checked]
  rfl

/-- A client that cannot be built is a verdict on the proxy. -/
theorem isVerdict_of_build {value : Text} {raised : Raised} (fails : build value = .error raised) :
    raised.isVerdict := by
  cases checked : check value with
  | ok _ =>
    rw [build_of_ok checked] at fails
    cases fails
  | error fault =>
    rw [build_of_error checked] at fails
    rw [← Except.error.inj fails]
    exact isVerdict_raised fault

theorem attempt_build (name : String) (setting : Option Text) :
    attempt build name setting = .ok (usable? setting, notes name setting) := by
  cases setting with
  | none => rfl
  | some value =>
    unfold attempt usable? notes isUsable
    rw [Option.filter_some]
    by_cases empty : value.isEmpty
    · simp [empty]
    · simp only [if_neg empty]
      cases checked : check value with
      | ok _ => simp [empty, build_of_ok checked, Except.toBool]
      | error fault =>
        simp [build_of_error checked, Except.toBool, isVerdict_raised, message_raised]

theorem notes_of_usable? (name : String) {setting : Option Text}
    (usable : (usable? setting).isSome) : notes name setting = [] := by
  obtain ⟨value, found⟩ := Option.isSome_iff_exists.mp usable
  obtain ⟨rfl, works⟩ := usable?_eq_some found
  unfold notes isUsable at *
  cases checked : check value with
  | ok _ => simp [checked]
  | error fault =>
    rw [checked] at works
    cases works

theorem attempts_build (scheme : Scheme) (http https : Option Text) :
    attempts build scheme http https =
      .ok (choose scheme http https, choiceNotes scheme http https) := by
  cases scheme with
  | http => exact attempt_build _ http
  | https =>
    unfold attempts choose choiceNotes
    simp only [attempt_build]
    cases usable : usable? https with
    | none => rfl
    | some value =>
      have silent := notes_of_usable? "https_proxy" (Option.isSome_of_eq_some usable)
      show Except.ok (some value, notes "https_proxy" https) = _
      rw [silent]
      rfl

end Proxy

namespace Destination

/-- Why no destination is resolved. -/
inductive Unresolved
  | fault (fault : Fault)
  /-- Building a client raised something that is no verdict on the proxy. -/
  | raised (failure : Failure)
  deriving DecidableEq

/-- What is reported where certificates are not verified. -/
def certificateNotes (settings : Settings) (dsn : Dsn) : List Log.Entry :=
  if settings.acceptInvalidCerts then
    [.plain .warning .destination
      ("TLS certificate verification is disabled for " ++ dsn.host)]
  else []

/-- The destination, with what is reported while it is resolved; proxies are tried with the given
builder. -/
def resolveWith (build : Proxy.Builder) (settings : Settings) (given : Option Dsn) :
    Except Unresolved (Destination × List Log.Entry) :=
  match chosenDsn settings given with
  | .error fault => .error (.fault fault)
  | .ok dsn =>
    match Proxy.attempts build dsn.scheme settings.httpProxy settings.httpsProxy with
    | .error failure => .error (.raised failure)
    | .ok (proxy, notes) =>
      .ok ({ ofDsn settings dsn with proxy }, certificateNotes settings dsn ++ notes)

theorem resolveWith_build (settings : Settings) (given : Option Dsn) :
    resolveWith Proxy.build settings given = (resolve settings given).mapError .fault := by
  unfold resolveWith resolve
  cases chosenDsn settings given with
  | error fault => rfl
  | ok dsn =>
    simp only [Proxy.attempts_build]
    rfl

end Destination

end Courier
