/-
**Proxies that cannot be used.**

A proxy that no client can be built with counts for as much as no proxy, whatever raised its
verdict. So the destination is the same once such settings are left out, and building never keeps it
from being resolved; it could only do so by raising something that is no verdict.

* `Proxy.attempts_of_verdicts`: the proxy is the first of those that count and can be used.
* `Destination.unusable_as_none`: leaving out what cannot be used changes no destination.
-/
import Courier.Destination.Attempt
namespace Courier

namespace Proxy

variable {build : Builder}

/-! ### Trying -/

/-- Building raises nothing but verdicts on the proxy. -/
def OnlyVerdicts (build : Builder) : Prop :=
  ∀ value raised, build value = .error raised → raised.isVerdict

/-- A client can be built with the proxy. -/
def builds (build : Builder) (value : Text) : Bool :=
  (build value).toBool

/-- The setting, unless no client can be built with it. -/
def buildable? (build : Builder) (setting : Option Text) : Option Text :=
  setting.filter (builds build)

/-- The proxy that a setting holds; an empty one holds none. -/
def held? (build : Builder) (setting : Option Text) : Option Text :=
  setting.filter fun value => !value.isEmpty && builds build value

/-- The first proxy of those that count. -/
def preferred? (build : Builder) (scheme : Scheme) (http https : Option Text) : Option Text :=
  match scheme with
  | .https => (held? build https).or (held? build http)
  | .http => held? build http

theorem builds_iff {value : Text} : builds build value ↔ build value = .ok () := by
  unfold builds
  cases build value with
  | ok _ => exact iff_of_true rfl rfl
  | error raised => exact iff_of_false nofun nofun

theorem held?_buildable? (setting : Option Text) :
    held? build (buildable? build setting) = held? build setting := by
  unfold held? buildable?
  rw [Option.filter_filter]
  congr 1
  funext value
  cases builds build value <;> simp

theorem held?_eq_some {setting : Option Text} {value : Text}
    (held : held? build setting = some value) : setting = some value ∧ build value = .ok () := by
  unfold held? at held
  obtain ⟨same, works⟩ := Option.filter_eq_some_iff.mp held
  exact ⟨same, builds_iff.mp (Bool.and_eq_true_iff.mp works).2⟩

/-- A proxy that is tried is held by its setting, or passed over. -/
theorem attempt_of_verdicts (verdicts : OnlyVerdicts build) (name : String)
    (setting : Option Text) :
    ∃ notes, attempt build name setting = .ok (held? build setting, notes) := by
  cases setting with
  | none => exact ⟨[], rfl⟩
  | some value =>
    unfold attempt held? builds
    rw [Option.filter_some]
    by_cases empty : value.isEmpty
    · exact ⟨[], by simp [empty]⟩
    · simp only [if_neg empty]
      cases tried : build value with
      | ok _ => exact ⟨[], by simp [Except.toBool, empty]⟩
      | error raised =>
        simp only [if_pos (verdicts value raised tried)]
        exact ⟨_, by simp only [Except.toBool, Bool.and_false]; rfl⟩

/-- The proxy is the first of those that count. -/
theorem attempts_of_verdicts (verdicts : OnlyVerdicts build) (scheme : Scheme)
    (http https : Option Text) :
    ∃ notes, attempts build scheme http https =
      .ok (preferred? build scheme http https, notes) := by
  cases scheme with
  | http => exact attempt_of_verdicts verdicts _ http
  | https =>
    obtain ⟨notes, first⟩ := attempt_of_verdicts verdicts "https_proxy" https
    obtain ⟨more, second⟩ := attempt_of_verdicts verdicts "http_proxy" http
    unfold attempts preferred?
    simp only [first, second]
    cases held? build https with
    | none => exact ⟨notes ++ more, rfl⟩
    | some value => exact ⟨notes, rfl⟩

theorem preferred?_buildable? (scheme : Scheme) (http https : Option Text) :
    preferred? build scheme (buildable? build http) (buildable? build https) =
      preferred? build scheme http https := by
  cases scheme with
  | http => exact held?_buildable? http
  | https =>
    unfold preferred?
    simp only [held?_buildable?]

theorem preferred?_eq_some {scheme : Scheme} {http https : Option Text} {value : Text}
    (found : preferred? build scheme http https = some value) :
    (http = some value ∨ https = some value) ∧ build value = .ok () := by
  cases scheme with
  | http =>
    obtain ⟨same, works⟩ := held?_eq_some found
    exact ⟨.inl same, works⟩
  | https =>
    rcases Option.or_eq_some_iff.mp found with first | ⟨-, second⟩
    · obtain ⟨same, works⟩ := held?_eq_some first
      exact ⟨.inr same, works⟩
    · obtain ⟨same, works⟩ := held?_eq_some second
      exact ⟨.inl same, works⟩

end Proxy

namespace Destination

variable {build : Proxy.Builder}

/-! ### Destinations -/

/-- The settings without the proxies that no client can be built with. -/
def withBuildable (build : Proxy.Builder) (settings : Settings) : Settings :=
  { settings with
    httpProxy := Proxy.buildable? build settings.httpProxy
    httpsProxy := Proxy.buildable? build settings.httpsProxy }

/-- The destination alone, without what is reported. -/
def resolvedWith (build : Proxy.Builder) (settings : Settings) (given : Option Dsn) :
    Except Unresolved Destination :=
  (resolveWith build settings given).map Prod.fst

/-- Where only verdicts are raised, a destination depends on the proxies through the one that is
preferred alone. -/
theorem resolvedWith_of_verdicts (verdicts : Proxy.OnlyVerdicts build) (settings : Settings)
    (given : Option Dsn) :
    resolvedWith build settings given =
      match chosenDsn settings given with
      | .error fault => .error (.fault fault)
      | .ok dsn => .ok { ofDsn settings dsn with
          proxy := Proxy.preferred? build dsn.scheme settings.httpProxy settings.httpsProxy } := by
  unfold resolvedWith resolveWith
  cases chosenDsn settings given with
  | error fault => rfl
  | ok dsn =>
    obtain ⟨notes, chosen⟩ :=
      Proxy.attempts_of_verdicts verdicts dsn.scheme settings.httpProxy settings.httpsProxy
    simp only [chosen]
    rfl

/-- Proxies that cannot be used are as good as none. -/
structure PassesOver (build : Proxy.Builder) (settings : Settings) (given : Option Dsn) : Prop where
  /-- With a data source name there is a destination. -/
  resolves : ∀ dsn, chosenDsn settings given = .ok dsn →
    ∃ destination, resolvedWith build settings given = .ok destination
  /-- Only the data source name can keep it from being resolved. -/
  refused : ∀ error, resolvedWith build settings given = .error error →
    ∃ fault, chosenDsn settings given = .error fault ∧ error = .fault fault
  /-- It is the same without the proxies that no client can be built with. -/
  without : resolvedWith build settings given =
    resolvedWith build (withBuildable build settings) given
  /-- A destination without TLS is the same for every proxy for TLS. -/
  plain : ∀ dsn, chosenDsn settings given = .ok dsn → dsn.scheme = .http → ∀ other,
    resolvedWith build { settings with httpsProxy := other } given =
      resolvedWith build settings given
  /-- A proxy that is chosen is one of the settings, verbatim, and a client can be built with it. -/
  verbatim : ∀ destination proxy, resolvedWith build settings given = .ok destination →
    destination.proxy = some proxy →
      (settings.httpProxy = some proxy ∨ settings.httpsProxy = some proxy) ∧ build proxy = .ok ()
  /-- It is the first of those that count and can be used. -/
  first : ∀ dsn destination, chosenDsn settings given = .ok dsn →
    resolvedWith build settings given = .ok destination →
      destination.proxy =
        Proxy.preferred? build dsn.scheme settings.httpProxy settings.httpsProxy

/-- **A proxy that cannot be used is as good as none**, for whatever reason no client can be built
with it. -/
theorem unusable_as_none (verdicts : Proxy.OnlyVerdicts build) (settings : Settings)
    (given : Option Dsn) : PassesOver build settings given := by
  have resolved := resolvedWith_of_verdicts verdicts settings given
  have first : ∀ dsn destination, chosenDsn settings given = .ok dsn →
      resolvedWith build settings given = .ok destination →
        destination.proxy =
          Proxy.preferred? build dsn.scheme settings.httpProxy settings.httpsProxy := by
    intro dsn destination chosen wrote
    rw [resolved, chosen] at wrote
    cases wrote
    rfl
  refine ⟨?resolves, ?refused, ?without, ?plain, ?verbatim, first⟩
  case resolves =>
    intro dsn chosen
    rw [resolved, chosen]
    exact ⟨_, rfl⟩
  case refused =>
    intro error refused
    rw [resolved] at refused
    cases chosen : chosenDsn settings given with
    | ok dsn =>
      rw [chosen] at refused
      cases refused
    | error fault =>
      rw [chosen] at refused
      exact ⟨fault, rfl, (Except.error.inj refused).symm⟩
  case without =>
    have same : chosenDsn (withBuildable build settings) given = chosenDsn settings given := rfl
    rw [resolved, resolvedWith_of_verdicts verdicts, same]
    cases chosenDsn settings given with
    | error fault => rfl
    | ok dsn =>
      unfold withBuildable
      simp only [Proxy.preferred?_buildable?]
      rfl
  case plain =>
    intro dsn chosen plain other
    have same : chosenDsn { settings with httpsProxy := other } given = .ok dsn := chosen
    rw [resolved, resolvedWith_of_verdicts verdicts, same, chosen]
    simp only [plain]
    rfl
  case verbatim =>
    intro destination proxy wrote found
    cases chosen : chosenDsn settings given with
    | error fault =>
      rw [resolved, chosen] at wrote
      cases wrote
    | ok dsn => exact Proxy.preferred?_eq_some ((first dsn destination chosen wrote).symm.trans found)

/-- The proxy for TLS has the scheme of no proxy, and the other one is sound. -/
def halfProxied : Settings :=
  { dsn := "https://k@h/1", httpsProxy := some "ftp://p", httpProxy := some "http://p:8080" }

/-- The proxy for TLS is passed over, as if it were not there. -/
theorem halfProxied_passes_over :
    Proxy.OnlyVerdicts Proxy.build ∧ PassesOver Proxy.build halfProxied none ∧
      (resolve halfProxied none).toOption.map (·.1.proxy) = some halfProxied.httpProxy := by
  have verdicts : Proxy.OnlyVerdicts Proxy.build := fun _ _ => Proxy.isVerdict_of_build
  refine ⟨verdicts, unusable_as_none verdicts halfProxied none, ?_⟩
  decide +kernel

end Destination

end Courier
