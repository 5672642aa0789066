/-
**Where settings come from.**

A setting may be chosen by the application itself, by a variable of the environment, or by a file
of variables; the first of these that chooses it counts. Names are compared in small letters. The
proxies may be chosen under two names, of which the longer comes first.

* `Settings.given?_chosen`: what the application chooses counts before all else.
-/
import Courier.Settings.Basic
import Courier.Settings.Coercion
import Courier.Settings.EnvFile
namespace Courier.Settings

/-- One of the settings. -/
inductive Field
  | dsn
  | userAgent
  | httpProxy
  | httpsProxy
  | acceptInvalidCerts
  | queueCapacity
  | requestTimeout
  | shutdownTimeout
  | logLevel
  | logJson
  deriving DecidableEq

/-- The name of a setting. -/
def Field.name : Field → String
  | dsn => "dsn"
  | userAgent => "user_agent"
  | httpProxy => "http_proxy"
  | httpsProxy => "https_proxy"
  | acceptInvalidCerts => "accept_invalid_certs"
  | queueCapacity => "queue_capacity"
  | requestTimeout => "request_timeout"
  | shutdownTimeout => "shutdown_timeout"
  | logLevel => "log_level"
  | logJson => "log_json"

/-- The setting has a longer name too. -/
def Field.hasLongName : Field → Bool
  | httpProxy | httpsProxy => true
  | _ => false

/-- The name of a setting with what all variables begin with, in small letters. -/
def Field.variable (field : Field) : Text :=
  "sentry_" ++ Text.ofString field.name

/-- The longer name of a proxy. -/
def Field.longName (field : Field) : String :=
  match field with
  | httpsProxy => "SENTRY_HTTPS_PROXY"
  | _ => "SENTRY_HTTP_PROXY"

/-- The variables that choose a setting, in small letters; the first one that is set counts. -/
def Field.variableNames (field : Field) : List Text :=
  field.variable :: if field.hasLongName then [Text.ofString field.name] else []

/-- Everything that settings may come from. -/
structure Sources where
  /-- What the application chooses. -/
  chosen : List (Text × Value)
  /-- The variables of the environment. -/
  environment : Keyed Text Text
  /-- The text of the file of variables. -/
  file : Text

/-- A value for a setting. -/
structure Given where
  /-- The name under which a fault is reported. -/
  location : String
  value : Value

/-- The variables by their names in small letters; of several names that differ in case only, the
last counts. -/
def lowered {α : Type} (values : Keyed Text α) : Keyed Text α :=
  Keyed.ofPairs (values.map fun (name, value) => (name.toLower, value))

/-- The first choice of the application under a name, in any case. -/
def chosen? (name : Text) (choices : List (Text × Value)) : Option Value :=
  (choices.find? fun choice => choice.1.toLower == name).map (·.2)

/-- What the application chooses for a setting. -/
def givenByChoice? (field : Field) (choices : List (Text × Value)) : Option Given :=
  let long := if field.hasLongName then chosen? field.variable choices else none
  match long with
  | some value => some ⟨field.longName, value⟩
  | none => (chosen? field.name choices).map fun value => ⟨field.name, value⟩

/-- What variables choose for a setting. -/
def givenByVariable? (field : Field) (find : Text → Option Text) : Option Given :=
  (field.variableNames.findSome? find).map fun value => ⟨field.name, .text value⟩

/-- The value for a setting, from the first source that has one. -/
def given? (field : Field) (sources : Sources) : Option Given :=
  let environment := lowered sources.environment
  let file := lowered (EnvFile.read sources.environment sources.file)
  (givenByChoice? field sources.chosen)
    |>.or (givenByVariable? field fun name => Keyed.get? name environment)
    |>.or (givenByVariable? field fun name => (Keyed.get? name file).join)

/-- A value that is refused for a setting. -/
structure Refusal where
  location : String
  reason : Coercion.Fault
  deriving DecidableEq

/-- The value of a setting; the usual one, if no source has one. -/
def fieldValue {α : Type} (sources : Sources) (field : Field)
    (convert : Value → Except Coercion.Fault α) (usual : α) : Except Refusal α :=
  match given? field sources with
  | none => .ok usual
  | some given =>
    match convert given.value with
    | .ok a => .ok a
    | .error reason => .error ⟨given.location, reason⟩

/-- The refusal of a value, if it is refused. -/
def refusal? {α : Type} : Except Refusal α → Option Refusal
  | .ok _ => none
  | .error refusal => some refusal

/-- Reads all settings. If any values are refused, all refusals are told, in the order of the
settings. -/
def read (sources : Sources) : Except (List Refusal) Settings :=
  let usual : Settings := {}
  let dsn := fieldValue sources .dsn Coercion.toText usual.dsn
  let userAgent := fieldValue sources .userAgent Coercion.toText usual.userAgent
  let httpProxy := fieldValue sources .httpProxy Coercion.toOptionalText usual.httpProxy
  let httpsProxy := fieldValue sources .httpsProxy Coercion.toOptionalText usual.httpsProxy
  let acceptInvalidCerts :=
    fieldValue sources .acceptInvalidCerts Coercion.toTruth usual.acceptInvalidCerts
  let queueCapacity := fieldValue sources .queueCapacity Coercion.toWhole usual.queueCapacity
  let requestTimeout := fieldValue sources .requestTimeout Coercion.toNumber usual.requestTimeout
  let shutdownTimeout :=
    fieldValue sources .shutdownTimeout Coercion.toNumber usual.shutdownTimeout
  let logLevel := fieldValue sources .logLevel Coercion.toText usual.logLevel
  let logJson := fieldValue sources .logJson Coercion.toTruth usual.logJson
  let settings : Except Refusal Settings := do
    return { dsn := ← dsn, userAgent := ← userAgent, httpProxy := ← httpProxy,
             httpsProxy := ← httpsProxy, acceptInvalidCerts := ← acceptInvalidCerts,
             queueCapacity := ← queueCapacity, requestTimeout := ← requestTimeout,
             shutdownTimeout := ← shutdownTimeout, logLevel := ← logLevel, logJson := ← logJson }
  match settings with
  | .ok settings => .ok settings
  | .error _ =>
    .error <| [refusal? dsn, refusal? userAgent, refusal? httpProxy, refusal? httpsProxy,
      refusal? acceptInvalidCerts, refusal? queueCapacity, refusal? requestTimeout,
      refusal? shutdownTimeout, refusal? logLevel, refusal? logJson].filterMap id

/-- Reads the settings that an application chooses, where there are no variables. -/
def ofChoices (choices : List (Text × Value)) : Except (List Refusal) Settings :=
  read ⟨choices, [], []⟩

theorem given?_chosen {field : Field} {sources : Sources} {given : Given}
    (chosen : givenByChoice? field sources.chosen = some given) :
    given? field sources = some given := by
  unfold given?
  simp only [chosen, Option.some_or]

end Courier.Settings
