/-
**Settings.**

What an application can choose about the transport, with the values that hold where it chooses
nothing, and what is wrong with a choice.

* `Settings.problems_eq_nil_iff`: nothing is wrong exactly when the data source name is given and
  can be read, the queue has a place, and the timeouts make sense.
-/
import Courier.Dsn.Reading
import Courier.Number.Binary64
namespace Courier

/-- The choices about the transport. -/
structure Settings where
  /-- Where envelopes go; empty if delivery is off. -/
  dsn : Text := []
  userAgent : Text := "envelope-transport/0.1.0"
  httpProxy : Option Text := none
  httpsProxy : Option Text := none
  acceptInvalidCerts : Bool := false
  /-- The number of tasks that may wait. -/
  queueCapacity : Int := 30
  /-- In seconds, for one submission. -/
  requestTimeout : Binary64 := 30
  /-- In seconds, for a flush or the end of the transport. -/
  shutdownTimeout : Binary64 := 2
  logLevel : Text := "INFO"
  logJson : Bool := false

namespace Settings

/-- The destination, if one is given. -/
def parsedDsn (settings : Settings) : Except Dsn.Fault (Option Dsn) :=
  if settings.dsn.isEmpty then .ok none else (Dsn.parse settings.dsn).map some

/-- What is wrong with settings. -/
inductive Problem
  | noDsn
  | badDsn (reason : Dsn.Invalid)
  | noCapacity
  | noRequestTime
  | negativeShutdownTime
  deriving DecidableEq

/-- The wording of a problem. -/
def Problem.message : Problem → Text
  | noDsn => "SENTRY_DSN must be set"
  | badDsn reason => "SENTRY_DSN is invalid: " ++ reason.message
  | noCapacity => "SENTRY_QUEUE_CAPACITY must be at least 1"
  | noRequestTime => "SENTRY_REQUEST_TIMEOUT must be positive"
  | negativeShutdownTime => "SENTRY_SHUTDOWN_TIMEOUT must not be negative"

/-- The problem with the data source name. A fault that is no verdict on it stops the check. -/
def dsnProblems (settings : Settings) : Except Dsn.Fault (List Problem) :=
  if settings.dsn.isEmpty then .ok [.noDsn]
  else
    match Dsn.parse settings.dsn with
    | .ok _ => .ok []
    | .error (.invalid reason) => .ok [.badDsn reason]
    | .error fault => .error fault

/-- The problems with the numbers. -/
def numberProblems (settings : Settings) : List Problem :=
  (if settings.queueCapacity < 1 then [.noCapacity] else []) ++
    (if settings.requestTimeout ≤ 0 then [.noRequestTime] else []) ++
    (if settings.shutdownTimeout < 0 then [.negativeShutdownTime] else [])

/-- All problems, in the order of the settings. -/
def problems (settings : Settings) : Except Dsn.Fault (List Problem) :=
  settings.dsnProblems.map (· ++ settings.numberProblems)

/-- The list of problems as it is shown. -/
def problemsText (problems : List Problem) : Text :=
  "Configuration errors:\n  - " ++ Text.join "\n  - " (problems.map Problem.message)

/-- How the check of settings ends where they do not pass. -/
inductive Stop
  /-- The program ends with this text. -/
  | exit (text : Text)
  /-- A fault of the data source name that is no verdict on it. -/
  | fault (fault : Dsn.Fault)
  deriving DecidableEq

/-- Checks settings before they are used; every problem is listed. -/
def check (settings : Settings) : Except Stop Unit :=
  match settings.problems with
  | .error fault => .error (.fault fault)
  | .ok problems => if problems.isEmpty then .ok () else .error (.exit (problemsText problems))

theorem dsnProblems_eq_nil_iff {settings : Settings} :
    settings.dsnProblems = .ok [] ↔
      settings.dsn ≠ [] ∧ ∃ dsn, Dsn.parse settings.dsn = .ok dsn := by
  unfold dsnProblems
  by_cases empty : settings.dsn = []
  · simp [empty]
  · simp only [List.isEmpty_iff, ne_eq, empty, not_false_eq_true, true_and]
    cases Dsn.parse settings.dsn with
    | ok dsn => simp
    | error fault => cases fault <;> simp

theorem problems_eq_nil_iff {settings : Settings} :
    settings.problems = .ok [] ↔
      (settings.dsn ≠ [] ∧ ∃ dsn, Dsn.parse settings.dsn = .ok dsn) ∧
        1 ≤ settings.queueCapacity ∧ ¬ settings.requestTimeout ≤ 0 ∧
        ¬ settings.shutdownTimeout < 0 := by
  have numbers : settings.numberProblems = [] ↔
      1 ≤ settings.queueCapacity ∧ ¬ settings.requestTimeout ≤ 0 ∧
        ¬ settings.shutdownTimeout < 0 := by
    unfold numberProblems
    simp
  rw [← dsnProblems_eq_nil_iff, ← numbers]
  unfold problems
  cases settings.dsnProblems with
  | ok found => simp [Except.map]
  | error fault => simp [Except.map]

end Settings

end Courier
