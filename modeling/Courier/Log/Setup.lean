/-
**Setting up the log.**

One handler writes the log of the whole process, from a level on that the settings name. A name
that is no level means `INFO`, but for two names that stand for something else and are refused.
Loggers below `httpx` and `httpcore` start at `WARNING`. Setting up again replaces every handler
there is.

* `Setup.foldl_detach`: taken out one after another, no handler is left.
* `Setup.configure_handlers`: afterwards one handler is left, whatever there was.
-/
import Courier.Keyed
import Courier.Log.Format
import Courier.Settings.Basic
import Courier.Text.LetterCase
namespace Courier.Log.Setup

/-- The names that settings may give to levels. -/
def namedLevels : List (Text × Int) :=
  [("CRITICAL", 50), ("FATAL", 50), ("ERROR", 40), ("WARN", 30), ("WARNING", 30), ("INFO", 20),
    ("DEBUG", 10), ("NOTSET", 0)]

/-- A name that is taken for a level although it stands for the usual form of a line. -/
def formName : Text :=
  "BASIC_FORMAT"

/-- The usual form of a line. -/
def formText : Text :=
  "%(levelname)s:%(name)s:%(message)s"

/-- A name that is taken for a level although it stands for a table of forms. -/
def formsName : Text :=
  "_STYLES"

/-- The table of forms: how marks are written, with the usual form in marks of that kind. -/
def formsText : Text :=
  "\x7b'%': (<class 'logging.PercentStyle'>, '%(levelname)s:%(name)s:%(message)s'), " ++
    "'\x7b': (<class 'logging.StrFormatStyle'>, '\x7blevelname\x7d:\x7bname\x7d:" ++
    "\x7bmessage\x7d'), '$': (<class 'logging.StringTemplateStyle'>, " ++
    "'$\x7blevelname\x7d:$\x7bname\x7d:$\x7bmessage\x7d')\x7d"

/-- Why something is no level. -/
inductive LevelFault
  /-- It is a text that names none. -/
  | unknown (name : Text)
  /-- It is neither a number nor a text. -/
  | unusable (shown : Text)
  deriving DecidableEq

/-- The wording for what is no level. -/
def LevelFault.message : LevelFault → Text
  | unknown name => "Unknown level: " ++ name.quoted
  | unusable shown => "Level not an integer or a valid string: " ++ shown

/-- The level that is meant by a name that says nothing. -/
def usualLevel : Int :=
  20

/-- The level that a name means, in any case. -/
def levelOf (name : Text) : Except LevelFault Int :=
  match name.toAsciiUpper? with
  | none => .ok usualLevel
  | some name =>
    if name = formName then .error (.unknown formText)
    else if name = formsName then .error (.unusable formsText)
    else .ok ((namedLevels.lookup name).getD usualLevel)

/-- What takes part in writing the log. -/
inductive Handler
  /-- One that the application has put there; a number tells it from others. -/
  | foreign (number : Nat := 0)
  /-- One that writes lines, of JSON or of plain text, from a level on. -/
  | lines (level : Int) (json : Bool)
  deriving DecidableEq

/-- How the process logs. -/
structure Configuration where
  /-- The level of the root logger. -/
  level : Int
  /-- The handlers of the root logger. -/
  handlers : List Handler
  /-- The levels of single loggers, which hold for those below them. -/
  loggers : Keyed Text Int
  deriving DecidableEq

/-- How a process logs before anything is set up, with the handlers that it has. -/
def Configuration.initial (handlers : List Handler) : Configuration :=
  ⟨30, handlers, []⟩

/-- The level of loggers that are kept quiet. -/
def quietLevel : Int :=
  30

/-- Keeps the loggers of the client quiet. -/
def quieten (loggers : Keyed Text Int) : Keyed Text Int :=
  Keyed.put "httpcore" quietLevel (Keyed.put "httpx" quietLevel loggers)

/-- Takes a handler out: the first one that is the same. -/
def Configuration.detach (configuration : Configuration) (handler : Handler) : Configuration :=
  { configuration with handlers := configuration.handlers.erase handler }

/-- Puts in a handler that was not there before. -/
def Configuration.attach (configuration : Configuration) (handler : Handler) : Configuration :=
  { configuration with handlers := configuration.handlers ++ [handler] }

/-- What a call leaves behind, and why it was refused, if it was. -/
structure Attempt where
  configuration : Configuration
  refused : Option LevelFault
  deriving DecidableEq

/-- Sets the log up as settings ask for. The level comes first, and may be refused. The handlers
that are there are then taken out one after another, from a list that was copied before. -/
def setUp (settings : Settings) (before : Configuration) : Attempt :=
  match levelOf settings.logLevel with
  | .error fault => ⟨before, some fault⟩
  | .ok level =>
    let leveled := { before with level }
    let emptied := leveled.handlers.foldl Configuration.detach leveled
    let handled := emptied.attach (.lines level settings.logJson)
    ⟨{ handled with loggers := quieten handled.loggers }, none⟩

/-- The configuration that settings ask for, in place of the one before. -/
def configure (settings : Settings) (before : Configuration) :
    Except LevelFault Configuration :=
  match setUp settings before with
  | ⟨after, none⟩ => .ok after
  | ⟨_, some fault⟩ => .error fault

/-- The logger is the given one or below it. -/
def isWithin (above logger : Text) : Bool :=
  match Text.dropStart? above logger with
  | some [] => true
  | some (c :: _) => c = '.'
  | none => false

/-- The level from which on a logger is heard: that of the nearest logger above it that has one,
itself included. -/
def Configuration.levelFor (configuration : Configuration) (logger : Text) : Int :=
  match configuration.loggers.find? fun entry => isWithin entry.1 logger with
  | some entry => entry.2
  | none => configuration.level

/-- A record is heard: its level is positive and reaches the one for its logger. -/
def Configuration.hears (configuration : Configuration) (record : Record) : Bool :=
  0 < record.level && configuration.levelFor record.logger ≤ record.level

/-- What a handler writes for a record; nothing for a record without a line. -/
def Handler.write (wall : Int) (record : Record) : Handler → Text
  | foreign _ => []
  | lines level json =>
    if record.level < level then []
    else
      match if json then Format.json wall record else Format.plain record with
      | .ok line => line ++ "\n"
      | .error _ => []

/-- What is written for records, in order. -/
def Configuration.output (configuration : Configuration) (wall : Int) (records : List Record) :
    Text :=
  (records.filter configuration.hears).flatMap fun record =>
    configuration.handlers.flatMap fun handler => handler.write wall record

theorem foldl_detach (configuration : Configuration) :
    configuration.handlers.foldl Configuration.detach configuration =
      { configuration with handlers := [] } := by
  obtain ⟨level, handlers, loggers⟩ := configuration
  show handlers.foldl Configuration.detach ⟨level, handlers, loggers⟩ = ⟨level, [], loggers⟩
  induction handlers with
  | nil => rfl
  | cons handler rest ih =>
    rw [List.foldl_cons]
    unfold Configuration.detach at ih ⊢
    simp only [List.erase_cons_head]
    exact ih

theorem setUp_of_level {settings : Settings} {level : Int}
    (means : levelOf settings.logLevel = .ok level) (before : Configuration) :
    setUp settings before =
      ⟨⟨level, [.lines level settings.logJson], quieten before.loggers⟩, none⟩ := by
  unfold setUp
  rw [means]
  simp only [foldl_detach]
  rfl

theorem configure_handlers {settings : Settings} {before after : Configuration}
    (configured : configure settings before = .ok after) :
    after.handlers = [.lines after.level settings.logJson] := by
  unfold configure at configured
  cases level : levelOf settings.logLevel with
  | error fault =>
    unfold setUp at configured
    rw [level] at configured
    cases configured
  | ok number =>
    rw [setUp_of_level level] at configured
    cases configured
    rfl

end Courier.Log.Setup
