/-
**Log records.**

A record is what an application logs: a message template with values, under the name of a logger
and with a level. The number of a level may be any whole number; six have names.

* `levelName_warning`: the name of a level that has one.
-/
import Courier.Failure
import Courier.Log.Template
namespace Courier.Log

/-- What an application logs. -/
structure Record where
  /-- The template. -/
  message : Value
  /-- The values for the template. -/
  values : List Value
  /-- The name of the logger. -/
  logger : Text
  level : Int
  /-- The envelope that the record is marked with. -/
  envelope : Option Value
  /-- The failure that is attached; an attachment may hold none. -/
  failure : Option (Option FailureChain)
  /-- When the record was made, in seconds from the first of January 1970. -/
  created : Binary64

/-- The levels with names. -/
def levels : List (Int × String) :=
  [(50, "CRITICAL"), (40, "ERROR"), (30, "WARNING"), (20, "INFO"), (10, "DEBUG"), (0, "NOTSET")]

/-- The name of a level. -/
def levelName (level : Int) : Text :=
  match levels.lookup level with
  | some name => name
  | none => "Level " ++ Text.ofInt level

/-- The text of a message. -/
def Record.text (record : Record) : Except Template.Fault Text :=
  match record.message.toText with
  | .error cause => .error (.digits cause)
  | .ok template => Template.fill template record.values

theorem levelName_warning : levelName 30 = "WARNING" :=
  rfl

end Courier.Log
