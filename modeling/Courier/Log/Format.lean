/-
**The lines of a log.**

A record becomes one line of JSON with a timestamp of the present, or one line of plain text with
the time at which it was made, with the failure on the lines after it.

* `Format.entries_keys`: a JSON line has four fields, and two more where there is something to
  tell.
-/
import Courier.Calendar.Moment
import Courier.Json.Writer
import Courier.Log.Record
namespace Courier.Log.Format

/-- Why a record has no line. -/
inductive Fault
  /-- Its message cannot be made. -/
  | template (fault : Template.Fault)
  /-- A field of it has no JSON form. -/
  | form (fault : Json.Fault)
  deriving DecidableEq

/-- The wording of a fault. -/
def Fault.message : Fault → Text
  | template fault => fault.message
  | form fault => fault.message

/-- The failure that a record tells of. -/
def failure? (record : Record) : Option FailureChain :=
  record.failure.join

/-- What a line of JSON tells, the time apart. -/
structure Fields where
  /-- The name of the level. -/
  level : Text
  /-- The name of the logger. -/
  logger : Text
  message : Text
  /-- The failure, written out. -/
  exception : Option Text
  /-- The envelope that the record is marked with. -/
  envelope : Option Value

/-- What the line of a record tells; `message` is its text. -/
def fields (message : Text) (record : Record) : Fields where
  level := levelName record.level
  logger := record.logger
  message := message
  exception := (failure? record).map FailureChain.text
  envelope := record.envelope

/-- The entries of a JSON line; `wall` is the present, in microseconds. -/
def Fields.entries (wall : Int) (fields : Fields) : List (Text × Value) :=
  let always : List (Text × Value) :=
    [("timestamp", .text (Moment.ofMicroseconds wall).isoText), ("level", .text fields.level),
      ("logger", .text fields.logger), ("message", .text fields.message)]
  always ++ (fields.exception.map fun text => (("exception" : Text), Value.text text)).toList ++
    (fields.envelope.map fun id => (("envelope_id" : Text), id)).toList

/-- The line of JSON. -/
def Fields.line (wall : Int) (fields : Fields) : Except Json.Fault Text :=
  Json.write Json.spaced
    (.dict ((fields.entries wall).map fun (name, value) => (.text name, value)))

/-- A record as a line of JSON. -/
def json (wall : Int) (record : Record) : Except Fault Text :=
  match record.text with
  | .error fault => .error (.template fault)
  | .ok message => ((fields message record).line wall).mapError .form

/-- The whole microseconds of a number of seconds; a fraction of one is dropped. -/
def microseconds : Binary64 → Int
  | .finite negative units =>
    ((Binary64.signedUnits negative units) * 1000000).fdiv unitsPerOne
  | _ => 0

/-- What is written for an attached failure that is none. -/
def noFailure : Text :=
  "NoneType: None"

/-- A record as plain text. -/
def plain (record : Record) : Except Fault Text :=
  match record.text with
  | .error fault => .error (.template fault)
  | .ok message =>
    let time := (Moment.ofMicroseconds (microseconds record.created)).plainText
    let line := Text.join " | "
      [time, Text.padRight ' ' 8 (levelName record.level), record.logger, message]
    .ok <| match record.failure with
      | none => line
      | some failure =>
        let lineEnd : Text :=
          if line.getLast? = some (CodePoint.ofChar '\n') then "" else "\n"
        line ++ lineEnd ++ (failure.map FailureChain.text).getD noFailure

theorem entries_keys (wall : Int) (fields : Fields) :
    (fields.entries wall).map (·.1) =
      (["timestamp", "level", "logger", "message"] : List Text) ++
        (if fields.exception.isSome then [("exception" : Text)] else []) ++
        (if fields.envelope.isSome then [("envelope_id" : Text)] else []) := by
  unfold Fields.entries
  cases fields.exception <;> cases fields.envelope <;> rfl

end Courier.Log.Format
