/-
**What the transport reports.**

Every part of the transport reports what it does, each report with a level and with the part that
made it. Some name the envelope they are about, some carry the failure that led to them.
-/
import Courier.Failure
namespace Courier.Log

/-- How grave a report is. -/
inductive Level
  | debug
  | info
  | warning
  | error
  | critical
  deriving DecidableEq

/-- The name of a level. -/
def Level.name : Level → String
  | debug => "DEBUG"
  | info => "INFO"
  | warning => "WARNING"
  | error => "ERROR"
  | critical => "CRITICAL"

/-- The number of a level; graver ones are larger. -/
def Level.number : Level → Nat
  | debug => 10
  | info => 20
  | warning => 30
  | error => 40
  | critical => 50

/-- The part of the transport that reports. -/
inductive Source
  /-- The rate limits. -/
  | limits
  /-- The choice of the destination. -/
  | destination
  /-- The exchange with the server. -/
  | delivery
  /-- The queue and its worker. -/
  | worker
  /-- The transport as a whole. -/
  | transport
  deriving DecidableEq

/-- The name under which a part reports. -/
def Source.name : Source → String
  | limits => "transport.rate_limiter"
  | destination => "transport.resolver"
  | delivery => "transport.adapter"
  | worker => "transport.worker"
  | transport => "transport.transport"

/-- A report. -/
structure Entry where
  level : Level
  source : Source
  message : Text
  /-- The envelope that the report is about, where it is marked with it. -/
  envelope : Option Text
  /-- The failure that led to the report, where it is attached. -/
  failure : Option Failure
  deriving DecidableEq

/-- A report with nothing but a message. -/
def Entry.plain (level : Level) (source : Source) (message : Text) : Entry :=
  ⟨level, source, message, none, none⟩

end Courier.Log
