/-
**The transport.**

A transport is opened for settings and possibly a data source name of its own: the destination is
resolved, and a worker starts that submits envelopes there, within the limits. Sending an envelope
only offers it to the worker. The client with which requests are made is closed when the thread
ends, if the transport made it itself.

* `Transport.opened_destination`: the destination of a transport is the one that is resolved.
-/
import Courier.Delivery.Basic
import Courier.Worker.Session
namespace Courier

/-- A transport. -/
structure Transport where
  settings : Settings
  destination : Destination
  session : Session Flight

namespace Transport

/-- What is reported once a transport is open. -/
def readyText (destination : Destination) : Text :=
  let proxy := match destination.proxy with
    | some proxy => if proxy.isEmpty then Text.ofString "none" else proxy
    | none => "none"
  let verify := Text.ofString (if destination.verify then "True" else "False")
  "HTTP transport ready for " ++ destination.endpoint ++ " (proxy=" ++ proxy ++ ", verify=" ++
    verify ++ ")"

/-- Opens a transport at the time that the clocks show. -/
def opened (settings : Settings) (given : Option Dsn) (clock : Clock) :
    Except Destination.Fault Transport :=
  (Destination.resolve settings given).map fun (destination, notes) =>
    let depot := ((Depot.opened clock).reportAll notes).say .debug .transport
      (readyText destination)
    ⟨settings, destination, .opened (.started settings.queueCapacity true depot)⟩

/-- How long a call waits: as long as is given, or else as long as the settings say. -/
def patience (settings : Settings) (given : Option Binary64) : Binary64 :=
  given.getD settings.shutdownTimeout

/-- The submission of a transport. -/
def submitter (transport : Transport) : Submitter Flight Reply :=
  Delivery.submitter transport.destination

/-- The client is closed; one that came from outside never is. -/
def isClosed (own : Bool) (worker : Worker Flight) : Bool :=
  own && !worker.isAlive

theorem opened_destination {settings : Settings} {given : Option Dsn} {clock : Clock}
    {transport : Transport} (opens : opened settings given clock = .ok transport) :
    ∃ notes, Destination.resolve settings given = .ok (transport.destination, notes) := by
  unfold opened at opens
  cases resolved : Destination.resolve settings given with
  | error fault =>
    rw [resolved] at opens
    cases opens
  | ok pair =>
    rw [resolved] at opens
    cases opens
    exact ⟨pair.2, rfl⟩

end Transport

end Courier
