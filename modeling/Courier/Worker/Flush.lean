/-
**Flushes.**

A flush puts a marker into the queue, waiting for a place if there is none, and then waits until the
thread reaches it: by then every envelope that was queued before has been dealt with. A caller that
gives up leaves its marker where it is. No flush is needed once the thread has ended; it is then
asked only whether the queue is empty.

Waiting for longer than a clock can count is refused as soon as there is something to wait for.

* `Worker.proceedFlush_sends`: a flush neither adds nor removes an envelope.
-/
import Courier.Number.Numeral
import Courier.Worker.Basic
import Courier.Worker.Call
namespace Courier.Worker

variable {φ : Type}

/-- The most seconds for which a caller can wait. -/
def longestWait : Binary64 :=
  .ofInt 9223372036

/-- A time with one digit after the point, and its unit. -/
def secondsText (seconds : Binary64) : Text :=
  (Numeral.fixed false 1 seconds).text ++ "s"

/-- The next step of the flush of the call with this number; nothing while it has to wait. -/
def proceedFlush (call : Nat) (progress : Flush) (worker : Worker φ) : Option (Worker φ × Flush) :=
  match progress with
  | .asked =>
    if worker.isAlive then some (worker, .placing)
    else some (worker, .ended (.ok worker.queue.isEmpty))
  | .placing => if worker.hasRoom then some (worker.put (.marker call), .waiting) else none
  | .waiting => if worker.reached.contains call then some (worker, .ended (.ok true)) else none
  | .ended _ => none

/-- The caller of a flush that has to wait gives up. -/
def giveUpFlush (call : Nat) (seconds : Binary64) (progress : Flush) (worker : Worker φ) :
    Option (Worker φ × Flush) :=
  match progress with
  | .placing =>
    if worker.hasRoom || seconds = .nan then none
    else if longestWait < seconds then some (worker, .ended (.error .tooLarge))
    else some (worker.say .debug "Flush timed out waiting for queue space", .ended (.ok false))
  | .waiting =>
    if worker.reached.contains call then none
    else if longestWait < seconds then some (worker, .ended (.error .tooLarge))
    else
      some (worker.say .debug ("Flush timed out after " ++ secondsText seconds ++ " (" ++
        Text.ofNat worker.queue.length ++ " pending)"), .ended (.ok false))
  | _ => none

/-- The envelopes that wait, first to last. -/
def waiting (worker : Worker φ) : List Envelope :=
  worker.queue.filterMap fun
    | .send envelope => some envelope
    | .marker _ => none

theorem put_marker_waiting (call : Nat) (worker : Worker φ) :
    (worker.put (.marker call)).waiting = worker.waiting := by
  simp [waiting, put]

theorem proceedFlush_sends {call : Nat} {progress next : Flush} {worker after : Worker φ}
    (step : worker.proceedFlush call progress = some (after, next)) :
    after.waiting = worker.waiting := by
  cases progress with
  | asked =>
    unfold proceedFlush at step
    simp only at step
    split at step
    · cases step
      rfl
    · cases step
      rfl
  | placing =>
    unfold proceedFlush at step
    simp only at step
    split at step
    · cases step
      exact put_marker_waiting call worker
    · cases step
  | waiting =>
    unfold proceedFlush at step
    simp only at step
    split at step
    · cases step
      rfl
    · cases step
  | ended result => cases step

theorem giveUpFlush_queue {call : Nat} {seconds : Binary64} {progress next : Flush}
    {worker after : Worker φ}
    (step : worker.giveUpFlush call seconds progress = some (after, next)) :
    after.queue = worker.queue := by
  cases progress with
  | placing =>
    unfold giveUpFlush at step
    simp only at step
    split at step
    · cases step
    split at step
    · cases step
      rfl
    · cases step
      rfl
  | waiting =>
    unfold giveUpFlush at step
    simp only at step
    split at step
    · cases step
    split at step
    · cases step
      rfl
    · cases step
      rfl
  | asked => cases step
  | ended result => cases step

end Courier.Worker
