/-
**Shutdowns.**

A shutdown lets the worker drain, flushes it, stops it whether or not the flush succeeded, and waits
for its thread to end. It answers what the flush answered. A worker that is stopped already is only
asked whether its queue is empty. A flush that fails with more than a plain refusal ends the
shutdown, and the worker stays draining.

* `Worker.proceedShutdown_forward`: a shutdown never moves the phase back.
-/
import Courier.Worker.Flush
namespace Courier

/-- How far a worker's life has gone. -/
def Phase.rank : Phase → Nat
  | running => 0
  | draining => 1
  | stopped => 2

theorem Phase.rank_le_stopped (phase : Phase) : phase.rank ≤ rank .stopped := by
  cases phase <;> decide

theorem Phase.rank_le_draining {phase : Phase} (live : phase ≠ .stopped) :
    phase.rank ≤ rank .draining := by
  cases phase with
  | running => decide
  | draining => decide
  | stopped => exact absurd rfl live

namespace Worker

variable {φ : Type}

/-- Moves to another phase. -/
def enterPhase (phase : Phase) (worker : Worker φ) : Worker φ :=
  { worker with phase }

/-- A shutdown after a step of its flush. -/
def afterFlush : Flush → Shutdown
  | .ended (.ok answer) => .flushed answer
  | .ended (.error failure) => .ended (.error failure)
  | flush => .flushing flush

/-- Reports that the worker is stopped. -/
def reportStopped (answer : Bool) (worker : Worker φ) : Worker φ :=
  worker.say .info ("Delivery worker stopped (flushed=" ++
    Text.ofString (if answer then "True" else "False") ++ ")")

/-- The next step of the shutdown of the call with this number; nothing while it has to wait. -/
def proceedShutdown (call : Nat) (progress : Shutdown) (worker : Worker φ) :
    Option (Worker φ × Shutdown) :=
  match progress with
  | .asked =>
    if worker.phase = .stopped then some (worker, .ended (.ok worker.queue.isEmpty))
    else some (worker.enterPhase .draining, .flushing .asked)
  | .flushing flush =>
    (worker.proceedFlush call flush).map fun (worker, flush) => (worker, afterFlush flush)
  | .flushed answer => some (worker.enterPhase .stopped, .joining answer)
  | .joining answer =>
    if worker.isAlive then none else some (worker.reportStopped answer, .ended (.ok answer))
  | .ended _ => none

/-- What is raised where the time to wait is no number. -/
def noNumber : Failure :=
  ⟨"ValueError", some "Invalid value NaN (not a number)"⟩

/-- The caller of a shutdown that has to wait gives up. -/
def giveUpShutdown (call : Nat) (seconds : Binary64) (progress : Shutdown) (worker : Worker φ) :
    Option (Worker φ × Shutdown) :=
  match progress with
  | .flushing flush =>
    (worker.giveUpFlush call seconds flush).map fun (worker, flush) => (worker, afterFlush flush)
  | .joining answer =>
    if !worker.isAlive then none
    else if seconds = .nan then some (worker, .ended (.error noNumber))
    else if longestWait < seconds then some (worker, .ended (.error .tooLarge))
    else
      let busy := worker.say .warning ("Delivery worker still busy after " ++ secondsText seconds ++
        " shutdown timeout")
      some (busy.reportStopped answer, .ended (.ok answer))
  | _ => none

theorem proceedFlush_phase {call : Nat} {progress next : Flush} {worker after : Worker φ}
    (step : worker.proceedFlush call progress = some (after, next)) :
    after.phase = worker.phase := by
  cases progress with
  | asked =>
    unfold proceedFlush at step
    simp only at step
    split at step
    · cases step
      rfl
    · cases step
      rfl
  | placing =>
    unfold proceedFlush at step
    simp only at step
    split at step
    · cases step
      rfl
    · cases step
  | waiting =>
    unfold proceedFlush at step
    simp only at step
    split at step
    · cases step
      rfl
    · cases step
  | ended result => cases step

theorem proceedShutdown_forward {call : Nat} {progress next : Shutdown} {worker after : Worker φ}
    (step : worker.proceedShutdown call progress = some (after, next)) :
    worker.phase.rank ≤ after.phase.rank := by
  cases progress with
  | asked =>
    unfold proceedShutdown at step
    simp only at step
    split at step
    · cases step
      exact Nat.le_refl _
    · rename_i live
      cases step
      exact Phase.rank_le_draining live
  | flushing flush =>
    unfold proceedShutdown at step
    simp only at step
    cases inner : worker.proceedFlush call flush with
    | none =>
      rw [inner] at step
      cases step
    | some ending =>
      rw [inner] at step
      cases step
      exact Nat.le_of_eq (congrArg Phase.rank (proceedFlush_phase inner)).symm
  | flushed answer =>
    cases step
    exact Phase.rank_le_stopped worker.phase
  | joining answer =>
    unfold proceedShutdown at step
    simp only at step
    split at step
    · cases step
    · cases step
      exact Nat.le_refl _
  | ended result => cases step

end Worker

end Courier
