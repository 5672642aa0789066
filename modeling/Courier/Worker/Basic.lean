/-
**The worker.**

A worker has a bounded queue of tasks and one thread that takes them one at a time. It runs until it
is shut down, then drains, then stops; a stopped worker drops what is still queued, and its thread
ends once the queue is empty. What happens to envelopes is kept in a journal.

* `Worker.hasRoom_iff`: a queue has room below its capacity; without a positive capacity, always.
* `Worker.rest_queue`, `Worker.finish_queue`: the end of a task does not touch the queue.
-/
import Courier.Submission
namespace Courier

/-- The life of a worker. -/
inductive Phase
  /-- Envelopes are accepted and sent. -/
  | running
  /-- No envelopes are accepted, the queued ones are sent. -/
  | draining
  /-- Nothing is sent any more. -/
  | stopped
  deriving DecidableEq

/-- The name of a phase. -/
def Phase.name : Phase → String
  | running => "running"
  | draining => "draining"
  | stopped => "stopped"

/-- What waits in the queue. -/
inductive Task
  /-- An envelope. -/
  | send (envelope : Envelope)
  /-- The marker of the call with this number. -/
  | marker (call : Nat)

/-- What the thread of a worker is at; `φ` is what is on its way during a submission. -/
inductive Stage (φ : Type)
  /-- About to take a task. -/
  | idle
  /-- The queue was empty when a task was to be taken. -/
  | starved
  /-- A task has left the queue. -/
  | taken (task : Task)
  /-- The worker was not stopped when an envelope was taken. -/
  | cleared (whole : Envelope)
  /-- A part of the envelope may be sent. -/
  | filtered (whole part : Envelope)
  /-- The part is submitted. -/
  | submitting (whole part : Envelope) (flight : φ)
  /-- The thread has ended. -/
  | ended

/-- The most steps that the thread still takes until it waits or turns to the next task. -/
def Stage.ahead {φ : Type} : Stage φ → Nat
  | taken _ => 3
  | cleared _ => 2
  | filtered .. => 1
  | starved => 1
  | _ => 0

/-- What happens to envelopes. -/
inductive Happening (φ : Type)
  /-- A part of an offered envelope enters the queue. -/
  | accepted (whole part : Envelope)
  /-- An envelope is dropped on its way out of the queue, since the worker is stopped. -/
  | discarded (envelope : Envelope)
  /-- An envelope is dropped on its way out of the queue, since all of it is limited. -/
  | skipped (envelope : Envelope)
  /-- What may be sent of an envelope is passed to submission. -/
  | submitted (whole part : Envelope)
  /-- Something is on its way. -/
  | departed (flight : φ)
  /-- A submission ends. -/
  | landed (part : Envelope) (raised : Option Failure)
  /-- The thread ends. -/
  | closed

/-- A worker. -/
structure Worker (φ : Type) where
  /-- The places in the queue; without a positive number it is unbounded. -/
  capacity : Int
  /-- The limits are observed. -/
  limited : Bool
  phase : Phase
  /-- The tasks that wait, first to last. -/
  queue : List Task
  stage : Stage φ
  /-- The markers that the thread has reached. -/
  reached : List Nat
  /-- What has happened, oldest first. -/
  journal : List (Happening φ)
  depot : Depot

namespace Worker

variable {φ : Type}

/-- A worker that has just started. -/
def started (capacity : Int) (limited : Bool) (depot : Depot) : Worker φ :=
  ⟨capacity, limited, .running, [], .idle, [], [], depot⟩

/-- The thread has not ended. -/
def isAlive (worker : Worker φ) : Bool :=
  match worker.stage with
  | .ended => false
  | _ => true

/-- The queue has a place. -/
def hasRoom (worker : Worker φ) : Bool :=
  worker.capacity ≤ 0 || (worker.queue.length : Int) < worker.capacity

theorem hasRoom_iff (worker : Worker φ) :
    worker.hasRoom ↔ worker.capacity ≤ 0 ∨ (worker.queue.length : Int) < worker.capacity := by
  simp [hasRoom]

/-- Adds a task at the end of the queue. -/
def put (task : Task) (worker : Worker φ) : Worker φ :=
  { worker with queue := worker.queue ++ [task] }

/-- Writes something into the journal. -/
def note (happening : Happening φ) (worker : Worker φ) : Worker φ :=
  { worker with journal := worker.journal ++ [happening] }

/-- Notes how many tasks wait. -/
def measure (worker : Worker φ) : Worker φ :=
  { worker with depot := worker.depot.count (Ledger.setDepth worker.queue.length) }

/-- A report of the worker. -/
def say (level : Log.Level) (message : Text) (worker : Worker φ) : Worker φ :=
  { worker with depot := worker.depot.say level .worker message }

/-- The task is done, and the thread turns to the next. -/
def rest (worker : Worker φ) : Worker φ :=
  { worker with stage := .idle }.measure

/-- The thread ends. -/
def finish (worker : Worker φ) : Worker φ :=
  { worker with stage := .ended }.note .closed

/-- The task is done; a failure that was raised out of it ends the thread. -/
def close (outcome : Outcome) (worker : Worker φ) : Worker φ :=
  let left := { worker with depot := outcome.depot }
  match outcome.raised with
  | none => left.rest
  | some _ => left.rest.finish

theorem rest_queue (worker : Worker φ) : worker.rest.queue = worker.queue :=
  rfl

theorem finish_queue (worker : Worker φ) : worker.finish.queue = worker.queue :=
  rfl

theorem close_queue (outcome : Outcome) (worker : Worker φ) :
    (worker.close outcome).queue = worker.queue := by
  unfold close
  cases outcome.raised <;> rfl

end Worker

end Courier
