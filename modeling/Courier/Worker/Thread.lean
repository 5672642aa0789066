/-
**The thread of a worker.**

The thread takes one task after another. A marker is reached and that is all. An envelope is dropped
if the worker is stopped, then if all of it is limited; what is left of it is submitted. A failure
of the submission is reported and forgotten; an interrupt, or a failure to report, ends the thread.

Each step is one that other calls cannot come into the midst of. Where the queue is empty the thread
looks whether the worker is stopped, and asks for a task again if it is not; in between a task may
have come. The thread waits only while something is on its way.

* `Worker.work_idle`: the thread takes the first task.
* `Worker.work_stopped`: the thread ends if the worker is stopped after no task was found.
-/
import Courier.Worker.Offer
namespace Courier.Worker

variable {φ ρ : Type}

/-- Drops an envelope on its way out of the queue. -/
def dropTaken (envelope : Envelope) (reason : DropReason) (message : Text → Text)
    (worker : Worker φ) : Worker φ :=
  worker.close ((worker.depot.sayOf envelope .debug .worker message).andThen fun depot =>
    .done (depot.drop reason))

/-- Drops an envelope because the worker is stopped. -/
def discard (envelope : Envelope) (worker : Worker φ) : Worker φ :=
  (worker.note (.discarded envelope)).dropTaken envelope .stopped fun id =>
    "Dropping envelope " ++ id ++ ": transport is stopped"

/-- Drops an envelope because all of it is limited. -/
def skip (envelope : Envelope) (worker : Worker φ) : Worker φ :=
  (worker.note (.skipped envelope)).dropTaken envelope .rateLimited fun id =>
    "Skipping envelope " ++ id ++ ": rate limited"

/-- Reports a failure that was raised out of a submission. -/
def reportFailure (envelope : Envelope) (failure : Failure) (depot : Depot) : Outcome :=
  depot.naming envelope fun id depot =>
    .done (depot.report ⟨.error, .worker, "Unexpected error delivering envelope " ++ id, none,
      some failure⟩)

/-- What a submission leaves once a failure that was raised out of it is reported; an interrupt is
not. -/
def contain (envelope : Envelope) (outcome : Outcome) : Outcome :=
  match outcome.raised with
  | none => outcome
  | some failure =>
    if failure.family = .interrupt then outcome else reportFailure envelope failure outcome.depot

/-- A submission ends. -/
def land (part : Envelope) (outcome : Outcome) (worker : Worker φ) : Worker φ :=
  (worker.note (.landed part outcome.raised)).close (contain part outcome)

/-- Passes what may be sent of an envelope to submission. -/
def submit (submitter : Submitter φ ρ) (whole part : Envelope) (worker : Worker φ) : Worker φ :=
  let passed := worker.note (.submitted whole part)
  match submitter.begin part passed.depot with
  | .ended outcome => passed.land part outcome
  | .underWay flight depot =>
    { passed.note (.departed flight) with depot, stage := .submitting whole part flight }

/-- The next step of the thread; nothing while it has to wait. -/
def work (submitter : Submitter φ ρ) (worker : Worker φ) : Option (Worker φ) :=
  match worker.stage with
  | .idle =>
    match worker.queue with
    | task :: rest => some { worker with queue := rest, stage := .taken task }
    | [] => some { worker with stage := .starved }
  | .starved =>
    if worker.phase = .stopped then some worker.finish else some { worker with stage := .idle }
  | .taken (.marker call) => some { worker with reached := call :: worker.reached }.rest
  | .taken (.send envelope) =>
    if worker.phase = .stopped then some (worker.discard envelope)
    else some { worker with stage := .cleared envelope }
  | .cleared whole =>
    match worker.allow whole with
    | none => some (worker.skip whole)
    | some part => some { worker with stage := .filtered whole part }
  | .filtered whole part => some (worker.submit submitter whole part)
  | .submitting .. => none
  | .ended => none

/-- Something comes of what is on its way. -/
def receive (submitter : Submitter φ ρ) (reply : ρ) (worker : Worker φ) : Option (Worker φ) :=
  match worker.stage with
  | .submitting _ part flight => some (worker.land part (submitter.finish flight reply worker.depot))
  | _ => none

theorem work_idle (submitter : Submitter φ ρ) {worker : Worker φ} {task : Task} {rest : List Task}
    (idle : worker.stage = .idle) (queue : worker.queue = task :: rest) :
    worker.work submitter = some { worker with queue := rest, stage := .taken task } := by
  unfold work
  rw [idle, queue]

theorem work_stopped (submitter : Submitter φ ρ) {worker : Worker φ}
    (starved : worker.stage = .starved) (stopped : worker.phase = .stopped) :
    worker.work submitter = some worker.finish := by
  unfold work
  rw [starved]
  exact if_pos stopped

end Courier.Worker
