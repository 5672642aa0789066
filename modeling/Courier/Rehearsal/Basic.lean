/-
**Rehearsals.**

A rehearsal is a session in which the thread moves only when it is told to, one task at a time, and
in which it is set beforehand what comes of each submission. Calls go on by themselves as far as
they can. All that happens in a rehearsal happens by moves of its session.

A call is either awaited while the thread stands still, or while the thread runs freely; then
nothing is held, and the thread goes on until it has nothing to do. In either case a caller that
still has to wait gives up.

* `Rehearsal.release_of_free`: where nothing is held there is nothing to release.
-/
import Courier.Rehearsal.Cue
import Courier.Worker.Session
namespace Courier

/-- How a rehearsal is directed: how envelopes are submitted, and how a script tells what comes of
what is on its way. -/
structure Direction (φ ρ σ : Type) where
  submitter : Submitter φ ρ
  cue : φ → σ → Cue ρ × σ

/-- A rehearsal; `σ` is its script. -/
structure Rehearsal (φ ρ σ : Type) where
  session : Session φ
  /-- What is left of the script. -/
  script : σ
  /-- What is set to come of the submission that is held. -/
  held : Option (Cue ρ)
  /-- The flush that was begun last. -/
  flush : Nat
  /-- The shutdown that was begun last. -/
  shutdown : Nat

namespace Rehearsal

variable {φ ρ σ : Type}

/-- The start of a rehearsal. -/
def opened (worker : Worker φ) (script : σ) : Rehearsal φ ρ σ :=
  ⟨.opened worker, script, none, 0, 0⟩

/-- The worker. -/
def worker (rehearsal : Rehearsal φ ρ σ) : Worker φ :=
  rehearsal.session.worker

/-- Makes a move, if it can be made. -/
def make (direction : Direction φ ρ σ) (move : Move ρ) (rehearsal : Rehearsal φ ρ σ) :
    Rehearsal φ ρ σ :=
  { rehearsal with
    session := (rehearsal.session.step direction.submitter move).getD rehearsal.session }

/-- The state of the call with this number. -/
def call? (number : Nat) (rehearsal : Rehearsal φ ρ σ) : Option Call :=
  rehearsal.session.calls[number]?

/-- What the call with this number has ended with. -/
def result? (number : Nat) (rehearsal : Rehearsal φ ρ σ) : Option CallResult :=
  (rehearsal.call? number).bind Call.result?

/-- The most steps that the call with this number still takes. -/
def ahead (number : Nat) (rehearsal : Rehearsal φ ρ σ) : Nat :=
  ((rehearsal.call? number).map Call.ahead).getD 0

/-- A call goes on for some steps. -/
def proceed (direction : Direction φ ρ σ) (steps number : Nat) (rehearsal : Rehearsal φ ρ σ) :
    Rehearsal φ ρ σ :=
  steps.repeat (make direction (.proceed number)) rehearsal

/-- A call goes on as far as it can. -/
def goOn (direction : Direction φ ρ σ) (number : Nat) (rehearsal : Rehearsal φ ρ σ) :
    Rehearsal φ ρ σ :=
  rehearsal.proceed direction (rehearsal.ahead number) number

/-- All calls go on as far as they can. -/
def goOnAll (direction : Direction φ ρ σ) (rehearsal : Rehearsal φ ρ σ) : Rehearsal φ ρ σ :=
  (List.range rehearsal.session.calls.length).foldl
    (fun rehearsal number => rehearsal.goOn direction number) rehearsal

/-! ### The thread -/

/-- What is set to come of the submission comes. -/
def play (direction : Direction φ ρ σ) (cue : Cue ρ) (rehearsal : Rehearsal φ ρ σ) :
    Rehearsal φ ρ σ :=
  let passed := rehearsal.make direction (.tick (cue.pass rehearsal.worker.depot.clock))
  goOnAll direction { passed.make direction (.receive cue.reply) with held := none }

/-- The submission that is under way, if there is one, gets its cue; it may be held, unless the
thread runs freely. -/
def meet (direction : Direction φ ρ σ) (free : Bool) (rehearsal : Rehearsal φ ρ σ) :
    Rehearsal φ ρ σ :=
  match rehearsal.worker.stage with
  | .submitting _ _ flight =>
    let (cue, script) := direction.cue flight rehearsal.script
    let rehearsal := { rehearsal with script }
    if cue.held && !free then { rehearsal with held := some cue } else rehearsal.play direction cue
  | _ => rehearsal.goOnAll direction

/-- The thread is about to take a task. -/
def isIdle (rehearsal : Rehearsal φ ρ σ) : Bool :=
  match rehearsal.worker.stage with
  | .idle => true
  | _ => false

/-- The thread takes a step in dealing with a task; it does not turn to another one. -/
def handle (direction : Direction φ ρ σ) (rehearsal : Rehearsal φ ρ σ) : Rehearsal φ ρ σ :=
  if rehearsal.isIdle then rehearsal else rehearsal.make direction .work

/-- The thread takes a task and deals with it. -/
def iterate (direction : Direction φ ρ σ) (free : Bool) (rehearsal : Rehearsal φ ρ σ) :
    Rehearsal φ ρ σ :=
  let taken := (rehearsal.make direction .work).goOnAll direction
  meet direction free (taken.worker.stage.ahead.repeat (handle direction) taken)

/-- The submission that is held ends. -/
def release (direction : Direction φ ρ σ) (rehearsal : Rehearsal φ ρ σ) : Rehearsal φ ρ σ :=
  match rehearsal.held with
  | some cue => rehearsal.play direction cue
  | none => rehearsal

/-- The thread takes up to `count` tasks, until it is held or has ended. -/
def work (direction : Direction φ ρ σ) (count : Nat) (rehearsal : Rehearsal φ ρ σ) :
    Rehearsal φ ρ σ :=
  count.repeat (fun rehearsal =>
    if rehearsal.isIdle then rehearsal.iterate direction false else rehearsal) rehearsal

/-- The thread runs freely until it has nothing to do. A call puts at most one task into the queue,
so the tasks and the calls bound the run. -/
def drain (direction : Direction φ ρ σ) (rehearsal : Rehearsal φ ρ σ) : Rehearsal φ ρ σ :=
  let released := (rehearsal.goOnAll direction).release direction
  let bound := released.worker.queue.length + released.session.calls.length + 1
  bound.repeat (fun rehearsal =>
    if rehearsal.isIdle then rehearsal.iterate direction true else rehearsal) released

/-! ### Calls -/

/-- Makes a call, and tells its number. -/
def ask (direction : Direction φ ρ σ) (move : Move ρ) (rehearsal : Rehearsal φ ρ σ) :
    Rehearsal φ ρ σ × Nat :=
  (rehearsal.make direction move, rehearsal.session.calls.length)

/-- A call is over, or its caller gives up, as often as it has to. -/
def await (direction : Direction φ ρ σ) (free : Bool) (number : Nat) :
    Nat → Rehearsal φ ρ σ → Rehearsal φ ρ σ
  | 0, rehearsal => rehearsal
  | more + 1, rehearsal =>
    let gone := if free then rehearsal.drain direction else rehearsal.goOn direction number
    if (gone.result? number).isSome then gone
    else await direction free number more (gone.make direction (.giveUp number))

/-- The thread may run freely during a call: it is let, and the worker is not stopped. -/
def isFree (run : Bool) (rehearsal : Rehearsal φ ρ σ) : Bool :=
  run && rehearsal.worker.phase ≠ .stopped

/-- Makes a call and awaits it. -/
def perform (direction : Direction φ ρ σ) (move : Move ρ) (run : Bool)
    (rehearsal : Rehearsal φ ρ σ) : Rehearsal φ ρ σ × Option CallResult :=
  let (asked, number) := rehearsal.ask direction move
  let finished := asked.await direction (rehearsal.isFree run) number (asked.ahead number + 1)
  (finished, finished.result? number)

/-- Offers an envelope. -/
def enqueue (direction : Direction φ ρ σ) (envelope : Envelope) (rehearsal : Rehearsal φ ρ σ) :
    Rehearsal φ ρ σ × Option CallResult :=
  rehearsal.perform direction (.enqueue envelope) false

/-- Offers an envelope, and shuts the worker down once the envelope is filtered. -/
def race (direction : Direction φ ρ σ) (envelope : Envelope) (seconds : Binary64)
    (rehearsal : Rehearsal φ ρ σ) : Rehearsal φ ρ σ × Option CallResult :=
  let (asked, number) := rehearsal.ask direction (.enqueue envelope)
  let filtered := asked.proceed direction 2 number
  let closed :=
    if (filtered.result? number).isSome then filtered
    else (filtered.perform direction (.shutdown seconds) false).1
  let finished := closed.goOn direction number
  (finished, finished.result? number)

/-- The seconds that the caller waits of a call that is begun apart. -/
def patience : Binary64 :=
  20

/-- Begins a flush. -/
def beginFlush (direction : Direction φ ρ σ) (rehearsal : Rehearsal φ ρ σ) : Rehearsal φ ρ σ :=
  let (asked, flush) := rehearsal.ask direction (.flush patience)
  { asked.goOn direction flush with flush }

/-- Begins a shutdown. -/
def beginShutdown (direction : Direction φ ρ σ) (rehearsal : Rehearsal φ ρ σ) :
    Rehearsal φ ρ σ :=
  let (asked, shutdown) := rehearsal.ask direction (.shutdown patience)
  { asked.goOn direction shutdown with shutdown }

/-- Awaits a call that was begun before. -/
def conclude (direction : Direction φ ρ σ) (number : Nat) (run : Bool)
    (rehearsal : Rehearsal φ ρ σ) : Rehearsal φ ρ σ × Option CallResult :=
  let finished := rehearsal.await direction (rehearsal.isFree run) number (rehearsal.ahead number + 1)
  (finished, finished.result? number)

/-- Changes the depot. -/
def tend (change : Depot → Depot) (rehearsal : Rehearsal φ ρ σ) : Rehearsal φ ρ σ :=
  { rehearsal with session := rehearsal.session.tend change }

theorem release_of_free (direction : Direction φ ρ σ) {rehearsal : Rehearsal φ ρ σ}
    (free : rehearsal.held = none) : rehearsal.release direction = rehearsal := by
  unfold release
  rw [free]

end Rehearsal

end Courier
