/-
**Sessions.**

A worker together with the calls that are made to it. Calls, the thread, the clock and the limits
move in any order, one step at a time; a move that cannot be made yet is nothing. The number of a
call is its place in the list of calls, which only grows.

* `Session.step_calls_length`: no move forgets a call.
-/
import Courier.Worker.Shutdown
import Courier.Worker.Thread
namespace Courier

/-- A worker and the calls that are made to it. -/
structure Session (φ : Type) where
  worker : Worker φ
  calls : List Call

/-- What happens next in a session. -/
inductive Move (ρ : Type)
  /-- An envelope is offered. -/
  | enqueue (envelope : Envelope)
  /-- A flush is asked for, by a caller that waits for so many seconds. -/
  | flush (seconds : Binary64)
  /-- A shutdown is asked for, by a caller that waits for so many seconds. -/
  | shutdown (seconds : Binary64)
  /-- A call takes its next step. -/
  | proceed (call : Nat)
  /-- The caller no longer waits. -/
  | giveUp (call : Nat)
  /-- The thread takes its next step. -/
  | work
  /-- Something comes of what is on its way. -/
  | receive (reply : ρ)
  /-- The clocks go on. -/
  | tick (clock : Clock)
  /-- The limits change. -/
  | relimit (limits : Limits Binary64)

namespace Session

variable {φ ρ : Type}

/-- A session in which no call has been made. -/
def opened (worker : Worker φ) : Session φ :=
  ⟨worker, []⟩

/-- Makes a call. -/
def ask (call : Call) (session : Session φ) : Session φ :=
  { session with calls := session.calls ++ [call] }

/-- Puts the next state of a call in its place. -/
def settle (call : Nat) (ending : Worker φ × Call) (session : Session φ) : Session φ :=
  ⟨ending.1, session.calls.set call ending.2⟩

/-- The next step of a call; nothing while it has to wait. -/
def stepOf (number : Nat) (call : Call) (worker : Worker φ) : Option (Worker φ × Call) :=
  match call with
  | .enqueue progress =>
    (worker.proceedOffer progress).map fun (worker, progress) => (worker, .enqueue progress)
  | .flush seconds progress =>
    (worker.proceedFlush number progress).map fun (worker, progress) =>
      (worker, .flush seconds progress)
  | .shutdown seconds progress =>
    (worker.proceedShutdown number progress).map fun (worker, progress) =>
      (worker, .shutdown seconds progress)

/-- What a call comes to if its caller gives up; nothing if it does not wait. -/
def endOf (number : Nat) (call : Call) (worker : Worker φ) : Option (Worker φ × Call) :=
  match call with
  | .enqueue _ => none
  | .flush seconds progress =>
    (worker.giveUpFlush number seconds progress).map fun (worker, progress) =>
      (worker, .flush seconds progress)
  | .shutdown seconds progress =>
    (worker.giveUpShutdown number seconds progress).map fun (worker, progress) =>
      (worker, .shutdown seconds progress)

/-- A call takes its next step. -/
def proceed (number : Nat) (session : Session φ) : Option (Session φ) := do
  let call ← session.calls[number]?
  let ending ← stepOf number call session.worker
  return session.settle number ending

/-- A caller gives up. -/
def giveUp (number : Nat) (session : Session φ) : Option (Session φ) := do
  let call ← session.calls[number]?
  let ending ← endOf number call session.worker
  return session.settle number ending

/-- Changes the depot of the worker. -/
def tend (change : Depot → Depot) (session : Session φ) : Session φ :=
  { session with worker := { session.worker with depot := change session.worker.depot } }

/-- The session after a move, if the move can be made. -/
def step (submitter : Submitter φ ρ) (move : Move ρ) (session : Session φ) : Option (Session φ) :=
  match move with
  | .enqueue envelope => some (session.ask (.enqueue (.made envelope)))
  | .flush seconds => some (session.ask (.flush seconds .asked))
  | .shutdown seconds => some (session.ask (.shutdown seconds .asked))
  | .proceed number => session.proceed number
  | .giveUp number => session.giveUp number
  | .work => (session.worker.work submitter).map fun worker => { session with worker }
  | .receive reply =>
    (session.worker.receive submitter reply).map fun worker => { session with worker }
  | .tick clock => some (session.tend fun depot => { depot with clock })
  | .relimit limits => some (session.tend fun depot => { depot with limits })

/-- The session after several moves, if each of them can be made. -/
def run (submitter : Submitter φ ρ) : List (Move ρ) → Session φ → Option (Session φ)
  | [], session => some session
  | move :: moves, session => (session.step submitter move).bind (run submitter moves)

theorem run_append (submitter : Submitter φ ρ) (first second : List (Move ρ))
    (session : Session φ) :
    run submitter (first ++ second) session =
      (run submitter first session).bind (run submitter second) := by
  induction first generalizing session with
  | nil => rfl
  | cons move moves ih =>
    rw [List.cons_append, run, run]
    cases session.step submitter move with
    | none => rfl
    | some next => exact ih next

theorem step_calls_length {submitter : Submitter φ ρ} {move : Move ρ} {session after : Session φ}
    (moved : session.step submitter move = some after) :
    session.calls.length ≤ after.calls.length := by
  have asked (call : Call) : session.calls.length ≤ (session.ask call).calls.length := by
    simp [ask]
  cases move with
  | enqueue envelope =>
    cases moved
    exact asked _
  | flush seconds =>
    cases moved
    exact asked _
  | shutdown seconds =>
    cases moved
    exact asked _
  | proceed number =>
    obtain ⟨call, -, ending⟩ := Option.bind_eq_some_iff.mp moved
    obtain ⟨pair, -, same⟩ := Option.bind_eq_some_iff.mp ending
    cases same
    simp [settle]
  | giveUp number =>
    obtain ⟨call, -, ending⟩ := Option.bind_eq_some_iff.mp moved
    obtain ⟨pair, -, same⟩ := Option.bind_eq_some_iff.mp ending
    cases same
    simp [settle]
  | work =>
    obtain ⟨worker, -, same⟩ := Option.map_eq_some_iff.mp moved
    cases same
    exact Nat.le_refl _
  | receive reply =>
    obtain ⟨worker, -, same⟩ := Option.map_eq_some_iff.mp moved
    cases same
    exact Nat.le_refl _
  | tick clock =>
    cases moved
    exact Nat.le_refl _
  | relimit limits =>
    cases moved
    exact Nat.le_refl _

end Session

end Courier
