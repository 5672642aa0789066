/-
**Calls to a worker that is over.**

A shutdown of a worker that is stopped already, and a flush once the thread has ended, wait for
nothing. They tell whether the queue is empty. That is not quite whether anything is left to be
dealt with: a marker that nobody has taken out of the queue counts as if it were an envelope, and an
envelope that the thread has taken does not count. So nothing may be left, and the answer is no,
even after an answer of yes; and the answer can be yes although the thread holds an envelope, if no
shutdown has come to put its marker.

* `Worker.IsSpent`: nothing is left to be dealt with.
* `Session.Shut.step`: what the shutdowns of a session have brought about or found.
* `Session.queue_answers`: what is answered once a worker is over.
-/
import Courier.Proofs.Markers
namespace Courier

namespace Worker

variable {φ ρ : Type} {submitter : Submitter φ ρ} {worker after : Worker φ} {number : Nat}

/-! ### Nothing left -/

/-- No envelope waits, and the thread neither holds one nor has one on its way. -/
structure IsSpent (worker : Worker φ) : Prop where
  waiting : worker.waiting = []
  inHand : worker.stage.inHand = []
  underWay : worker.stage.underWay = []

theorem IsDry.isSpent (dry : worker.IsDry) : worker.IsSpent :=
  ⟨dry.waiting, dry.inHand, dry.underWay⟩

/-- A thread that has ended holds nothing. -/
theorem isSpent_iff_of_dead (dead : worker.isAlive = false) :
    worker.IsSpent ↔ worker.waiting = [] := by
  have ended := stage_of_not_isAlive dead
  refine ⟨IsSpent.waiting, fun waiting => ⟨waiting, ?_, ?_⟩⟩
  · rw [ended]
    rfl
  · rw [ended]
    rfl

end Worker

/-! ### Any number of shutdowns -/

/-- The shutdown has brought about what it should, or it was a repeated one, and has told of an
empty queue only where no envelope waits. -/
def Shutdown.Settles {φ : Type} (worker : Worker φ) (progress : Shutdown) : Prop :=
  progress.Brings worker ∨ ∃ answer, progress = .ended (.ok answer) ∧ worker.phase = .stopped ∧
    (answer = true → worker.waiting = [])

theorem Worker.Change.settles {φ ρ : Type} {submitter : Submitter φ ρ} {worker after : Worker φ}
    {progress : Shutdown} (change : worker.Change submitter after)
    (settles : progress.Settles worker) : progress.Settles after := by
  rcases settles with brings | ⟨answer, rfl, stopped, empty⟩
  · exact .inl (change.brings brings)
  · have halted : worker.phase ≠ .running := stopped ▸ nofun
    refine .inr ⟨answer, rfl, Phase.stopped_of_forward change.forward stopped, fun yes => ?_⟩
    have shorter := (change.halted halted).2.2
    rw [empty yes] at shorter
    exact List.suffix_nil.mp shorter

theorem Worker.ShutdownRule.settles {φ : Type} {worker after : Worker φ} {number : Nat}
    {progress next : Shutdown} (rule : worker.ShutdownRule number progress after next)
    (seals : worker.Seals number) (settles : progress.Settles worker) : next.Settles after := by
  rcases settles with brings | ⟨answer, rfl, -, -⟩
  · by_cases again : progress = .asked ∧ worker.phase = .stopped
    · obtain ⟨rfl, stopped⟩ := again
      cases rule with
      | repeated stopped =>
        exact .inr ⟨_, rfl, stopped, fun yes => (Worker.isEmpty_queue_iff.mp yes).1⟩
      | drain live => exact absurd stopped live
    · exact .inl (rule.brings seals brings fun asked stopped => again ⟨asked, stopped⟩)
  · cases rule

namespace Session

variable {φ ρ : Type} {submitter : Submitter φ ρ} {start session after : Session φ}
  {moves : List (Move ρ)} {move : Move ρ} {number : Nat}

/-- Every shutdown seals the queue with its marker, and has settled what it should. -/
structure Shut (session : Session φ) : Prop where
  marked : session.Marked
  seals : ∀ (number : Nat) (seconds : Binary64) (progress : Shutdown),
    session.calls[number]? = some (.shutdown seconds progress) → session.worker.Seals number
  settles : ∀ (number : Nat) (seconds : Binary64) (progress : Shutdown),
    session.calls[number]? = some (.shutdown seconds progress) → progress.Settles session.worker

theorem Shut.halted (shut : session.Shut) {seconds : Binary64} {flush : Flush}
    (found : session.calls[number]? = some (.shutdown seconds (.flushing flush))) :
    session.worker.phase ≠ .running := by
  rcases shut.settles number seconds _ found with brings | ⟨answer, other, -⟩
  · exact brings
  · cases other

theorem Shut.seals_kept (shut : session.Shut) (moved : session.step submitter move = some after)
    {seconds : Binary64} {progress : Shutdown}
    (found : session.calls[number]? = some (.shutdown seconds progress)) :
    after.worker.Seals number := by
  refine (shut.seals number seconds progress found).change (change_of_step moved) fun queued => ?_
  rcases (stepRule_of_step moved).marker queued with before | ⟨seconds, flush, other⟩ |
    ⟨seconds, flush, same⟩
  · exact .inl before
  · cases found.symm.trans other
  · exact .inr (shut.halted same)

theorem Shut.step (shut : session.Shut) (moved : session.step submitter move = some after) :
    after.Shut := by
  have change := change_of_step moved
  refine ⟨shut.marked.step moved, fun number seconds next found => ?_,
    fun number seconds next found => ?_⟩
  · rcases (stepRule_of_step moved).shutdown_cases found with same | ⟨rfl, -, quiet⟩ |
      ⟨progress, before, -⟩
    · exact shut.seals_kept moved same
    · rw [quiet]
      exact .of_unmarked fun marked => Nat.lt_irrefl _ (shut.marked.known _ marked)
    · exact shut.seals_kept moved before
  · rcases (stepRule_of_step moved).shutdown_cases found with same | ⟨rfl, rfl, quiet⟩ |
      ⟨progress, before, rule⟩
    · exact change.settles (shut.settles number seconds next same)
    · exact .inl trivial
    · exact rule.settles (shut.seals _ _ _ before) (shut.settles _ _ _ before)

variable {capacity : Int} {limited : Bool} {depot : Depot}

theorem shut_opened : (opened (.started capacity limited depot) : Session φ).Shut where
  marked := marked_opened
  seals number seconds progress found := by cases found
  settles number seconds progress found := by cases found

theorem shut_of_run
    (ran : run submitter moves (opened (.started capacity limited depot)) = some session) :
    session.Shut := by
  refine run_induction (motive := fun _ session => session.Shut) shut_opened ?_ moves session ran
  exact fun moves session move after ran moved shut => shut.step moved

/-! ### What is answered -/

/-- A shutdown of a stopped worker is over at once. -/
theorem proceed_of_stopped (submitter : Submitter φ ρ) {seconds : Binary64}
    (stopped : session.worker.phase = .stopped)
    (found : session.calls[number]? = some (.shutdown seconds .asked)) :
    session.step submitter (.proceed number) = some ⟨session.worker, session.calls.set number
      (.shutdown seconds (.ended (.ok session.worker.queue.isEmpty)))⟩ := by
  refine proceed_of_stepOf submitter found ?_
  unfold stepOf Worker.proceedShutdown
  simp only
  rw [if_pos stopped]
  rfl

/-- So is a flush once the thread has ended. -/
theorem proceed_of_dead (submitter : Submitter φ ρ) {seconds : Binary64}
    (dead : session.worker.isAlive = false)
    (found : session.calls[number]? = some (.flush seconds .asked)) :
    session.step submitter (.proceed number) = some ⟨session.worker, session.calls.set number
      (.flush seconds (.ended (.ok session.worker.queue.isEmpty)))⟩ := by
  refine proceed_of_stepOf submitter found ?_
  unfold stepOf Worker.proceedFlush
  simp only
  rw [if_neg (by simp [dead])]
  rfl

/-- A shutdown whose marker has been put, but is not queued, has been reached by the thread, which
left nothing behind. -/
theorem Shut.isSpent (shut : session.Shut) {seconds : Binary64} {progress : Shutdown}
    (found : session.calls[number]? = some (.shutdown seconds progress))
    (marked : session.worker.HasMarker number) (markers : session.worker.markers = []) :
    session.worker.IsSpent := by
  have taken : session.worker.Passes number := by
    refine marked.resolve_left fun queued => ?_
    have member := Worker.mem_markers_iff.mpr queued
    rw [markers] at member
    cases member
  exact ((shut.seals number seconds progress found).dry taken).isSpent

/-- What is answered once a worker is over. -/
structure AnswersByQueue (submitter : Submitter φ ρ) (session : Session φ) : Prop where
  /-- A shutdown of a worker that is stopped is over at once and changes nothing. It tells whether
  neither an envelope nor a marker is queued. -/
  shutdown : session.worker.phase = .stopped → ∀ (number : Nat) (seconds : Binary64),
    session.calls[number]? = some (.shutdown seconds .asked) →
    ∃ answer : Bool, session.step submitter (.proceed number) = some
        ⟨session.worker, session.calls.set number (.shutdown seconds (.ended (.ok answer)))⟩ ∧
      (answer = true ↔ session.worker.waiting = [] ∧ session.worker.markers = [])
  /-- So is a flush once the thread has ended. It tells whether nothing is left and no marker is
  queued. -/
  flush : session.worker.isAlive = false → ∀ (number : Nat) (seconds : Binary64),
    session.calls[number]? = some (.flush seconds .asked) →
    ∃ answer : Bool, session.step submitter (.proceed number) = some
        ⟨session.worker, session.calls.set number (.flush seconds (.ended (.ok answer)))⟩ ∧
      (answer = true ↔ session.worker.IsSpent ∧ session.worker.markers = [])
  /-- Where the queue of a stopped worker is empty nothing is left, unless its thread is at work and
  no shutdown has put its marker. -/
  empty : session.worker.phase = .stopped → session.worker.waiting = [] →
    session.worker.markers = [] → session.worker.IsSpent ∨ (session.worker.isAlive ∧
      ∀ (number : Nat) (seconds : Binary64) (progress : Shutdown),
        session.calls[number]? = some (.shutdown seconds progress) →
        ¬ session.worker.HasMarker number)
  /-- Once a shutdown has answered yes, the worker is stopped and no envelope waits. So the next one
  answers yes exactly if no marker is queued. -/
  again : ∀ (number : Nat) (seconds : Binary64),
    session.calls[number]? = some (.shutdown seconds (.ended (.ok true))) →
    session.worker.phase = .stopped ∧ session.worker.waiting = []

/-- **A worker that is over answers by its queue.** Whatever a worker has been through, a shutdown
once it is stopped, and a flush once its thread has ended, wait for nothing and tell whether the
queue is empty of envelopes and of markers. -/
theorem queue_answers (submitter : Submitter φ ρ) (capacity : Int) (limited : Bool)
    (depot : Depot) (moves : List (Move ρ)) (session : Session φ)
    (ran : run submitter moves (opened (.started capacity limited depot)) = some session) :
    AnswersByQueue submitter session := by
  have shut := shut_of_run ran
  refine ⟨fun stopped number seconds found => ?_, fun dead number seconds found => ?_,
    fun stopped waiting markers => ?_, fun number seconds found => ?_⟩
  · exact ⟨_, proceed_of_stopped submitter stopped found, Worker.isEmpty_queue_iff⟩
  · refine ⟨_, proceed_of_dead submitter dead found, ?_⟩
    rw [Worker.isSpent_iff_of_dead dead]
    exact Worker.isEmpty_queue_iff
  · by_cases alive : session.worker.isAlive
    · by_cases put : ∃ (number : Nat) (seconds : Binary64) (progress : Shutdown),
          session.calls[number]? = some (.shutdown seconds progress) ∧
          session.worker.HasMarker number
      · obtain ⟨number, seconds, progress, found, marked⟩ := put
        exact .inl (shut.isSpent found marked markers)
      · exact .inr ⟨alive, fun number seconds progress found marked =>
          put ⟨number, seconds, progress, found, marked⟩⟩
    · exact .inl ((Worker.isSpent_iff_of_dead (eq_false_of_ne_true alive)).mpr waiting)
  · rcases shut.settles number seconds _ found with brings | ⟨answer, same, stopped, empty⟩
    · exact ⟨brings.1, (brings.2 rfl).waiting⟩
    · cases same
      exact ⟨stopped, empty rfl⟩

/-- A shutdown is given up before it has put its marker, and the next one answers yes while the
thread holds an envelope. -/
example : (run breaking
    [.enqueue (event "only"), .proceed 0, .proceed 0, .proceed 0, .shutdown 0, .proceed 1,
      .proceed 1, .giveUp 1, .work, .work, .proceed 1, .shutdown 0, .proceed 2]
    (opened (.started 1 true (.opened ⟨1000, 0⟩)))).map
      (fun session => (session.calls[2]?.bind Call.result?, session.worker.phase,
        session.worker.stage.inHand.length)) = some (some (.ok true), .stopped, 1) := by
  decide +kernel

/-- A flush finds the thread alive. A shutdown drains the worker and stops it, and the thread ends,
before the flush puts its marker. Then the worker is shut down again. -/
def shutTwice : List (Move Unit) :=
  [.flush 1, .proceed 0, .shutdown 1, .proceed 1, .proceed 1, .proceed 1, .work, .work, .proceed 1,
    .proceed 1, .work, .work, .proceed 0, .proceed 1, .shutdown 1, .proceed 2]

/-- The first shutdown answers yes, and the second answers no. -/
theorem shut_twice_answers :
    ∃ session, run breaking shutTwice (opened (.started 2 true (.opened ⟨1000, 0⟩))) =
        some session ∧
      session.calls.map Call.result? = [none, some (.ok true), some (.ok false)] ∧
      session.worker.markers = [0] ∧ AnswersByQueue breaking session := by
  have goes : (run breaking shutTwice (opened (.started 2 true (.opened ⟨1000, 0⟩)))).map
      (fun session => (session.calls.map Call.result?, session.worker.markers)) =
        some ([none, some (.ok true), some (.ok false)], [0]) := by
    decide +kernel
  obtain ⟨session, ran, shape⟩ := Option.map_eq_some_iff.mp goes
  obtain ⟨results, markers⟩ := Prod.mk.inj shape
  exact ⟨session, ran, results, markers, queue_answers breaking 2 true _ _ session ran⟩

/-- The only envelope is delivered. A shutdown is given up before the thread reaches its marker, and
the worker is about to be shut down again. -/
def shutAfterAll : List (Move Unit) :=
  [.enqueue (event "only"), .proceed 0, .proceed 0, .proceed 0, .work, .work, .work, .work,
    .receive (), .shutdown 0, .proceed 1, .proceed 1, .proceed 1, .giveUp 1, .proceed 1, .giveUp 1,
    .shutdown 0]

/-- Nothing is left, the worker is stopped, and the repeated shutdown answers no. -/
theorem shut_after_all_denied :
    ∃ moment session,
      run breaking shutAfterAll (opened (.started 2 true (.opened ⟨1000, 0⟩))) = some moment ∧
      moment.worker.phase = .stopped ∧ moment.worker.IsSpent ∧
      moment.step breaking (.proceed 2) = some session ∧
      session.calls[2]?.bind Call.result? = some (.ok false) := by
  have goes : (run breaking shutAfterAll (opened (.started 2 true (.opened ⟨1000, 0⟩)))).bind
      (fun moment => (moment.step breaking (.proceed 2)).map fun session =>
        ([moment.worker.waiting.length, moment.worker.stage.inHand.length,
          moment.worker.stage.underWay.length], moment.worker.phase,
          session.calls[2]?.bind Call.result?)) =
        some ([0, 0, 0], .stopped, some (.ok false)) := by
    decide +kernel
  obtain ⟨moment, ran, last⟩ := Option.bind_eq_some_iff.mp goes
  obtain ⟨session, moved, shape⟩ := Option.map_eq_some_iff.mp last
  simp only [Prod.mk.injEq, List.cons.injEq, List.length_eq_zero_iff, and_true] at shape
  obtain ⟨⟨waiting, inHand, underWay⟩, stopped, answer⟩ := shape
  exact ⟨moment, session, ran, stopped, ⟨waiting, inHand, underWay⟩, moved, answer⟩

end Session

end Courier
