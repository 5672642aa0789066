/-
**What a shutdown leaves behind.**

A shutdown stops the worker whether its flush succeeds or not, and also where waiting for the thread
fails. It does not where the flush itself fails: a caller that would wait for longer than a clock
can count is refused as soon as its flush has to wait, and the failure goes past the step that stops
the worker. The worker is left draining. It accepts nothing, nothing stops it unless it is shut down
again, and its thread asks for tasks that never come.

* `Worker.giveUpShutdown_error`: how giving up a shutdown can fail.
* `Session.shutdown_moved`: what a move does to a shutdown.
* `Session.error_of_step`: a shutdown fails only as its caller gives up.
* `Session.draining_of_run`: a worker that drains without a shutdown goes on to do so.
* `Session.shutdowns_end`: in which phase a shutdown leaves the worker.
-/
import Courier.Proofs.ClockOrder
import Courier.Proofs.RepeatedAnswers
namespace Courier

namespace Worker

variable {φ : Type} {worker after : Worker φ} {number : Nat} {seconds : Binary64}
  {failure : Failure}

/-! ### Failures -/

/-- A flush does not fail by a step of its own. -/
theorem proceedFlush_ne_error {flush : Flush}
    (step : worker.proceedFlush number flush = some (after, .ended (.error failure))) : False := by
  cases flush with
  | asked =>
    unfold proceedFlush at step
    simp only at step
    split at step <;> cases step
  | placing =>
    unfold proceedFlush at step
    simp only at step
    split at step <;> cases step
  | waiting =>
    unfold proceedFlush at step
    simp only at step
    split at step <;> cases step
  | ended result => cases step

/-- Giving up a flush fails only where it has to wait for longer than a clock can count. -/
theorem giveUpFlush_error {flush : Flush}
    (step : worker.giveUpFlush number seconds flush = some (after, .ended (.error failure))) :
    after = worker ∧ worker.Awaits number flush ∧ longestWait < seconds ∧ failure = .tooLarge := by
  have long : longestWait < seconds := by
    cases flush with
    | placing =>
      unfold giveUpFlush at step
      simp only at step
      split at step
      · cases step
      split at step
      · rename_i long
        exact long
      · cases step
    | waiting =>
      unfold giveUpFlush at step
      simp only at step
      split at step
      · cases step
      split at step
      · rename_i long
        exact long
      · cases step
    | asked => cases step
    | ended result => cases step
  cases flushRule_of_giveUp step with
  | refuse waits => exact ⟨rfl, waits, long, rfl⟩

/-- And there it does. -/
theorem giveUpFlush_of_long {flush : Flush} (waits : worker.Awaits number flush)
    (long : longestWait < seconds) : worker.giveUpFlush number seconds flush =
      some (worker, .ended (.error .tooLarge)) := by
  have counted : seconds ≠ .nan := ((Binary64.lt_iff _ _).mp long).2.1
  cases flush with
  | placing =>
    have full : worker.hasRoom = false := waits
    unfold giveUpFlush
    simp only
    rw [if_neg (by simp [full, counted]), if_pos long]
  | waiting =>
    unfold giveUpFlush
    simp only
    rw [if_neg (fun reached => waits (List.contains_iff_mem.mp reached)), if_pos long]
  | asked => exact waits.elim
  | ended result => exact waits.elim

/-- A shutdown goes on to fail after its flush only where the flush failed. -/
theorem afterFlush_eq_error {flush : Flush}
    (failed : afterFlush flush = .ended (.error failure)) : flush = .ended (.error failure) := by
  cases flush with
  | ended result =>
    cases result with
    | ok answer => cases failed
    | error other =>
      cases failed
      rfl
  | _ => cases failed

theorem proceedShutdown_ne_error {progress : Shutdown}
    (step : worker.proceedShutdown number progress = some (after, .ended (.error failure))) :
    False := by
  cases progress with
  | asked =>
    unfold proceedShutdown at step
    simp only at step
    split at step <;> cases step
  | flushing flush =>
    obtain ⟨⟨moved, next⟩, inner, same⟩ := Option.map_eq_some_iff.mp step
    obtain ⟨rfl, failed⟩ := Prod.mk.inj same
    cases afterFlush_eq_error failed
    exact proceedFlush_ne_error inner
  | flushed answer => cases step
  | joining answer =>
    unfold proceedShutdown at step
    simp only at step
    split at step <;> cases step
  | ended result => cases step

/-- Giving up a shutdown fails where its flush does, or while the thread is awaited; it leaves the
worker as it is. -/
theorem giveUpShutdown_error {progress : Shutdown}
    (step : worker.giveUpShutdown number seconds progress = some (after, .ended (.error failure))) :
    after = worker ∧ ((∃ answer, progress = .joining answer) ∨ ∃ flush, progress = .flushing flush ∧
      worker.Awaits number flush ∧ longestWait < seconds ∧ failure = .tooLarge) := by
  cases progress with
  | flushing flush =>
    obtain ⟨⟨moved, next⟩, inner, same⟩ := Option.map_eq_some_iff.mp step
    obtain ⟨rfl, failed⟩ := Prod.mk.inj same
    cases afterFlush_eq_error failed
    obtain ⟨same, fails⟩ := giveUpFlush_error inner
    exact ⟨same, .inr ⟨flush, rfl, fails⟩⟩
  | joining answer =>
    refine ⟨?_, .inl ⟨answer, rfl⟩⟩
    unfold giveUpShutdown at step
    simp only at step
    split at step
    · cases step
    split at step
    · cases step
      rfl
    split at step
    · cases step
      rfl
    · cases step
  | asked => cases step
  | flushed answer => cases step
  | ended result => cases step

/-! ### The thread without a task -/

section Thread

variable {ρ : Type} (submitter : Submitter φ ρ)

theorem work_empty (idle : worker.stage = .idle) (empty : worker.queue = []) :
    worker.work submitter = some { worker with stage := .starved } := by
  unfold work
  rw [idle, empty]

theorem work_live (starved : worker.stage = .starved) (live : worker.phase ≠ .stopped) :
    worker.work submitter = some { worker with stage := .idle } := by
  unfold work
  rw [starved]
  exact if_neg live

end Thread

end Worker

namespace Session

variable {φ ρ : Type} {submitter : Submitter φ ρ} {start session after : Session φ}
  {moves : List (Move ρ)} {move : Move ρ} {number : Nat} {seconds : Binary64} {failure : Failure}

/-- A shutdown is as it was, or has been asked for, or has taken a step, or its caller gives up. -/
theorem shutdown_moved {next : Shutdown} (moved : session.step submitter move = some after)
    (found : after.calls[number]? = some (.shutdown seconds next)) :
    session.calls[number]? = some (.shutdown seconds next) ∨ next = .asked ∨
      (∃ progress, session.calls[number]? = some (.shutdown seconds progress) ∧
        session.worker.proceedShutdown number progress = some (after.worker, next)) ∨
      (move = .giveUp number ∧ ∃ progress,
        session.calls[number]? = some (.shutdown seconds progress) ∧
        session.worker.giveUpShutdown number seconds progress = some (after.worker, next)) := by
  cases move with
  | enqueue envelope =>
    cases moved
    rcases found_of_ask found with old | ⟨-, same⟩
    · exact .inl old
    · cases same
  | flush time =>
    cases moved
    rcases found_of_ask found with old | ⟨-, same⟩
    · exact .inl old
    · cases same
  | shutdown time =>
    cases moved
    rcases found_of_ask found with old | ⟨-, same⟩
    · exact .inl old
    · cases same
      exact .inr (.inl rfl)
  | proceed other =>
    obtain ⟨call, worker, later, before, stepped, rfl⟩ := proceed_eq_some moved
    rcases found_of_set found with old | ⟨rfl, rfl⟩
    · exact .inl old
    cases call with
    | shutdown time progress =>
      obtain ⟨pair, inner, same⟩ := Option.map_eq_some_iff.mp stepped
      cases same
      exact .inr (.inr (.inl ⟨progress, before, inner⟩))
    | _ =>
      obtain ⟨pair, -, same⟩ := Option.map_eq_some_iff.mp stepped
      cases same
  | giveUp other =>
    obtain ⟨call, worker, later, before, ended, rfl⟩ := giveUp_eq_some moved
    rcases found_of_set found with old | ⟨rfl, rfl⟩
    · exact .inl old
    cases call with
    | enqueue offer => cases ended
    | flush time flush =>
      obtain ⟨pair, -, same⟩ := Option.map_eq_some_iff.mp ended
      cases same
    | shutdown time progress =>
      obtain ⟨pair, inner, same⟩ := Option.map_eq_some_iff.mp ended
      cases same
      exact .inr (.inr (.inr ⟨rfl, progress, before, inner⟩))
  | work =>
    obtain ⟨worker, -, same⟩ := Option.map_eq_some_iff.mp moved
    cases same
    exact .inl found
  | receive reply =>
    obtain ⟨worker, -, same⟩ := Option.map_eq_some_iff.mp moved
    cases same
    exact .inl found
  | tick clock =>
    cases moved
    exact .inl found
  | relimit limits =>
    cases moved
    exact .inl found

/-- A shutdown fails only as its caller gives up. -/
theorem error_of_step (moved : session.step submitter move = some after)
    (found : after.calls[number]? = some (.shutdown seconds (.ended (.error failure)))) :
    session.calls[number]? = some (.shutdown seconds (.ended (.error failure))) ∨
      (move = .giveUp number ∧ ∃ progress,
        session.calls[number]? = some (.shutdown seconds progress) ∧
        session.worker.giveUpShutdown number seconds progress =
          some (after.worker, .ended (.error failure))) := by
  rcases shutdown_moved moved found with old | asked | ⟨progress, -, step⟩ | gaveUp
  · exact .inl old
  · cases asked
  · exact (Worker.proceedShutdown_ne_error step).elim
  · exact .inr gaveUp

/-! ### Threads without a task -/

/-- The thread of a stopped worker ends when it finds the queue empty. -/
theorem run_stopped (submitter : Submitter φ ρ) (stopped : session.worker.phase = .stopped)
    (idle : session.worker.stage = .idle) (empty : session.worker.queue = []) :
    run submitter [.work, .work] session =
      some { session with worker := { session.worker with stage := .starved }.finish } := by
  have ends : Worker.work submitter { session.worker with stage := .starved } =
      some (Worker.finish { session.worker with stage := .starved }) :=
    Worker.work_stopped submitter rfl stopped
  show ((session.worker.work submitter).map _).bind _ = _
  rw [Worker.work_empty submitter idle empty]
  show ((Worker.work submitter _).map _).bind _ = _
  rw [ends]
  rfl

/-- Otherwise it asks for a task again. -/
theorem run_live (submitter : Submitter φ ρ) (live : session.worker.phase ≠ .stopped)
    (idle : session.worker.stage = .idle) (empty : session.worker.queue = []) :
    run submitter [.work, .work] session = some session := by
  have again : Worker.work submitter { session.worker with stage := .starved } =
      some { session.worker with stage := .idle } :=
    Worker.work_live submitter rfl live
  show ((session.worker.work submitter).map _).bind _ = _
  rw [Worker.work_empty submitter idle empty]
  show ((Worker.work submitter _).map _).bind _ = _
  rw [again]
  show some { session with worker := { session.worker with stage := .idle } } = some session
  rw [← idle]

/-! ### Workers that drain without a shutdown -/

/-- Every shutdown that was asked for is over. -/
def ShutdownsOver (session : Session φ) : Prop :=
  ∀ (number : Nat) (seconds : Binary64) (progress : Shutdown),
    session.calls[number]? = some (.shutdown seconds progress) →
      ∃ result, progress = .ended result

theorem ShutdownsOver.step (finished : session.ShutdownsOver)
    (moved : session.step submitter move = some after)
    (other : ∀ seconds, move ≠ .shutdown seconds) : after.ShutdownsOver := by
  have rule := stepRule_of_step moved
  intro number seconds next found
  rcases rule.shutdown_cases found with same | ⟨rfl, -, -⟩ | ⟨progress, before, step⟩
  · exact finished number seconds next same
  · -- The last call is a shutdown: it has been asked for by this move.
    have last : after.kinds[session.kinds.length]? = some .shutdown := by
      unfold kinds
      rw [List.length_map, List.getElem?_map, found]
      rfl
    rw [rule.kinds, List.getElem?_append_right (Nat.le_refl _), Nat.sub_self] at last
    cases move with
    | shutdown seconds => exact absurd rfl (other seconds)
    | _ => cases last
  · obtain ⟨result, rfl⟩ := finished number seconds progress before
    cases step

/-- Calls that all have a result are over. -/
theorem shutdownsOver_of_results
    (ended : ∀ result ∈ session.calls.map Call.result?, result.isSome) :
    session.ShutdownsOver := by
  intro number seconds progress found
  have answered := ended _ (List.mem_map_of_mem (List.mem_of_getElem? found))
  cases progress with
  | ended result => exact ⟨result, rfl⟩
  | _ => cases answered

/-- A worker that drains while no shutdown is under way goes on to do so. -/
theorem draining_of_run (finished : start.ShutdownsOver) (draining : start.worker.phase = .draining)
    (calm : ∀ seconds, .shutdown seconds ∉ moves)
    (ran : run submitter moves start = some session) : session.worker.phase = .draining := by
  have goes : (∀ seconds, .shutdown seconds ∉ moves) →
      session.ShutdownsOver ∧ session.worker.phase = .draining := by
    refine run_induction (motive := fun moves session => (∀ seconds, .shutdown seconds ∉ moves) →
      session.ShutdownsOver ∧ session.worker.phase = .draining) (fun _ => ⟨finished, draining⟩) ?_
      moves session ran
    intro moves session move after ran moved ih calm
    obtain ⟨finished, draining⟩ := ih fun seconds member =>
      calm seconds (List.mem_append_left _ member)
    have other (seconds : Binary64) : move ≠ .shutdown seconds := by
      rintro rfl
      exact calm seconds (List.mem_append_right _ List.mem_cons_self)
    refine ⟨finished.step moved other, ?_⟩
    have forward := (change_of_step moved).forward
    rw [draining] at forward
    cases phase : after.worker.phase with
    | running =>
      rw [phase] at forward
      cases forward
    | draining => rfl
    | stopped =>
      obtain ⟨number, seconds, answer, found, -⟩ :=
        (stepRule_of_step moved).stops (draining ▸ nofun) phase
      obtain ⟨result, ended⟩ := finished number seconds _ found
      cases ended
  exact (goes calm).2

/-! ### The end of a shutdown -/

/-- At this moment the flush of the shutdown has to wait, and its caller would wait for longer than
a clock can count. Giving up fails, which ends the shutdown and changes nothing in the worker. -/
structure RefusedAt (submitter : Submitter φ ρ) (number : Nat) (seconds : Binary64)
    (moment : Session φ) : Prop where
  long : Worker.longestWait < seconds
  waits : ∃ flush, moment.calls[number]? = some (.shutdown seconds (.flushing flush)) ∧
    moment.worker.Awaits number flush
  refused : moment.step submitter (.giveUp number) = some
    ⟨moment.worker, moment.calls.set number (.shutdown seconds (.ended (.error .tooLarge)))⟩

/-- A flush that has to wait for so long is refused whenever its caller gives up. -/
theorem refusedAt_of_waits (submitter : Submitter φ ρ) {flush : Flush}
    (long : Worker.longestWait < seconds)
    (found : session.calls[number]? = some (.shutdown seconds (.flushing flush)))
    (waits : session.worker.Awaits number flush) : RefusedAt submitter number seconds session where
  long := long
  waits := ⟨flush, found, waits⟩
  refused := by
    refine giveUp_of_endOf submitter found ?_
    unfold endOf Worker.giveUpShutdown
    simp only
    rw [Worker.giveUpFlush_of_long waits long]
    rfl

/-- A shutdown that failed has stopped the worker, or its flush was refused. -/
def FailedFor (submitter : Submitter φ ρ) (moments : List (Entry φ ρ)) (session : Session φ)
    (number : Nat) (seconds : Binary64) (failure : Failure) : Prop :=
  session.worker.phase = .stopped ∨ (failure = .tooLarge ∧
    ∃ moment, (moment, .giveUp number) ∈ moments ∧ RefusedAt submitter number seconds moment)

theorem failedFor_of_run {capacity : Int} {limited : Bool} {depot : Depot}
    (ran : run submitter moves (opened (.started capacity limited depot)) = some session)
    (found : session.calls[number]? = some (.shutdown seconds (.ended (.error failure)))) :
    FailedFor submitter (timeline submitter moves (opened (.started capacity limited depot)))
      session number seconds failure := by
  refine run_induction (motive := fun moves session => ∀ number seconds failure,
    session.calls[number]? = some (.shutdown seconds (.ended (.error failure))) →
      FailedFor submitter (timeline submitter moves (opened (.started capacity limited depot)))
        session number seconds failure) ?_ ?_ moves session ran number seconds failure found
  · intro number seconds failure found
    cases found
  intro moves session move after ran moved ih number seconds failure found
  rw [timeline_snoc ran moved]
  rcases error_of_step moved found with same | ⟨rfl, progress, before, fails⟩
  · refine (ih number seconds failure same).imp ?_ ?_
    · exact Phase.stopped_of_forward (change_of_step moved).forward
    · exact fun ⟨large, moment, member, refused⟩ =>
        ⟨large, moment, List.mem_append_left _ member, refused⟩
  obtain ⟨still, ⟨answer, rfl⟩ | ⟨flush, rfl, waits, long, large⟩⟩ :=
    Worker.giveUpShutdown_error fails
  · left
    rw [still]
    rcases (shut_of_run ran).settles number seconds _ before with brings | ⟨other, same, -⟩
    · exact brings.1
    · cases same
  · exact .inr ⟨large, session, List.mem_append_right _ List.mem_cons_self,
      refusedAt_of_waits submitter long before waits⟩

/-- In which phase the shutdowns of a run leave the worker. -/
structure EndsShutdowns (submitter : Submitter φ ρ) (moves : List (Move ρ))
    (start session : Session φ) : Prop where
  /-- A shutdown that returns has stopped the worker, whatever its flush came to. -/
  returned : ∀ (number : Nat) (seconds : Binary64) (answer : Bool),
    session.calls[number]? = some (.shutdown seconds (.ended (.ok answer))) →
    session.worker.phase = .stopped
  /-- So has a shutdown that fails, unless it was refused to wait for its flush. Then the worker
  drains, if no other shutdown has stopped it. -/
  raised : ∀ (number : Nat) (seconds : Binary64) (failure : Failure),
    session.calls[number]? = some (.shutdown seconds (.ended (.error failure))) →
    session.worker.phase = .stopped ∨ (session.worker.phase = .draining ∧ failure = .tooLarge ∧
      ∃ moment, (moment, .giveUp number) ∈ timeline submitter moves start ∧
        RefusedAt submitter number seconds moment)
  /-- It is refused whenever its flush has to wait, if the caller would wait for too long. -/
  refuses : ∀ (number : Nat) (seconds : Binary64) (flush : Flush),
    session.calls[number]? = some (.shutdown seconds (.flushing flush)) →
    session.worker.Awaits number flush → Worker.longestWait < seconds →
    RefusedAt submitter number seconds session
  /-- A worker that drains when all shutdowns are over drains until another one is asked for. -/
  stays : session.worker.phase = .draining → session.ShutdownsOver →
    ∀ later further, (∀ seconds, .shutdown seconds ∉ later) →
      run submitter later session = some further → further.worker.phase = .draining
  /-- A thread that finds the queue empty ends if the worker is stopped, and asks for a task again
  if it is not. -/
  thread : session.worker.stage = .idle → session.worker.queue = [] →
    run submitter [.work, .work] session =
      some (if session.worker.phase = .stopped then
        { session with worker := { session.worker with stage := .starved }.finish } else session)

/-- **A shutdown stops the worker, unless its flush is refused.** Whatever else is under way, a
shutdown that is over has stopped the worker, but for one that would have waited for its flush for
longer than a clock can count; that one leaves it as it was, and it drains until it is shut down
again. -/
theorem shutdowns_end (submitter : Submitter φ ρ) (capacity : Int) (limited : Bool)
    (depot : Depot) (moves : List (Move ρ)) (session : Session φ)
    (ran : run submitter moves (opened (.started capacity limited depot)) = some session) :
    EndsShutdowns submitter moves (opened (.started capacity limited depot)) session := by
  have shut := shut_of_run ran
  refine ⟨fun number seconds answer found => ?_, fun number seconds failure found => ?_,
    fun number seconds flush found waits long => refusedAt_of_waits submitter long found waits,
    fun draining finished later further calm goes => draining_of_run finished draining calm goes,
    fun idle empty => ?_⟩
  · rcases shut.settles number seconds _ found with brings | ⟨answer, -, stopped, -⟩
    · exact brings.1
    · exact stopped
  · rcases failedFor_of_run ran found with stopped | ⟨large, refused⟩
    · exact .inl stopped
    cases phase : session.worker.phase with
    | running =>
      rcases shut.settles number seconds _ found with brings | ⟨answer, same, -⟩
      · exact absurd phase brings
      · cases same
    | draining => exact .inr ⟨rfl, large, refused⟩
    | stopped => exact .inl rfl
  · split
    · rename_i stopped
      exact run_stopped submitter stopped idle empty
    · rename_i live
      exact run_live submitter live idle empty

/-- A worker is shut down with more time than a clock can count. The marker of the flush is queued,
and its caller gives up. -/
def shutForLong : List (Move Unit) :=
  [.shutdown 10000000000, .proceed 0, .proceed 0, .proceed 0, .giveUp 0]

/-- The shutdown fails, and a second one that has no time at all stops the worker. -/
theorem shut_for_long_ends :
    ∃ session, run breaking
        (shutForLong ++ [.shutdown 0, .proceed 1, .proceed 1, .proceed 1, .giveUp 1, .proceed 1])
        (opened (.started 2 true (.opened ⟨1000, 0⟩))) = some session ∧
      session.calls.map Call.result? = [some (.error .tooLarge), none] ∧
      session.worker.phase = .stopped ∧
      EndsShutdowns breaking
        (shutForLong ++ [.shutdown 0, .proceed 1, .proceed 1, .proceed 1, .giveUp 1, .proceed 1])
        (opened (.started 2 true (.opened ⟨1000, 0⟩))) session := by
  have goes : (run breaking
      (shutForLong ++ [.shutdown 0, .proceed 1, .proceed 1, .proceed 1, .giveUp 1, .proceed 1])
      (opened (.started 2 true (.opened ⟨1000, 0⟩)))).map
        (fun session => (session.calls.map Call.result?, session.worker.phase)) =
          some ([some (.error .tooLarge), none], .stopped) := by
    decide +kernel
  obtain ⟨session, ran, shape⟩ := Option.map_eq_some_iff.mp goes
  obtain ⟨results, stopped⟩ := Prod.mk.inj shape
  exact ⟨session, ran, results, stopped, shutdowns_end breaking 2 true _ _ session ran⟩

/-- Without the second one the worker drains for good. -/
theorem shut_for_long_drains :
    ∃ session, run breaking shutForLong (opened (.started 2 true (.opened ⟨1000, 0⟩))) =
        some session ∧
      session.calls.map Call.result? = [some (.error .tooLarge)] ∧
      session.worker.phase = .draining ∧
      ∀ later further, (∀ seconds, .shutdown seconds ∉ later) →
        run breaking later session = some further → further.worker.phase = .draining := by
  have goes : (run breaking shutForLong (opened (.started 2 true (.opened ⟨1000, 0⟩)))).map
      (fun session => (session.calls.map Call.result?, session.worker.phase)) =
        some ([some (.error .tooLarge)], .draining) := by
    decide +kernel
  obtain ⟨session, ran, shape⟩ := Option.map_eq_some_iff.mp goes
  obtain ⟨results, draining⟩ := Prod.mk.inj shape
  have finished : session.ShutdownsOver := by
    refine shutdownsOver_of_results fun result member => ?_
    rw [results] at member
    rw [List.mem_singleton.mp member]
    rfl
  exact ⟨session, ran, results, draining, fun later further calm goes =>
    draining_of_run finished draining calm goes⟩

end Session

end Courier
