/-
**When the thread of a worker ends.**

Whatever a submission raises, the thread reports it and turns to the next task. To report that it
drops an envelope, or that a submission failed, it has to write the name of the envelope; a name
that has no text, since it holds a whole number of too many digits, ends the thread then and there.
Besides that, the thread is ended by an order to end, and by its own decision if it finds the worker
stopped after it has found the queue empty.

* `Worker.ThreadRule.ended_iff`: which steps end the thread.
* `Worker.work_of_isAlive`: a thread that has not ended goes on unless it waits.
* `Session.thread_outlives_run`: when a thread has ended after a run, and that it goes on otherwise.
* `Session.thread_ends_unnamed`: an envelope without a name ends the thread of a running worker.
-/
import Courier.Proofs.Journal
import Courier.Delivery.Basic
namespace Courier

/-- The name of an envelope can be written. -/
def Envelope.IsNamed (envelope : Envelope) : Prop :=
  ∃ id, envelope.id = .ok id

theorem Envelope.isNamed_of_text {envelope : Envelope} {name : Text}
    (named : Value.get? idHeader envelope.headers = some (.text name)) : envelope.IsNamed := by
  refine ⟨name, ?_⟩
  unfold id
  rw [named]
  rfl

namespace Happening

variable {φ : Type}

/-- The envelope that the thread has to name when it reports what happened. -/
def subject? : Happening φ → Option Envelope
  | discarded envelope => some envelope
  | skipped envelope => some envelope
  | landed part (some _) => some part
  | _ => none

/-- The name that has to be written cannot be. -/
def IsUnspeakable (happening : Happening φ) : Prop :=
  ∃ envelope, happening.subject? = some envelope ∧ ¬ envelope.IsNamed

/-- A submission ended with an order to end. -/
def IsInterrupt : Happening φ → Prop
  | landed _ (some failure) => failure.family = .interrupt
  | _ => False

/-- The thread does not survive what happened. -/
def IsFatal (happening : Happening φ) : Prop :=
  happening.IsInterrupt ∨ happening.IsUnspeakable

theorem isFatal_discarded {envelope : Envelope} :
    (discarded envelope : Happening φ).IsFatal ↔ ¬ envelope.IsNamed := by
  simp [IsFatal, IsInterrupt, IsUnspeakable, subject?]

theorem isFatal_skipped {envelope : Envelope} :
    (skipped envelope : Happening φ).IsFatal ↔ ¬ envelope.IsNamed := by
  simp [IsFatal, IsInterrupt, IsUnspeakable, subject?]

theorem isFatal_landed {part : Envelope} {raised : Option Failure} :
    (landed part raised : Happening φ).IsFatal ↔
      ∃ failure, raised = some failure ∧ (failure.family = .interrupt ∨ ¬ part.IsNamed) := by
  cases raised <;> simp [IsFatal, IsInterrupt, IsUnspeakable, subject?]

theorem not_isFatal_of_subject {happening : Happening φ} (plain : happening.subject? = none) :
    ¬ happening.IsFatal := by
  rintro (interrupt | ⟨envelope, named, -⟩)
  · unfold IsInterrupt at interrupt
    split at interrupt
    · cases plain
    · exact interrupt
  · rw [plain] at named
    cases named

end Happening

namespace Depot

theorem naming_of_named {envelope : Envelope} {id : Text} (named : envelope.id = .ok id)
    (depot : Depot) (next : Text → Depot → Outcome) :
    depot.naming envelope next = next id depot := by
  unfold naming
  rw [named]

theorem naming_of_unnamed {envelope : Envelope} (unnamed : ¬ envelope.IsNamed) (depot : Depot)
    (next : Text → Depot → Outcome) :
    ∃ failure, depot.naming envelope next = .raise failure depot := by
  unfold naming
  cases text : envelope.id with
  | ok id => exact absurd ⟨id, text⟩ unnamed
  | error fault => exact ⟨_, rfl⟩

end Depot

namespace Worker

variable {φ ρ : Type} {submitter : Submitter φ ρ} {worker after : Worker φ}

/-! ### The end of a task -/

theorem dropTaken_stage_of_named {envelope : Envelope} (named : envelope.IsNamed)
    (reason : DropReason) (message : Text → Text) (worker : Worker φ) :
    (worker.dropTaken envelope reason message).stage = .idle := by
  obtain ⟨id, text⟩ := named
  refine close_stage_of_done ?_ worker
  unfold Depot.sayOf
  rw [Depot.naming_of_named text]
  rfl

theorem dropTaken_stage_of_unnamed {envelope : Envelope} (unnamed : ¬ envelope.IsNamed)
    (reason : DropReason) (message : Text → Text) (worker : Worker φ) :
    (worker.dropTaken envelope reason message).stage = .ended := by
  obtain ⟨failure, raises⟩ := Depot.naming_of_unnamed unnamed worker.depot fun id depot =>
    .done (depot.say .debug .worker (message id))
  have escapes : ((worker.depot.sayOf envelope .debug .worker message).andThen fun depot =>
      .done (depot.drop reason)).raised = some failure := by
    unfold Depot.sayOf
    rw [raises]
    rfl
  exact close_stage_of_raised escapes worker

/-- A dropped envelope ends the thread exactly if its name cannot be written. -/
theorem dropTaken_ended_iff (envelope : Envelope) (reason : DropReason) (message : Text → Text)
    (worker : Worker φ) :
    (worker.dropTaken envelope reason message).stage = .ended ↔ ¬ envelope.IsNamed := by
  by_cases named : envelope.IsNamed
  · rw [dropTaken_stage_of_named named]
    exact iff_of_false nofun (not_not_intro named)
  · rw [dropTaken_stage_of_unnamed named]
    exact iff_of_true rfl named

theorem contain_raised_iff (part : Envelope) (outcome : Outcome) :
    (∃ failure, (contain part outcome).raised = some failure) ↔
      (Happening.landed part outcome.raised : Happening φ).IsFatal := by
  rw [Happening.isFatal_landed]
  unfold contain
  cases raised : outcome.raised with
  | none => simp [raised]
  | some failure =>
    simp only [Option.some.injEq, exists_eq_left']
    split
    · rename_i interrupt
      exact iff_of_true ⟨failure, raised⟩ (.inl interrupt)
    · rename_i ordinary
      unfold reportFailure
      by_cases named : part.IsNamed
      · obtain ⟨id, text⟩ := named
        rw [Depot.naming_of_named text]
        refine iff_of_false nofun ?_
        rintro (interrupt | unnamed)
        · exact ordinary interrupt
        · exact unnamed ⟨id, text⟩
      · obtain ⟨later, raises⟩ := Depot.naming_of_unnamed named outcome.depot fun id depot =>
          .done (depot.report ⟨.error, .worker, "Unexpected error delivering envelope " ++ id, none,
            some failure⟩)
        rw [raises]
        exact iff_of_true ⟨later, rfl⟩ (.inr named)

/-- A submission ends the thread exactly if it is fatal how it ended. -/
theorem land_ended_iff (part : Envelope) (outcome : Outcome) (worker : Worker φ) :
    (worker.land part outcome).stage = .ended ↔
      (Happening.landed part outcome.raised : Happening φ).IsFatal := by
  rw [← contain_raised_iff]
  unfold land
  cases raised : (contain part outcome).raised with
  | none =>
    rw [close_stage_of_done raised]
    exact iff_of_false nofun nofun
  | some failure =>
    rw [close_stage_of_raised raised]
    exact iff_of_true rfl ⟨failure, rfl⟩

/-! ### Steps that end the thread -/

/-- Something has happened that the thread does not survive. -/
def HasFailed (worker : Worker φ) : Prop :=
  ∃ happening ∈ worker.journal, happening.IsFatal

/-- The thread is about to leave its loop. -/
def IsLeaving (worker : Worker φ) : Prop :=
  worker.stage = .starved ∧ worker.phase = .stopped

theorem hasFailed_note (happening : Happening φ) (worker : Worker φ) :
    (worker.note happening).HasFailed ↔ worker.HasFailed ∨ happening.IsFatal := by
  simp [HasFailed, note, or_and_right, exists_or]

theorem hasFailed_close (outcome : Outcome) (worker : Worker φ) :
    (worker.close outcome).HasFailed ↔ worker.HasFailed := by
  obtain ⟨news, told, ends⟩ := close_journal outcome worker
  have harmless : ∀ happening ∈ news, ¬ happening.IsFatal := fun happening member => by
    rw [ends happening member]
    exact Happening.not_isFatal_of_subject rfl
  unfold HasFailed
  rw [told]
  constructor
  · rintro ⟨happening, member, fatal⟩
    rcases List.mem_append.mp member with old | new
    · exact ⟨happening, old, fatal⟩
    · exact absurd fatal (harmless happening new)
  · rintro ⟨happening, member, fatal⟩
    exact ⟨happening, List.mem_append_left _ member, fatal⟩

theorem not_isLeaving_of_stage {stage : Stage φ} (holds : worker.stage = stage)
    (busy : stage ≠ .starved) : ¬ worker.IsLeaving := by
  rintro ⟨starved, -⟩
  exact busy (holds.symm.trans starved)

/-- A step ends the thread exactly if the thread fails in it or leaves its loop by it. -/
theorem ThreadRule.ended_iff (rule : worker.ThreadRule submitter after)
    (sound : ¬ worker.HasFailed) :
    after.stage = .ended ↔ after.HasFailed ∨ worker.IsLeaving := by
  -- A step within a task tells nothing fatal, and the thread holds a task in it.
  have within {stage : Stage φ} {next : Worker φ} (goes : next.stage ≠ .ended)
      (quiet : ¬ next.HasFailed) (holds : worker.stage = stage) (busy : stage ≠ .starved) :
      next.stage = .ended ↔ next.HasFailed ∨ worker.IsLeaving :=
    iff_of_false goes (not_or_intro quiet (not_isLeaving_of_stage holds busy))
  -- A task that ends with a happening is survived unless the happening is fatal.
  have ending {stage : Stage φ} {next : Worker φ} {happening : Happening φ}
      (ended : next.stage = .ended ↔ happening.IsFatal)
      (failed : next.HasFailed ↔ worker.HasFailed ∨ happening.IsFatal)
      (holds : worker.stage = stage) (busy : stage ≠ .starved) :
      next.stage = .ended ↔ next.HasFailed ∨ worker.IsLeaving := by
    rw [ended, failed, or_iff_right sound, or_iff_left (not_isLeaving_of_stage holds busy)]
  cases rule with
  | take idle queue => exact within (by simp) sound idle (by simp)
  | starve idle empty => exact within (by simp) sound idle (by simp)
  | leave starved stopped => exact iff_of_true rfl (.inr ⟨starved, stopped⟩)
  | retry starved live =>
    refine iff_of_false (by simp) (not_or_intro sound ?_)
    rintro ⟨-, stopped⟩
    exact live stopped
  | reach holds =>
    refine within ?_ sound holds (by simp)
    intro ended
    cases ended
  | @discard envelope holds stopped =>
    have ended : (worker.discard envelope).stage = .ended ↔
        (Happening.discarded envelope : Happening φ).IsFatal :=
      (dropTaken_ended_iff ..).trans Happening.isFatal_discarded.symm
    exact ending ended ((hasFailed_close _ _).trans (hasFailed_note _ _)) holds (by simp)
  | clear holds live => exact within (by simp) sound holds (by simp)
  | @skip whole holds limited =>
    have ended : (worker.skip whole).stage = .ended ↔
        (Happening.skipped whole : Happening φ).IsFatal :=
      (dropTaken_ended_iff ..).trans Happening.isFatal_skipped.symm
    exact ending ended ((hasFailed_close _ _).trans (hasFailed_note _ _)) holds (by simp)
  | sieve holds allowed => exact within (by simp) sound holds (by simp)
  | @fulfil whole part outcome holds begun =>
    have plain : ¬ (Happening.submitted whole part : Happening φ).IsFatal :=
      Happening.not_isFatal_of_subject rfl
    refine ending (land_ended_iff part outcome _) ?_ holds (by simp)
    refine (hasFailed_close _ _).trans ((hasFailed_note _ _).trans ?_)
    rw [hasFailed_note, or_iff_left plain]
  | @depart whole part flight depot holds begun =>
    refine within (by simp) ?_ holds (by simp)
    rintro ⟨happening, member, fatal⟩
    have told : happening ∈ worker.journal ∨ happening.subject? = none := by
      simp only [note, List.append_assoc, List.mem_append, List.mem_cons, List.not_mem_nil,
        or_false] at member
      rcases member with old | rfl | rfl
      · exact .inl old
      · exact .inr rfl
      · exact .inr rfl
    rcases told with old | plain
    · exact sound ⟨happening, old, fatal⟩
    · exact Happening.not_isFatal_of_subject plain fatal
  | land reply holds =>
    exact ending (land_ended_iff _ _ _) ((hasFailed_close _ _).trans (hasFailed_note _ _)) holds (by simp)

/-! ### Steps that do not -/

/-- A thread that has not ended goes on, unless it waits for what comes of a submission. -/
theorem work_of_isAlive (submitter : Submitter φ ρ) (alive : worker.isAlive) :
    (∃ whole part flight, worker.stage = .submitting whole part flight) ∨
      ∃ after, worker.work submitter = some after := by
  cases stage : worker.stage with
  | idle =>
    right
    cases queue : worker.queue with
    | nil =>
      unfold work
      rw [stage, queue]
      exact ⟨_, rfl⟩
    | cons task rest => exact ⟨_, work_idle submitter stage queue⟩
  | starved =>
    right
    unfold work
    rw [stage]
    simp only
    split
    · exact ⟨_, rfl⟩
    · exact ⟨_, rfl⟩
  | taken task =>
    right
    unfold work
    rw [stage]
    cases task with
    | marker call => exact ⟨_, rfl⟩
    | send envelope =>
      simp only
      split
      · exact ⟨_, rfl⟩
      · exact ⟨_, rfl⟩
  | cleared whole =>
    right
    unfold work
    rw [stage]
    simp only
    split
    · exact ⟨_, rfl⟩
    · exact ⟨_, rfl⟩
  | filtered whole part =>
    right
    unfold work
    rw [stage]
    exact ⟨_, rfl⟩
  | submitting whole part flight => exact .inl ⟨whole, part, flight, rfl⟩
  | ended =>
    unfold isAlive at alive
    rw [stage] at alive
    cases alive

/-- A step within a task that does not end the thread brings it nearer to the next one. -/
theorem ThreadRule.nearer (rule : worker.ThreadRule submitter after)
    (busy : worker.stage ≠ .idle) (goes : after.stage ≠ .ended) :
    after.stage = .idle ∨ after.stage.ahead < worker.stage.ahead := by
  cases rule with
  | take idle queue => exact absurd idle busy
  | starve idle empty => exact absurd idle busy
  | leave starved stopped => exact absurd rfl goes
  | retry starved live => exact .inl rfl
  | reach holds => exact .inl rfl
  | discard holds stopped => exact .inl ((close_idle_or_ended _ _).resolve_right goes)
  | clear holds live =>
    right
    rw [holds]
    exact Nat.lt_succ_self 2
  | skip holds limited => exact .inl ((close_idle_or_ended _ _).resolve_right goes)
  | sieve holds allowed =>
    right
    rw [holds]
    exact Nat.lt_succ_self 1
  | fulfil holds begun => exact .inl ((close_idle_or_ended _ _).resolve_right goes)
  | depart holds begun =>
    right
    rw [holds]
    exact Nat.lt_succ_self 0
  | land reply holds => exact .inl ((close_idle_or_ended _ _).resolve_right goes)

/-! ### What waits -/

/-- What waits has been accepted since an earlier moment. -/
def WaitsSince (earlier worker : Worker φ) : Prop :=
  worker.accepted = earlier.accepted ++ worker.waiting

theorem CallRule.waitsSince {earlier : Worker φ} {entered : List Envelope}
    (rule : worker.CallRule entered after) (since : earlier.WaitsSince worker) :
    earlier.WaitsSince after := by
  unfold WaitsSince
  rw [rule.accepted, rule.waiting, since, List.append_assoc]

/-- Only a thread that has found no task looks whether the worker is stopped. -/
theorem ThreadRule.starved (rule : worker.ThreadRule submitter after)
    (starved : after.stage = .starved) :
    worker.stage = .idle ∧ worker.queue = [] ∧ after.waiting = [] := by
  have never {outcome : Outcome} {next : Worker φ} : (next.close outcome).stage ≠ .starved :=
    close_stage_ne .starved nofun nofun _ _
  cases rule with
  | take idle queue => cases starved
  | starve idle empty =>
    refine ⟨idle, empty, ?_⟩
    unfold waiting
    rw [empty]
    rfl
  | leave starving stopped => cases starved
  | retry starving live => cases starved
  | reach holds => cases starved
  | discard holds stopped => exact absurd starved never
  | clear holds live => cases starved
  | skip holds limited => exact absurd starved never
  | sieve holds allowed => cases starved
  | fulfil holds begun => exact absurd starved never
  | depart holds begun => cases starved
  | land reply holds => exact absurd starved never

theorem not_threadRule_of_ended (ended : worker.stage = .ended) :
    ¬ worker.ThreadRule submitter after := by
  intro rule
  have alive := rule.isAlive
  unfold isAlive at alive
  rw [ended] at alive
  cases alive

/-- A call tells nothing that the thread does not survive. -/
theorem CallRule.hasFailed_iff {entered : List Envelope} (rule : worker.CallRule entered after) :
    after.HasFailed ↔ worker.HasFailed := by
  cases rule with
  | keep ledger log => exact Iff.rfl
  | accept whole part running room =>
    have plain : ¬ (Happening.accepted whole part : Happening φ).IsFatal :=
      Happening.not_isFatal_of_subject rfl
    exact (hasFailed_note _ _).trans (or_iff_left plain)
  | mark call room => exact Iff.rfl
  | drain live => exact Iff.rfl
  | stop => exact Iff.rfl

end Worker

namespace Session

variable {φ ρ : Type} {submitter : Submitter φ ρ} {start session after : Session φ}
  {moves : List (Move ρ)} {move : Move ρ}

/-- The thread has left its loop in the course of a run. -/
def HasLeft (submitter : Submitter φ ρ) (moves : List (Move ρ)) (start : Session φ) : Prop :=
  ∃ moment, (moment, .work) ∈ timeline submitter moves start ∧ moment.worker.IsLeaving

/-- In the course of a run the thread found the queue empty, and what waits has come since. -/
def HasLooked (submitter : Submitter φ ρ) (moves : List (Move ρ)) (start session : Session φ) :
    Prop :=
  ∃ moment, (moment, .work) ∈ timeline submitter moves start ∧ moment.worker.stage = .idle ∧
    moment.worker.queue = [] ∧ moment.worker.WaitsSince session.worker

theorem hasLeft_snoc (ran : run submitter moves start = some session)
    (moved : session.step submitter move = some after) :
    HasLeft submitter (moves ++ [move]) start ↔
      HasLeft submitter moves start ∨ (move = .work ∧ session.worker.IsLeaving) := by
  unfold HasLeft
  rw [timeline_snoc ran moved]
  constructor
  · rintro ⟨moment, made, leaving⟩
    rcases List.mem_append.mp made with old | new
    · exact .inl ⟨moment, old, leaving⟩
    · cases List.mem_singleton.mp new
      exact .inr ⟨rfl, leaving⟩
  · rintro (⟨moment, made, leaving⟩ | ⟨rfl, leaving⟩)
    · exact ⟨moment, List.mem_append_left _ made, leaving⟩
    · exact ⟨session, List.mem_append_right _ List.mem_cons_self, leaving⟩

theorem hasLeft_snoc_of_other (ran : run submitter moves start = some session)
    (moved : session.step submitter move = some after) (other : move ≠ .work) :
    HasLeft submitter (moves ++ [move]) start ↔ HasLeft submitter moves start :=
  (hasLeft_snoc ran moved).trans (or_iff_left fun ⟨same, _⟩ => other same)

theorem HasLooked.snoc (looked : HasLooked submitter moves start session)
    (ran : run submitter moves start = some session)
    (moved : session.step submitter move = some after)
    (kept : ∀ earlier : Worker φ, earlier.WaitsSince session.worker →
      earlier.WaitsSince after.worker) : HasLooked submitter (moves ++ [move]) start after := by
  obtain ⟨moment, made, idle, empty, since⟩ := looked
  exact ⟨moment, (timeline_sublist ran moved).subset made, idle, empty, kept _ since⟩

/-- The thread has ended exactly if it has failed or has left its loop. -/
theorem ended_iff (fresh : start.worker.journal = []) (awake : start.worker.isAlive)
    (ran : run submitter moves start = some session) :
    session.worker.stage = .ended ↔
      session.worker.HasFailed ∨ HasLeft submitter moves start := by
  refine run_induction (motive := fun moves session => session.worker.stage = .ended ↔
    session.worker.HasFailed ∨ HasLeft submitter moves start) ?_ ?_ moves session ran
  · refine iff_of_false ?_ ?_
    · intro ended
      unfold Worker.isAlive at awake
      rw [ended] at awake
      cases awake
    · rintro (⟨happening, member, -⟩ | ⟨moment, made, -⟩)
      · rw [fresh] at member
        cases member
      · cases made
  · intro moves session move after ran moved ih
    -- A thread that takes a step has not ended before.
    have earlier (rule : session.worker.ThreadRule submitter after.worker) :
        ¬ session.worker.HasFailed ∧ ¬ HasLeft submitter moves start := by
      refine not_or.mp fun past => ?_
      exact Worker.not_threadRule_of_ended (ih.mpr past) rule
    rcases step_cases moved with ⟨rfl, worked⟩ | ⟨reply, rfl, received⟩ | ⟨other, entered, rule⟩ |
      ⟨other, depot, same⟩
    · have rule := Worker.threadRule_of_work worked
      obtain ⟨sound, stays⟩ := earlier rule
      rw [rule.ended_iff sound, hasLeft_snoc ran moved, or_iff_right stays, and_iff_right rfl]
    · have rule := Worker.threadRule_of_receive received
      obtain ⟨sound, stays⟩ := earlier rule
      obtain ⟨whole, part, flight, holds⟩ := Worker.stage_of_receive received
      rw [rule.ended_iff sound, hasLeft_snoc_of_other ran moved nofun, or_iff_left stays,
        or_iff_left (Worker.not_isLeaving_of_stage holds nofun)]
    · rw [rule.stage, rule.hasFailed_iff, hasLeft_snoc_of_other ran moved other]
      exact ih
    · rw [same, hasLeft_snoc_of_other ran moved other]
      exact ih

/-- A thread that has left its loop found the queue empty before, and the worker is stopped. -/
theorem hasLooked_of_left (fresh : start.worker.journal = []) (idle : start.worker.stage = .idle)
    (ran : run submitter moves start = some session) :
    (session.worker.stage = .starved → HasLooked submitter moves start session) ∧
      (HasLeft submitter moves start →
        session.worker.phase = .stopped ∧ HasLooked submitter moves start session) := by
  have awake : start.worker.isAlive := Worker.isAlive_of_stage idle nofun
  refine run_induction (motive := fun moves session =>
    (session.worker.stage = .starved → HasLooked submitter moves start session) ∧
      (HasLeft submitter moves start →
        session.worker.phase = .stopped ∧ HasLooked submitter moves start session))
    ?_ ?_ moves session ran
  · refine ⟨fun starved => ?_, ?_⟩
    · rw [idle] at starved
      cases starved
    · rintro ⟨moment, made, -⟩
      cases made
  · intro moves session move after ran moved ih
    have stays (rule : session.worker.ThreadRule submitter after.worker) :
        ¬ HasLeft submitter moves start := by
      intro left
      exact Worker.not_threadRule_of_ended ((ended_iff fresh awake ran).mpr (.inr left)) rule
    rcases step_cases moved with ⟨rfl, worked⟩ | ⟨reply, rfl, received⟩ | ⟨other, entered, rule⟩ |
      ⟨other, depot, same⟩
    · have rule := Worker.threadRule_of_work worked
      constructor
      · intro starved
        obtain ⟨idle, empty, nothing⟩ := rule.starved starved
        refine ⟨session, ?_, idle, empty, ?_⟩
        · rw [timeline_snoc ran moved]
          exact List.mem_append_right _ List.mem_cons_self
        · unfold Worker.WaitsSince
          rw [rule.accepted, nothing, List.append_nil]
      · intro left
        rcases (hasLeft_snoc ran moved).mp left with old | ⟨-, starved, stopped⟩
        · exact absurd old (stays rule)
        rw [Worker.work_stopped submitter starved stopped] at worked
        have same := Option.some.inj worked
        refine ⟨?_, (ih.1 starved).snoc ran moved fun earlier since => ?_⟩
        · rw [← same]
          exact stopped
        · unfold Worker.WaitsSince
          rw [rule.accepted, ← same]
          exact since
    · have rule := Worker.threadRule_of_receive received
      constructor
      · intro starved
        obtain ⟨idle, -⟩ := rule.starved starved
        obtain ⟨whole, part, flight, holds⟩ := Worker.stage_of_receive received
        rw [idle] at holds
        cases holds
      · intro left
        exact absurd ((hasLeft_snoc_of_other ran moved nofun).mp left) (stays rule)
    · constructor
      · intro starved
        rw [rule.stage] at starved
        exact (ih.1 starved).snoc ran moved fun earlier since => rule.waitsSince since
      · intro left
        obtain ⟨stopped, looked⟩ := ih.2 ((hasLeft_snoc_of_other ran moved other).mp left)
        refine ⟨Phase.stopped_of_forward rule.forward stopped, ?_⟩
        exact looked.snoc ran moved fun earlier since => rule.waitsSince since
    · have kept (earlier : Worker φ) (since : earlier.WaitsSince session.worker) :
          earlier.WaitsSince after.worker := by
        rw [same]
        exact since
      constructor
      · intro starved
        rw [same] at starved
        exact (ih.1 starved).snoc ran moved kept
      · intro left
        obtain ⟨stopped, looked⟩ := ih.2 ((hasLeft_snoc_of_other ran moved other).mp left)
        refine ⟨?_, looked.snoc ran moved kept⟩
        rw [same]
        exact stopped

/-- What a run says about the thread: when it has ended, and that it goes on otherwise. -/
structure Outlives (submitter : Submitter φ ρ) (moves : List (Move ρ)) (start session : Session φ) :
    Prop where
  /-- It has ended only if it had to name an envelope that has no name, if a submission ended with
  an order to end, or if it left its loop. -/
  ends : session.worker.stage = .ended ↔ session.worker.HasFailed ∨ HasLeft submitter moves start
  /-- It left its loop only if the worker was stopped and the queue had been found empty. -/
  leaves : HasLeft submitter moves start →
    session.worker.phase = .stopped ∧ HasLooked submitter moves start session
  /-- Else it can go on, or waits for what comes of a submission. -/
  goes : session.worker.isAlive →
    (∃ whole part flight, session.worker.stage = .submitting whole part flight) ∨
      ∃ after, session.worker.work submitter = some after
  /-- Each step within a task brings it nearer to the next task, unless it ends in it. -/
  nears : ∀ after, (session.worker.work submitter = some after ∨
      ∃ reply, session.worker.receive submitter reply = some after) →
    session.worker.stage ≠ .idle → after.stage ≠ .ended →
      after.stage = .idle ∨ after.stage.ahead < session.worker.stage.ahead
  /-- A task that waits is taken next. -/
  takes : ∀ task rest, session.worker.stage = .idle → session.worker.queue = task :: rest →
    session.worker.work submitter =
      some { session.worker with queue := rest, stage := .taken task }

/-- In every run the thread survives whatever submissions raise, orders to end apart, as long as the
envelopes it has to name have names. -/
theorem thread_outlives_run (submitter : Submitter φ ρ) (capacity : Int) (limited : Bool)
    (depot : Depot) (moves : List (Move ρ)) (session : Session φ)
    (ran : run submitter moves (opened (.started capacity limited depot)) = some session) :
    Outlives submitter moves (opened (.started capacity limited depot)) session where
  ends := ended_iff rfl rfl ran
  leaves := (hasLooked_of_left rfl rfl ran).2
  goes := Worker.work_of_isAlive submitter
  nears after moved busy goes := by
    rcases moved with worked | ⟨reply, received⟩
    · exact (Worker.threadRule_of_work worked).nearer busy goes
    · exact (Worker.threadRule_of_receive received).nearer busy goes
  takes _ _ idle queue := Worker.work_idle submitter idle queue

/-- A submission that always fails, with an ordinary failure. -/
def failing : Submitter Unit Unit where
  begin := fun _ depot => .ended (.raise ⟨"RuntimeError", none⟩ depot)
  finish := fun _ _ depot => .done depot

/-- An envelope of one event that is named by the value. -/
def eventNamed (id : Value) : Envelope :=
  ⟨[(Envelope.idHeader, id)], [⟨"event", [], []⟩]⟩

/-- Two envelopes enter the queue, and the thread deals with the first, which is named by the
value. -/
def twoEvents (id : Value) : List (Move Unit) :=
  [.enqueue (eventNamed id), .proceed 0, .proceed 0, .proceed 0,
    .enqueue (eventNamed (.text "next")), .proceed 1, .proceed 1, .proceed 1,
    .work, .work, .work, .work]

/-- A session of a worker that observes limits and has ten places in its queue. -/
def ofTen : Session Unit :=
  opened (.started 10 true (.opened ⟨1000, 0⟩))

/-- A failed submission of a named envelope is survived. -/
theorem thread_outlives_failure :
    ∃ session, run failing (twoEvents (.text "first")) ofTen = some session ∧
      session.worker.isAlive ∧ Outlives failing (twoEvents (.text "first")) ofTen session := by
  have goes : (run failing (twoEvents (.text "first")) ofTen).map (·.worker.isAlive) = some true := by
    decide +kernel
  obtain ⟨session, ran, alive⟩ := Option.map_eq_some_iff.mp goes
  exact ⟨session, ran, alive, thread_outlives_run failing 10 true _ _ session ran⟩

/-- An envelope that is named by too large a number ends the thread of a running worker, and the
next one waits for ever. -/
theorem thread_ends_unnamed :
    ∃ session, run failing (twoEvents (.int (Int.ofNat (tenTo 5000)))) ofTen = some session ∧
      session.worker.stage = .ended ∧ session.worker.phase = .running ∧
      session.worker.waiting ≠ [] := by
  have goes : (run failing (twoEvents (.int (Int.ofNat (tenTo 5000)))) ofTen).map (fun session =>
      (session.worker.isAlive, session.worker.phase, session.worker.waiting.length)) =
        some (false, .running, 1) := by
    decide +kernel
  obtain ⟨session, ran, shape⟩ := Option.map_eq_some_iff.mp goes
  obtain ⟨dead, rest⟩ := Prod.mk.inj shape
  obtain ⟨running, one⟩ := Prod.mk.inj rest
  refine ⟨session, ran, ?_, running, ?_⟩
  · exact Worker.stage_of_not_isAlive dead
  · intro empty
    rw [empty] at one
    cases one

end Session

end Courier
