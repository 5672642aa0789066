/-
**Shutting down.**

A shutdown turns away whatever is offered from then on, puts its marker behind all that was accepted,
and stops the worker. If the thread had reached the marker by then, or had ended and left the queue
empty, the worker is dry: nothing of what was accepted is still to be dealt with, and it stays so.

* `Worker.Seals`: what the marker of a shutdown tells about the worker, kept by each move.
* `Session.sealed_of_run`: where a session stands with its shutdown.
* `Session.shutdown_drains`: what a shutdown that succeeds says about all that was accepted.
-/
import Courier.Proofs.Accounting
import Mathlib.Data.List.NodupEquivFin
namespace Courier

namespace Worker

variable {φ ρ : Type} {submitter : Submitter φ ρ} {worker after : Worker φ} {number : Nat}

/-! ### Dry workers -/

/-- Nothing of what was accepted is still to be dealt with, and nothing more is accepted. -/
structure IsDry (worker : Worker φ) : Prop where
  halted : worker.phase ≠ .running
  waiting : worker.waiting = []
  inHand : worker.stage.inHand = []
  underWay : worker.stage.underWay = []

theorem CallRule.entered_of_halted {entered : List Envelope} (rule : worker.CallRule entered after)
    (halted : worker.phase ≠ .running) : entered = [] := by
  cases rule with
  | accept whole part running room => exact absurd running halted
  | _ => rfl

/-- A thread without an envelope in its hand begins no submission. -/
theorem ThreadRule.underWay (rule : worker.ThreadRule submitter after)
    (free : worker.stage.inHand = []) : after.stage.underWay = [] := by
  cases rule with
  | discard holds stopped => exact close_underWay ..
  | skip holds limited => exact close_underWay ..
  | fulfil holds begun => exact close_underWay ..
  | depart holds begun =>
    rw [holds] at free
    cases free
  | land reply holds => exact close_underWay ..
  | _ => rfl

theorem IsDry.call {entered : List Envelope} (dry : worker.IsDry)
    (rule : worker.CallRule entered after) :
    after.IsDry ∧ after.settled = worker.settled ∧ after.accepted = worker.accepted := by
  cases rule.entered_of_halted dry.halted
  refine ⟨⟨?_, ?_, ?_, ?_⟩, rule.settled, rule.accepted.trans (List.append_nil _)⟩
  · exact Phase.halted_of_forward rule.forward dry.halted
  · rw [rule.waiting, dry.waiting, List.append_nil]
  · rw [rule.stage, dry.inHand]
  · rw [rule.stage, dry.underWay]

theorem IsDry.turn (dry : worker.IsDry) (rule : worker.ThreadRule submitter after) :
    after.IsDry ∧ after.settled = worker.settled ∧ after.accepted = worker.accepted := by
  obtain ⟨news, told, same⟩ := rule.settles
  rw [dry.inHand, dry.waiting] at same
  obtain ⟨nothing, rest⟩ := List.append_eq_nil_iff.mp same.symm
  obtain ⟨inHand, waiting⟩ := List.append_eq_nil_iff.mp rest
  refine ⟨⟨?_, waiting, inHand, rule.underWay dry.inHand⟩, ?_, rule.accepted⟩
  · rw [rule.phase]
    exact dry.halted
  · rw [told, List.map_eq_nil_iff.mp nothing, List.append_nil]

/-- A dry worker stays dry, and nothing more happens to what was accepted. -/
theorem IsDry.change (dry : worker.IsDry) (change : worker.Change submitter after) :
    after.IsDry ∧ after.settled = worker.settled ∧ after.accepted = worker.accepted := by
  cases change with
  | call rule => exact dry.call rule
  | turn rule => exact dry.turn rule
  | tend depot => exact ⟨⟨dry.halted, dry.waiting, dry.inHand, dry.underWay⟩, rfl, rfl⟩

/-! ### What is settled -/

theorem mem_settled_discarded_iff {envelope : Envelope} :
    (envelope, .discarded) ∈ worker.settled ↔ .discarded envelope ∈ worker.journal := by
  constructor
  · intro settled
    obtain ⟨happening, told, reads⟩ := List.mem_filterMap.mp settled
    cases happening with
    | discarded other =>
      cases reads
      exact told
    | _ => cases reads
  · intro told
    exact List.mem_filterMap.mpr ⟨_, told, rfl⟩

/-- What is settled was skipped, submitted or discarded. -/
theorem settled_cases {envelope : Envelope} {place : Place}
    (settled : (envelope, place) ∈ worker.settled) :
    place = .skipped ∨ (∃ part, place = .submitted part) ∨ place = .discarded := by
  obtain ⟨happening, told, reads⟩ := List.mem_filterMap.mp settled
  cases happening with
  | submitted whole part =>
    cases reads
    exact .inr (.inl ⟨part, rfl⟩)
  | skipped other =>
    cases reads
    exact .inl rfl
  | discarded other =>
    cases reads
    exact .inr (.inr rfl)
  | _ => cases reads

/-- The submissions are among what is settled. -/
theorem submissions_eq (worker : Worker φ) :
    worker.submissions = worker.settled.filterMap fun (whole, place) =>
      match place with
      | .submitted part => some (whole, part)
      | _ => none := by
  unfold submissions settled
  rw [List.filterMap_filterMap]
  congr 1
  funext happening
  cases happening <;> rfl

/-! ### Markers -/

/-- The marker with this number has left the queue. -/
def Passes (number : Nat) (worker : Worker φ) : Prop :=
  worker.stage = .taken (.marker number) ∨ number ∈ worker.reached

/-- The marker with this number has been put into the queue. -/
def HasMarker (number : Nat) (worker : Worker φ) : Prop :=
  .marker number ∈ worker.queue ∨ worker.Passes number

/-- The marker with this number seals the queue: once it is there nothing is accepted, no envelope
is behind it, and the worker is dry when the marker leaves the queue. -/
structure Seals (number : Nat) (worker : Worker φ) : Prop where
  halted : worker.HasMarker number → worker.phase ≠ .running
  last : worker.queue.Pairwise fun earlier later =>
    earlier = .marker number → ∀ envelope, later ≠ .send envelope
  dry : worker.Passes number → worker.IsDry

theorem Seals.of_unmarked (unmarked : ¬ worker.HasMarker number) : worker.Seals number where
  halted marked := absurd marked unmarked
  last := by
    refine List.pairwise_of_forall_mem_list fun earlier member later _ same => ?_
    subst same
    exact absurd (.inl member) unmarked
  dry passes := absurd (.inr passes) unmarked

theorem close_reached (outcome : Outcome) (worker : Worker φ) :
    (worker.close outcome).reached = worker.reached := by
  unfold close
  cases outcome.raised <;> rfl

/-- The end of a task takes nothing out of the queue. -/
theorem passes_of_close {outcome : Outcome} (passes : (worker.close outcome).Passes number) :
    worker.Passes number := by
  rcases passes with taken | reached
  · exact absurd taken (close_stage_ne (.taken (.marker number)) nofun nofun outcome worker)
  · rw [close_reached] at reached
    exact .inr reached

/-- The thread takes the first task out of the queue, or leaves the queue alone. -/
theorem ThreadRule.queue_cases (rule : worker.ThreadRule submitter after) :
    (∃ task, worker.queue = task :: after.queue ∧ after.stage = .taken task ∧
      after.reached = worker.reached) ∨
    (after.queue = worker.queue ∧ ∀ number, after.Passes number → worker.Passes number) := by
  -- The thread is at something that is no task, and has reached no other marker.
  have on {stage : Stage φ} (other : ∀ task, stage ≠ .taken task) (number : Nat)
      (passes : stage = .taken (.marker number) ∨ number ∈ worker.reached) :
      worker.Passes number := .inr (passes.resolve_left (other _))
  cases rule with
  | take idle queue => exact .inl ⟨_, queue, rfl, rfl⟩
  | starve idle empty => exact .inr ⟨rfl, on nofun⟩
  | leave starved stopped => exact .inr ⟨rfl, on nofun⟩
  | retry starved live => exact .inr ⟨rfl, on nofun⟩
  | @reach call holds =>
    refine .inr ⟨rfl, fun number passes => ?_⟩
    rcases List.mem_cons.mp (passes.resolve_left nofun) with rfl | before
    · exact .inl holds
    · exact .inr before
  | discard holds stopped => exact .inr ⟨close_queue .., fun number => passes_of_close⟩
  | clear holds live => exact .inr ⟨rfl, on nofun⟩
  | skip holds limited => exact .inr ⟨close_queue .., fun number => passes_of_close⟩
  | sieve holds allowed => exact .inr ⟨rfl, on nofun⟩
  | fulfil holds begun => exact .inr ⟨close_queue .., fun number => passes_of_close⟩
  | depart holds begun => exact .inr ⟨rfl, on nofun⟩
  | land reply holds => exact .inr ⟨close_queue .., fun number => passes_of_close⟩

theorem CallRule.passes_iff {entered : List Envelope} (rule : worker.CallRule entered after) :
    after.Passes number ↔ worker.Passes number := by
  have same : after.reached = worker.reached := by cases rule <;> rfl
  unfold Passes
  rw [rule.stage, same]

/-- A marker in the queue or past it had been there before, or was put into the queue. -/
theorem Change.hasMarker (change : worker.Change submitter after) (marked : after.HasMarker number) :
    worker.HasMarker number ∨ .marker number ∈ after.queue := by
  rcases marked with queued | passes
  · exact .inr queued
  cases change with
  | call rule => exact .inl (.inr (rule.passes_iff.mp passes))
  | turn rule =>
    rcases rule.queue_cases with ⟨task, queue, taken, reached⟩ | ⟨-, earlier⟩
    · rcases passes with now | before
      · cases taken.symm.trans now
        left; left
        rw [queue]
        exact List.mem_cons_self
      · rw [reached] at before
        exact .inl (.inr (.inr before))
    · exact .inl (.inr (earlier number passes))
  | tend depot => exact .inl (.inr passes)

/-- An envelope enters the queue only while no marker seals it, and a marker only after the worker
has left its running phase. -/
theorem CallRule.last {entered : List Envelope} (rule : worker.CallRule entered after)
    (seals : worker.Seals number) : after.queue.Pairwise fun earlier later =>
      earlier = .marker number → ∀ envelope, later ≠ .send envelope := by
  cases rule with
  | keep ledger log => exact seals.last
  | accept whole part running room =>
    refine List.pairwise_append.mpr ⟨seals.last, List.pairwise_singleton _ _, ?_⟩
    intro earlier member later _ same
    subst same
    exact absurd running (seals.halted (.inl member))
  | mark call room =>
    refine List.pairwise_append.mpr ⟨seals.last, List.pairwise_singleton _ _, ?_⟩
    intro earlier _ later member _ envelope
    rw [List.mem_singleton.mp member]
    nofun
  | drain live => exact seals.last
  | stop => exact seals.last

theorem Seals.change (seals : worker.Seals number) (change : worker.Change submitter after)
    (fresh : .marker number ∈ after.queue →
      .marker number ∈ worker.queue ∨ worker.phase ≠ .running) : after.Seals number := by
  have halted : after.HasMarker number → after.phase ≠ .running := by
    intro marked
    refine Phase.halted_of_forward change.forward ?_
    rcases change.hasMarker marked with before | queued
    · exact seals.halted before
    · rcases fresh queued with before | halted
      · exact seals.halted (.inl before)
      · exact halted
  have whole := change
  cases change with
  | call rule =>
    refine ⟨halted, rule.last seals, fun passes => ?_⟩
    exact ((seals.dry (rule.passes_iff.mp passes)).change whole).1
  | turn rule =>
    rcases rule.queue_cases with ⟨task, queue, taken, reached⟩ | ⟨queue, earlier⟩
    · have ordered := seals.last
      rw [queue] at ordered
      obtain ⟨first, rest⟩ := List.pairwise_cons.mp ordered
      refine ⟨halted, rest, fun passes => ?_⟩
      rcases passes with now | before
      · -- The marker is taken: there is no envelope behind it, and none in hand.
        have live := halted (.inr (.inl now))
        cases taken.symm.trans now
        refine ⟨live, ?_, ?_, ?_⟩
        · refine List.filterMap_eq_nil_iff.mpr fun task member => ?_
          cases task with
          | send envelope => exact absurd rfl (first _ member rfl envelope)
          | marker call => rfl
        · rw [taken]
          rfl
        · rw [taken]
          rfl
      · rw [reached] at before
        exact ((seals.dry (.inr before)).change whole).1
    · refine ⟨halted, ?_, fun passes => ((seals.dry (earlier number passes)).change whole).1⟩
      rw [queue]
      exact seals.last
  | tend depot => exact ⟨halted, seals.last, fun passes => ((seals.dry passes).change whole).1⟩

end Worker

/-! ### Shutdowns -/

namespace Shutdown

variable {φ : Type}

/-- What a shutdown that has come so far has brought about; if it answers well, the worker is dry. -/
def Brings (worker : Worker φ) : Shutdown → Prop
  | asked => True
  | flushing _ => worker.phase ≠ .running
  | flushed answer => worker.phase ≠ .running ∧ (answer = true → worker.IsDry)
  | joining answer => worker.phase = .stopped ∧ (answer = true → worker.IsDry)
  | ended (.ok answer) => worker.phase = .stopped ∧ (answer = true → worker.IsDry)
  | ended (.error _) => worker.phase ≠ .running

/-- The flush of a shutdown has given this answer, unless waiting for the thread failed. -/
def Answers (answer : Bool) : Shutdown → Prop
  | flushed given => given = answer
  | joining given => given = answer
  | ended (.ok given) => given = answer
  | ended (.error _) => True
  | _ => False

end Shutdown

namespace Worker

variable {φ ρ : Type} {submitter : Submitter φ ρ} {worker after : Worker φ} {number : Nat}

theorem Change.brings (change : worker.Change submitter after) {progress : Shutdown}
    (brings : progress.Brings worker) : progress.Brings after := by
  have halted := Phase.halted_of_forward change.forward
  have stopped := Phase.stopped_of_forward change.forward
  cases progress with
  | asked => trivial
  | flushing flush => exact halted brings
  | flushed answer => exact ⟨halted brings.1, fun yes => ((brings.2 yes).change change).1⟩
  | joining answer => exact ⟨stopped brings.1, fun yes => ((brings.2 yes).change change).1⟩
  | ended result =>
    cases result with
    | ok answer => exact ⟨stopped brings.1, fun yes => ((brings.2 yes).change change).1⟩
    | error failure => exact halted brings

/-- A flush that succeeds leaves a dry worker: the thread has reached the marker, or it has ended and
nothing waits. -/
theorem FlushRule.brings {flush next : Flush} (rule : worker.FlushRule number flush after next)
    (seals : worker.Seals number) (halted : worker.phase ≠ .running) :
    (afterFlush next).Brings after := by
  cases rule with
  | begin alive => exact halted
  | bypass dead =>
    refine ⟨halted, fun empty => ?_⟩
    have ended := stage_of_not_isAlive dead
    refine ⟨halted, ?_, ?_, ?_⟩
    · unfold waiting
      rw [List.isEmpty_iff.mp empty]
      rfl
    · rw [ended]
      rfl
    · rw [ended]
      rfl
  | place room => exact halted
  | arrive reached => exact ⟨halted, fun _ => seals.dry (.inr reached)⟩
  | refuse waits => exact halted
  | lapse waits message => exact ⟨halted, nofun⟩

/-- Each step of a shutdown brings about what it should, if it is the one that stops the worker. -/
theorem ShutdownRule.brings {shutdown next : Shutdown}
    (rule : worker.ShutdownRule number shutdown after next) (seals : worker.Seals number)
    (brings : shutdown.Brings worker) (first : shutdown = .asked → worker.phase ≠ .stopped) :
    next.Brings after := by
  have call := rule.call
  cases rule with
  | repeated stopped => exact absurd stopped (first rfl)
  | drain live =>
    show Phase.draining ≠ .running
    nofun
  | flush rule => exact rule.brings seals brings
  | stop => exact ⟨rfl, fun yes => ((brings.2 yes).call call).1⟩
  | join dead => exact ⟨brings.1, fun yes => ((brings.2 yes).call call).1⟩
  | refuse alive failure =>
    show worker.phase ≠ .running
    rw [brings.1]
    nofun
  | lapse alive message => exact ⟨brings.1, fun yes => ((brings.2 yes).call call).1⟩

/-- A shutdown goes on with the answer of its flush. -/
theorem ShutdownRule.answers {shutdown next : Shutdown} {answer : Bool}
    (rule : worker.ShutdownRule number shutdown after next) (answers : shutdown.Answers answer) :
    next.Answers answer := by
  cases rule with
  | repeated stopped => exact answers.elim
  | drain live => exact answers.elim
  | flush rule => exact answers.elim
  | stop => exact answers
  | join dead => exact answers
  | refuse alive failure => trivial
  | lapse alive message => exact answers

theorem ShutdownRule.ne_asked {shutdown next : Shutdown}
    (rule : worker.ShutdownRule number shutdown after next) : next ≠ .asked := by
  cases rule with
  | @flush flush next after rule =>
    cases next with
    | ended result => cases result <;> nofun
    | _ => nofun
  | _ => nofun

/-! ### What a step of a call changes -/

theorem OfferRule.phase {offer next : Offer} (rule : worker.OfferRule offer after next) :
    after.phase = worker.phase := by
  cases rule <;> rfl

theorem FlushRule.phase {flush next : Flush} (rule : worker.FlushRule number flush after next) :
    after.phase = worker.phase := by
  cases rule <;> rfl

theorem OfferRule.queue {offer next : Offer} (rule : worker.OfferRule offer after next) :
    after.queue = worker.queue ∨ ∃ part, after.queue = worker.queue ++ [.send part] := by
  cases rule with
  | @enter whole part running room => exact .inr ⟨part, rfl⟩
  | _ => exact .inl rfl

theorem FlushRule.queue {flush next : Flush} (rule : worker.FlushRule number flush after next) :
    after.queue = worker.queue ∨ after.queue = worker.queue ++ [.marker number] := by
  cases rule with
  | place room => exact .inr rfl
  | _ => exact .inl rfl

end Worker

namespace Session

variable {φ ρ : Type} {submitter : Submitter φ ρ} {start session after : Session φ}
  {moves : List (Move ρ)} {move : Move ρ} {number : Nat}

/-- A marker is put only by the flush or the shutdown of its number. -/
theorem StepRule.marker (rule : session.StepRule submitter move after)
    (marked : .marker number ∈ after.worker.queue) :
    .marker number ∈ session.worker.queue ∨
      (∃ seconds flush, session.calls[number]? = some (.flush seconds flush)) ∨
      ∃ seconds flush, session.calls[number]? = some (.shutdown seconds (.flushing flush)) := by
  cases rule with
  | offers found rule =>
    left
    rcases rule.queue with same | ⟨part, grown⟩
    · rwa [same] at marked
    · rw [grown] at marked
      exact (List.mem_append.mp marked).resolve_right (by simp)
  | @flushes other seconds flush next worker move by_call found rule =>
    rcases rule.queue with same | grown
    · left
      rwa [same] at marked
    · rw [grown] at marked
      rcases List.mem_append.mp marked with before | new
      · exact .inl before
      · cases List.mem_singleton.mp new
        exact .inr (.inl ⟨seconds, flush, found⟩)
  | @shuts other seconds shutdown next worker move by_call found rule =>
    cases rule with
    | @flush flush next after rule =>
      rcases rule.queue with same | grown
      · left
        rwa [same] at marked
      · rw [grown] at marked
        rcases List.mem_append.mp marked with before | new
        · exact .inl before
        · cases List.mem_singleton.mp new
          exact .inr (.inr ⟨seconds, flush, found⟩)
    | _ => exact .inl marked
  | work worked =>
    left
    rcases (Worker.threadRule_of_work worked).queue_cases with ⟨task, queue, -⟩ | ⟨queue, -⟩
    · rw [queue]
      exact List.mem_cons_of_mem _ marked
    · rwa [queue] at marked
  | receive received =>
    left
    rcases (Worker.threadRule_of_receive received).queue_cases with ⟨task, queue, -⟩ | ⟨queue, -⟩
    · rw [queue]
      exact List.mem_cons_of_mem _ marked
    · rwa [queue] at marked
  | _ => exact .inl marked

/-- A shutdown is where it was, or has just been asked for, or takes a step. -/
theorem StepRule.shutdown_cases (rule : session.StepRule submitter move after) {seconds : Binary64}
    {next : Shutdown} (found : after.calls[number]? = some (.shutdown seconds next)) :
    session.calls[number]? = some (.shutdown seconds next) ∨
      (number = session.calls.length ∧ next = .asked ∧ after.worker = session.worker) ∨
      ∃ progress, session.calls[number]? = some (.shutdown seconds progress) ∧
        session.worker.ShutdownRule number progress after.worker next := by
  cases rule with
  | enqueue envelope => exact .inl ((found_of_ask found).resolve_right (by simp))
  | flush seconds => exact .inl ((found_of_ask found).resolve_right (by simp))
  | shutdown seconds =>
    rcases found_of_ask found with old | ⟨rfl, new⟩
    · exact .inl old
    · cases new
      exact .inr (.inl ⟨rfl, rfl, rfl⟩)
  | offers before rule => exact .inl ((found_of_set found).resolve_right (by simp))
  | flushes by_call before rule => exact .inl ((found_of_set found).resolve_right (by simp))
  | shuts by_call before rule =>
    rcases found_of_set found with old | ⟨rfl, new⟩
    · exact .inl old
    · cases new
      exact .inr (.inr ⟨_, before, rule⟩)
  | work worked => exact .inl found
  | receive received => exact .inl found
  | tick clock => exact .inl found
  | relimit limits => exact .inl found

theorem StepRule.shutdown_kept (rule : session.StepRule submitter move after) {seconds : Binary64}
    {progress : Shutdown} (found : session.calls[number]? = some (.shutdown seconds progress)) :
    ∃ next, after.calls[number]? = some (.shutdown seconds next) ∧
      (next = progress ∨ session.worker.ShutdownRule number progress after.worker next) := by
  obtain ⟨call, now, same | step⟩ := rule.call_kept found
  · exact ⟨progress, same ▸ now, .inl rfl⟩
  · cases step with
    | shutdown rule => exact ⟨_, now, .inr rule⟩

/-- A worker is stopped only by a shutdown whose flush is over. -/
theorem StepRule.stops (rule : session.StepRule submitter move after)
    (live : session.worker.phase ≠ .stopped) (stopped : after.worker.phase = .stopped) :
    ∃ (number : Nat) (seconds : Binary64) (answer : Bool),
      session.calls[number]? = some (.shutdown seconds (.flushed answer)) ∧
      after.calls[number]? = some (.shutdown seconds (.joining answer)) := by
  cases rule with
  | offers found rule => exact absurd (rule.phase.symm.trans stopped) live
  | flushes by_call found rule => exact absurd (rule.phase.symm.trans stopped) live
  | @shuts number seconds shutdown next worker move by_call found rule =>
    cases rule with
    | drain live => cases stopped
    | flush rule => exact absurd (rule.phase.symm.trans stopped) live
    | stop =>
      refine ⟨number, seconds, _, found, ?_⟩
      exact List.getElem?_set_self (List.getElem?_eq_some_iff.mp found).1
    | _ => exact absurd stopped live
  | work worked =>
    exact absurd ((Worker.threadRule_of_work worked).phase.symm.trans stopped) live
  | receive received =>
    exact absurd ((Worker.threadRule_of_receive received).phase.symm.trans stopped) live
  | _ => exact absurd stopped live

/-- Every marker belongs to a call. -/
theorem known_step
    (known : ∀ number, session.worker.HasMarker number → number < session.calls.length)
    (moved : session.step submitter move = some after) (marked : after.worker.HasMarker number) :
    number < after.calls.length := by
  refine Nat.lt_of_lt_of_le ?_ (step_calls_length moved)
  rcases (change_of_step moved).hasMarker marked with before | put
  · exact known number before
  rcases (stepRule_of_step moved).marker put with before | ⟨seconds, flush, found⟩ |
    ⟨seconds, flush, found⟩
  · exact known number (.inl before)
  · exact (List.getElem?_eq_some_iff.mp found).1
  · exact (List.getElem?_eq_some_iff.mp found).1

/-! ### Where a session stands with its shutdown -/

/-- Two shutdowns are one, if no more than one was asked for. -/
theorem shutdown_unique (few : session.kinds.count .shutdown ≤ 1) {first second : Nat}
    {early late : Binary64} {one two : Shutdown}
    (found : session.calls[first]? = some (.shutdown early one))
    (other : session.calls[second]? = some (.shutdown late two)) : first = second := by
  have asked {number : Nat} {seconds : Binary64} {progress : Shutdown}
      (found : session.calls[number]? = some (.shutdown seconds progress)) :
      session.kinds[number]? = some .shutdown := by
    unfold kinds
    rw [List.getElem?_map, found]
    rfl
  have never {first second : Nat} (earlier : first < second)
      (one : session.kinds[first]? = some .shutdown)
      (two : session.kinds[second]? = some .shutdown) : False := by
    obtain ⟨inFirst, isFirst⟩ := List.getElem?_eq_some_iff.mp one
    obtain ⟨inSecond, isSecond⟩ := List.getElem?_eq_some_iff.mp two
    have twice : List.Duplicate Call.Kind.shutdown session.kinds :=
      List.duplicate_iff_exists_distinct_get.mpr
        ⟨⟨first, inFirst⟩, ⟨second, inSecond⟩, earlier, isFirst.symm, isSecond.symm⟩
    have := List.duplicate_iff_two_le_count.mp twice
    omega
  rcases Nat.lt_trichotomy first second with before | same | behind
  · exact (never before (asked found) (asked other)).elim
  · exact same
  · exact (never behind (asked other) (asked found)).elim

/-- Every marker belongs to a call; a shutdown seals the queue and has brought about what it should;
and the worker is stopped only by a shutdown that is under way. -/
structure Sealed (session : Session φ) : Prop where
  known : ∀ number, session.worker.HasMarker number → number < session.calls.length
  shuts : ∀ (number : Nat) (seconds : Binary64) (progress : Shutdown),
    session.calls[number]? = some (.shutdown seconds progress) →
      session.worker.Seals number ∧ progress.Brings session.worker
  stopped : session.worker.phase = .stopped →
    ∃ (number : Nat) (seconds : Binary64) (progress : Shutdown),
      session.calls[number]? = some (.shutdown seconds progress) ∧ progress ≠ .asked

theorem Sealed.seals_step (sealed : session.Sealed) (moved : session.step submitter move = some after)
    {seconds : Binary64} {progress : Shutdown}
    (found : session.calls[number]? = some (.shutdown seconds progress)) :
    after.worker.Seals number := by
  refine (sealed.shuts number seconds progress found).1.change (change_of_step moved) fun queued => ?_
  rcases (stepRule_of_step moved).marker queued with before | ⟨seconds, flush, other⟩ |
    ⟨seconds, flush, same⟩
  · exact .inl before
  · rw [found] at other
    cases other
  · exact .inr (sealed.shuts number _ _ same).2

theorem Sealed.step (sealed : session.Sealed) (few : session.kinds.count .shutdown ≤ 1)
    (moved : session.step submitter move = some after) : after.Sealed := by
  have rule := stepRule_of_step moved
  refine ⟨fun number => known_step sealed.known moved, fun number seconds next found => ?_,
    fun stopped => ?_⟩
  · rcases rule.shutdown_cases found with same | ⟨rfl, rfl, quiet⟩ | ⟨progress, before, step⟩
    · have brings := (sealed.shuts number seconds next same).2
      exact ⟨sealed.seals_step moved same, (change_of_step moved).brings brings⟩
    · rw [quiet]
      refine ⟨.of_unmarked fun marked => ?_, trivial⟩
      exact absurd (sealed.known _ marked) (Nat.lt_irrefl _)
    · obtain ⟨seals, brings⟩ := sealed.shuts number seconds progress before
      refine ⟨sealed.seals_step moved before, step.brings seals brings ?_⟩
      rintro rfl stopped
      obtain ⟨other, _, further, found, goes⟩ := sealed.stopped stopped
      cases shutdown_unique few before found
      rw [before] at found
      cases found
      exact goes rfl
  · by_cases already : session.worker.phase = .stopped
    · obtain ⟨number, seconds, progress, found, goes⟩ := sealed.stopped already
      obtain ⟨next, found, same | step⟩ := rule.shutdown_kept found
      · exact ⟨number, seconds, next, found, same ▸ goes⟩
      · exact ⟨number, seconds, next, found, step.ne_asked⟩
    · obtain ⟨number, seconds, answer, -, found⟩ := rule.stops already stopped
      exact ⟨number, seconds, .joining answer, found, nofun⟩

variable {capacity : Int} {limited : Bool} {depot : Depot}

theorem sealed_opened : (opened (.started capacity limited depot) : Session φ).Sealed where
  known number marked := by
    rcases marked with queued | taken | reached
    · cases queued
    · cases taken
    · cases reached
  shuts number seconds progress found := by cases found
  stopped stopped := by cases stopped

theorem few_of_append {first rest : List (Move ρ)}
    (few : ((first ++ rest).filterMap Move.asks?).count .shutdown ≤ 1) :
    (first.filterMap Move.asks?).count .shutdown ≤ 1 := by
  rw [List.filterMap_append, List.count_append] at few
  exact Nat.le_trans (Nat.le_add_right _ _) few

/-- After a run with at most one shutdown a session stands with it as it should. -/
theorem sealed_of_run (few : (moves.filterMap Move.asks?).count .shutdown ≤ 1)
    (ran : run submitter moves (opened (.started capacity limited depot)) = some session) :
    session.Sealed := by
  refine run_induction (motive := fun moves session =>
    (moves.filterMap Move.asks?).count .shutdown ≤ 1 → session.Sealed)
    (fun _ => sealed_opened) ?_ moves session ran few
  intro moves session move after ran moved ih few
  have fewer : (moves.filterMap Move.asks?).count .shutdown ≤ 1 := few_of_append few
  refine (ih fewer).step ?_ moved
  rw [kinds_of_run ran]
  exact fewer

/-! ### Moments -/

theorem forward_of_run (ran : run submitter moves start = some session) :
    start.worker.phase.rank ≤ session.worker.phase.rank :=
  kept_of_run (motive := fun worker => start.worker.phase.rank ≤ worker.phase.rank)
    (fun _ _ change before => before.trans change.forward) (Nat.le_refl _) ran

/-- The phase at a moment of a run is no later than at its end. -/
theorem forward_of_timeline {moment : Session φ} (ran : run submitter moves start = some session)
    (made : (moment, move) ∈ timeline submitter moves start) :
    moment.worker.phase.rank ≤ session.worker.phase.rank := by
  obtain ⟨before, after, split⟩ := List.append_of_mem made
  obtain ⟨next, rest, moved, later, -⟩ := run_from_timeline ran split
  exact (change_of_step moved).forward.trans (forward_of_run later)

/-- Nor is it earlier than at the beginning. -/
theorem forward_to_timeline {moment : Session φ}
    (made : (moment, move) ∈ timeline submitter moves start) :
    start.worker.phase.rank ≤ moment.worker.phase.rank := by
  obtain ⟨first, rest, -, ran⟩ := run_of_timeline made
  exact forward_of_run ran

/-- A worker that is stopped at the end was stopped at one moment, and stayed so. -/
theorem stops_of_run (live : start.worker.phase ≠ .stopped)
    (ran : run submitter moves start = some session) (stopped : session.worker.phase = .stopped) :
    ∃ before stopping move after next,
      timeline submitter moves start = before ++ (stopping, move) :: after ∧
      (∀ entry ∈ before, entry.1.worker.phase ≠ .stopped) ∧ stopping.worker.phase ≠ .stopped ∧
      stopping.step submitter move = some next ∧ next.worker.phase = .stopped := by
  refine run_induction (motive := fun moves session => session.worker.phase = .stopped →
    ∃ before stopping move after next,
      timeline submitter moves start = before ++ (stopping, move) :: after ∧
      (∀ entry ∈ before, entry.1.worker.phase ≠ .stopped) ∧ stopping.worker.phase ≠ .stopped ∧
      stopping.step submitter move = some next ∧ next.worker.phase = .stopped)
    (fun stopped => absurd stopped live) ?_ moves session ran stopped
  intro moves session move after ran moved ih stopped
  rw [timeline_snoc ran moved]
  by_cases already : session.worker.phase = .stopped
  · obtain ⟨before, stopping, stop, later, next, split, rest⟩ := ih already
    refine ⟨before, stopping, stop, later ++ [(session, move)], next, ?_, rest⟩
    rw [split, List.append_assoc, List.cons_append]
  · refine ⟨_, session, move, [], after, rfl, fun entry member earlier => ?_, already, moved, stopped⟩
    exact already (Phase.stopped_of_forward (forward_of_timeline ran member) earlier)

/-! ### What is accepted -/

/-- The part of an envelope enters the queue by a step of this offer. -/
structure Admits (submitter : Submitter φ ρ) (number : Nat) (whole part : Envelope)
    (moment : Session φ) : Prop where
  found : moment.calls[number]? = some (.enqueue (.filtered whole part))
  left : part.IsPartOf whole
  running : moment.worker.phase = .running
  enters : ∃ after, moment.step submitter (.proceed number) = some after ∧
    after.worker = moment.worker.enter whole part

/-- The task is put at the end of the queue by this move. -/
def Puts (submitter : Submitter φ ρ) (task : Task) (entry : Entry φ ρ) : Prop :=
  ∃ after, entry.1.step submitter entry.2 = some after ∧
    after.worker.queue = entry.1.worker.queue ++ [task]

end Session

/-- An offer that is accepted was so at one of the moments. -/
def Offer.WasAdmitted {φ ρ : Type} (submitter : Submitter φ ρ) (moments : List (Session.Entry φ ρ))
    (number : Nat) : Offer → Prop
  | filtered whole part => part.IsPartOf whole
  | ended whole (.ok true) => ∃ moment part, (moment, .proceed number) ∈ moments ∧
      Session.Admits submitter number whole part moment
  | _ => True

/-- An envelope that is refused is not accepted. -/
theorem Worker.refuse_ne_accepted {φ : Type} (envelope : Envelope) (reason : DropReason)
    (level : Log.Level) (message : Text → Text) (worker : Worker φ) :
    (worker.refuse envelope reason level message).2 ≠ .ok true := by
  unfold refuse
  simp only
  cases ((worker.depot.sayOf envelope level .worker message).andThen fun depot =>
    .done (depot.drop reason)).raised with
  | none => simp
  | some failure => nofun

namespace Offer

variable {φ ρ : Type} {submitter : Submitter φ ρ} {moments : List (Session.Entry φ ρ)} {number : Nat}

theorem WasAdmitted.of_refused {envelope : Envelope} {result : CallResult}
    (refused : result ≠ .ok true) :
    (ended envelope result).WasAdmitted submitter moments number := by
  cases result with
  | error failure => trivial
  | ok accepted =>
    cases accepted with
    | false => trivial
    | true => exact absurd rfl refused

theorem WasAdmitted.mono {offer : Offer} (was : offer.WasAdmitted submitter moments number)
    (entry : Session.Entry φ ρ) : offer.WasAdmitted submitter (moments ++ [entry]) number := by
  cases offer with
  | ended envelope result =>
    by_cases accepted : result = .ok true
    · subst accepted
      obtain ⟨moment, part, made, admits⟩ := was
      exact ⟨moment, part, List.mem_append_left _ made, admits⟩
    · exact .of_refused accepted
  | _ => exact was

end Offer

namespace Session

variable {φ ρ : Type} {submitter : Submitter φ ρ} {start session : Session φ}
  {moves : List (Move ρ)} {number : Nat}

/-- What is accepted was let in at a moment of the run. -/
theorem admitted_of_run (fresh : start.calls = [])
    (ran : run submitter moves start = some session) {whole : Envelope}
    (accepted : session.calls[number]? = some (.enqueue (.ended whole (.ok true)))) :
    ∃ moment part, (moment, .proceed number) ∈ timeline submitter moves start ∧
      Admits submitter number whole part moment := by
  refine offers_of_run (motive := fun moments number offer =>
    offer.WasAdmitted submitter moments number) ?_ ?_ ?_ fresh ran accepted
  · exact fun moments entry number offer _ was => was.mono entry
  · exact fun moves session envelope ran => trivial
  · intro moves session number offer worker next ran found rule moved was
    cases rule with
    | look running => trivial
    | turnAway halted => exact .of_refused (Worker.refuse_ne_accepted _ _ _ _ _)
    | sieve allowed => exact Worker.isPartOf_of_allow allowed
    | hold limited => exact .of_refused (Worker.refuse_ne_accepted _ _ _ _ _)
    | enter running room =>
      refine ⟨session, _, List.mem_append_right _ List.mem_cons_self, found, was, running, ?_⟩
      exact ⟨_, moved, rfl⟩
    | overflow running full => exact .of_refused (Worker.refuse_ne_accepted _ _ _ _ _)
    | late halted => exact .of_refused (Worker.refuse_ne_accepted _ _ _ _ _)

theorem Admits.puts {whole part : Envelope} {moment : Session φ}
    (admits : Admits submitter number whole part moment) :
    Puts submitter (.send part) (moment, .proceed number) := by
  obtain ⟨after, moved, entered⟩ := admits.enters
  exact ⟨after, moved, by rw [entered]; rfl⟩

/-- An envelope is put into the queue only of a worker that runs. -/
theorem running_of_puts {entry : Entry φ ρ} {part : Envelope}
    (puts : Puts submitter (.send part) entry) : entry.1.worker.phase = .running := by
  obtain ⟨after, moved, grown⟩ := puts
  have change := change_of_step moved
  generalize after.worker = worker at change grown
  have longer : worker.queue.length = entry.1.worker.queue.length + 1 := by
    rw [grown, List.length_append]
    rfl
  by_contra halted
  cases change with
  | call rule =>
    have same := rule.waiting
    rw [rule.entered_of_halted halted] at same
    unfold Worker.waiting at same
    rw [grown, List.filterMap_append, List.append_cancel_left_eq] at same
    cases same
  | turn rule =>
    rcases rule.queue_cases with ⟨task, queue, -⟩ | ⟨queue, -⟩
    · rw [queue, List.length_cons] at longer
      omega
    · rw [queue] at longer
      omega
  | tend depot => exact absurd longer (Nat.ne_of_lt (Nat.lt_succ_self _))

/-! ### A whole run -/

/-- What was accepted is settled, if the worker is dry. -/
theorem settled_of_dry {capacity : Int} {limited : Bool} {depot : Depot}
    (ran : run submitter moves (opened (.started capacity limited depot)) = some session)
    (dry : session.worker.IsDry) :
    session.worker.settled.map Prod.fst = session.worker.accepted := by
  have places : session.worker.places.map Prod.fst = session.worker.accepted :=
    kept_of_run (fun worker after => Worker.Change.places) rfl ran
  rw [← places, Worker.map_places, dry.inHand, dry.waiting, List.append_nil, List.append_nil]

/-- The shutdown with this number stops the worker with all that was accepted behind it. -/
structure StopsDry (submitter : Submitter φ ρ) (number : Nat) (before : List (Entry φ ρ))
    (stopping : Session φ) (after : List (Entry φ ρ)) (session : Session φ) : Prop where
  /-- The worker is stopped by this step and not before. -/
  flushed : ∃ seconds, stopping.calls[number]? = some (.shutdown seconds (.flushed true))
  earlier : ∀ entry ∈ before, entry.1.worker.phase ≠ .stopped
  live : stopping.worker.phase ≠ .stopped
  later : ∀ entry ∈ after, entry.1.worker.phase = .stopped
  /-- Whatever is ever accepted was accepted, and submitted or skipped, before this step. -/
  handled : ∀ place whole, session.calls[place]? = some (.enqueue (.ended whole (.ok true))) →
    ∃ moment part dealt, (moment, .proceed place) ∈ before ∧
      Admits submitter place whole part moment ∧
      stopping.worker.settled[moment.worker.accepted.length]? = some (part, dealt) ∧
      (dealt = .skipped ∨ ∃ sent, dealt = .submitted sent)
  /-- Each submission had ended by then. -/
  ended : stopping.worker.submissions.map Prod.snd = stopping.worker.landings
  /-- Nothing is submitted later. -/
  last : session.worker.submissions = stopping.worker.submissions
  /-- Nothing is ever dropped because the worker is stopped. -/
  kept : ∀ envelope, .discarded envelope ∉ session.worker.journal

/-- What a shutdown tells about all that is accepted. -/
structure Drains (submitter : Submitter φ ρ) (moves : List (Move ρ)) (start session : Session φ)
    (number : Nat) (progress : Shutdown) : Prop where
  /-- Whatever is ever accepted was put into the queue before the marker. -/
  ahead : ∀ before marked after,
    timeline submitter moves start = before ++ marked :: after →
    Puts submitter (.marker number) marked →
      (∀ place whole, session.calls[place]? = some (.enqueue (.ended whole (.ok true))) →
        ∃ moment part, (moment, .proceed place) ∈ before ∧
          Admits submitter place whole part moment) ∧
      ∀ entry ∈ after, ∀ part, ¬ Puts submitter (.send part) entry
  /-- If the shutdown succeeds, it stops the worker with all of that behind it. -/
  settles : progress = .ended (.ok true) → ∃ before stopping move after,
    timeline submitter moves start = before ++ (stopping, move) :: after ∧
      StopsDry submitter number before stopping after session

variable {capacity : Int} {limited : Bool} {depot : Depot} {seconds : Binary64}
  {progress : Shutdown}

/-- A shutdown that is asked for goes on, and keeps the answer of its flush. -/
theorem shutdown_of_run (ran : run submitter moves start = some session)
    (found : start.calls[number]? = some (.shutdown seconds progress)) :
    ∃ later, session.calls[number]? = some (.shutdown seconds later) ∧
      ∀ answer, progress.Answers answer → later.Answers answer := by
  refine run_induction (motive := fun _ session =>
    ∃ later, session.calls[number]? = some (.shutdown seconds later) ∧
      ∀ answer, progress.Answers answer → later.Answers answer)
    ⟨progress, found, fun _ => id⟩ ?_ moves session ran
  intro moves session move after ran moved ih
  obtain ⟨later, still, answers⟩ := ih
  obtain ⟨next, found, same | rule⟩ := (stepRule_of_step moved).shutdown_kept still
  · subst same
    exact ⟨next, found, answers⟩
  · exact ⟨next, found, fun answer given => rule.answers (answers answer given)⟩

/-- Once the marker of the shutdown has been put, nothing more is accepted. -/
theorem halted_of_marker {next : Session φ} {rest : List (Move ρ)}
    (few : (moves.filterMap Move.asks?).count .shutdown ≤ 1)
    (ran : run submitter moves (opened (.started capacity limited depot)) = some next)
    (marked : next.worker.HasMarker number) (later : run submitter rest next = some session)
    (asked : session.calls[number]? = some (.shutdown seconds progress)) :
    next.worker.phase ≠ .running := by
  have sealed := sealed_of_run few ran
  obtain ⟨call, found⟩ : ∃ call, next.calls[number]? = some call :=
    ⟨_, List.getElem?_eq_getElem (sealed.known number marked)⟩
  have kind := kind_of_run later found asked
  cases call with
  | shutdown seconds shutdown => exact (sealed.shuts number seconds shutdown found).1.halted marked
  | _ => cases kind

/-- Whatever is ever accepted was put into the queue before the marker of the shutdown. -/
theorem ahead_of_marker (few : (moves.filterMap Move.asks?).count .shutdown ≤ 1)
    (ran : run submitter moves (opened (.started capacity limited depot)) = some session)
    (asked : session.calls[number]? = some (.shutdown seconds progress))
    {before after : List (Entry φ ρ)} {marked : Entry φ ρ}
    (split : timeline submitter moves (opened (.started capacity limited depot)) =
      before ++ marked :: after)
    (puts : Puts submitter (.marker number) marked) :
    (∀ place whole, session.calls[place]? = some (.enqueue (.ended whole (.ok true))) →
      ∃ moment part, (moment, .proceed place) ∈ before ∧
        Admits submitter place whole part moment) ∧
    ∀ entry ∈ after, ∀ part, ¬ Puts submitter (.send part) entry := by
  obtain ⟨moment, move⟩ := marked
  obtain ⟨next, moved, grown⟩ := puts
  obtain ⟨again, rest, same, later, told⟩ := run_from_timeline ran split
  cases moved.symm.trans same
  obtain ⟨first, others, parts, reached, -⟩ := run_to_timeline split
  have fewer : ((first ++ [move]).filterMap Move.asks?).count .shutdown ≤ 1 := by
    have whole : moves = (first ++ [move]) ++ others := by
      rw [parts, List.append_assoc, List.singleton_append]
    rw [whole] at few
    exact few_of_append few
  have here : run submitter (first ++ [move]) (opened (.started capacity limited depot)) =
      some next := by
    rw [run_append, reached, Option.bind_some, run_singleton, moved]
  have marker : next.worker.HasMarker number := by
    left
    rw [grown]
    exact List.mem_append_right _ List.mem_cons_self
  have halted := halted_of_marker fewer here marker later asked
  have none : ∀ entry ∈ after, ∀ part, ¬ Puts submitter (.send part) entry := by
    intro entry member part enters
    rw [← told] at member
    exact Phase.halted_of_forward (forward_to_timeline member) halted (running_of_puts enters)
  refine ⟨fun place whole accepted => ?_, none⟩
  obtain ⟨when, part, made, admits⟩ := admitted_of_run rfl ran accepted
  rw [split] at made
  rcases List.mem_append.mp made with early | rest
  · exact ⟨when, part, early, admits⟩
  rcases List.mem_cons.mp rest with now | late
  · -- The step that puts the marker puts no envelope.
    cases now
    obtain ⟨after, stepped, queue⟩ := admits.puts
    cases moved.symm.trans stepped
    rw [grown, List.append_cancel_left_eq] at queue
    cases queue
  · exact absurd admits.puts (none _ late part)

/-- What is accepted of a whole run has what was accepted earlier in front. -/
theorem accepted_prefix (ran : run submitter moves start = some session) :
    start.worker.accepted <+: session.worker.accepted := by
  refine kept_of_run (motive := fun worker => start.worker.accepted <+: worker.accepted) ?_
    List.prefix_rfl ran
  intro worker after change before
  refine before.trans ?_
  cases change with
  | call rule =>
    rw [rule.accepted]
    exact List.prefix_append _ _
  | turn rule => exact rule.accepted ▸ List.prefix_rfl
  | tend depot => exact List.prefix_rfl

/-- What was let in is among the accepted envelopes, at the place that was free then. -/
theorem accepted_of_admits {place : Nat} {whole part : Envelope} {moment : Session φ}
    (ran : run submitter moves start = some session)
    (made : (moment, .proceed place) ∈ timeline submitter moves start)
    (admits : Admits submitter place whole part moment) :
    session.worker.accepted[moment.worker.accepted.length]? = some part := by
  obtain ⟨before, after, split⟩ := List.append_of_mem made
  obtain ⟨next, rest, moved, later, -⟩ := run_from_timeline ran split
  obtain ⟨again, same, entered⟩ := admits.enters
  cases moved.symm.trans same
  have grown : next.worker.accepted = moment.worker.accepted ++ [part] := by
    rw [entered]
    exact Worker.note_reading ..
  obtain ⟨others, whole⟩ := accepted_prefix later
  rw [← whole, grown, List.append_assoc, List.getElem?_append_right (Nat.le_refl _), Nat.sub_self]
  rfl

/-- What is let in is settled once the worker is dry, and was submitted or skipped, unless the worker
had been stopped before. -/
theorem handled_of_admits {place : Nat} {whole part : Envelope} {moment : Session φ}
    (ran : run submitter moves (opened (.started capacity limited depot)) = some session)
    (dry : session.worker.IsDry) (kept : ∀ envelope, .discarded envelope ∉ session.worker.journal)
    (made : (moment, .proceed place) ∈
      timeline submitter moves (opened (.started capacity limited depot)))
    (admits : Admits submitter place whole part moment) :
    ∃ dealt, session.worker.settled[moment.worker.accepted.length]? = some (part, dealt) ∧
      (dealt = .skipped ∨ ∃ sent, dealt = .submitted sent) := by
  have accepted := accepted_of_admits ran made admits
  rw [← settled_of_dry ran dry, List.getElem?_map] at accepted
  obtain ⟨⟨entered, dealt⟩, there, same⟩ := Option.map_eq_some_iff.mp accepted
  cases same
  have told := List.mem_of_getElem? there
  refine ⟨dealt, there, ?_⟩
  rcases Worker.settled_cases told with skipped | submitted | rfl
  · exact .inl skipped
  · exact .inr submitted
  · exact absurd (Worker.mem_settled_discarded_iff.mp told) (kept entered)

/-- A worker that was not stopped at any moment has discarded nothing. -/
theorem not_discarded_of_live (fresh : start.worker.journal = [])
    (ran : run submitter moves start = some session)
    (live : ∀ entry ∈ timeline submitter moves start, entry.1.worker.phase ≠ .stopped)
    (envelope : Envelope) : .discarded envelope ∉ session.worker.journal := by
  intro happened
  obtain ⟨moment, move, made, -, stopped⟩ := happening_arose fresh ran happened
  exact live _ made stopped

/-- A dry worker settles nothing more. -/
theorem settled_of_run (dry : start.worker.IsDry) (ran : run submitter moves start = some session) :
    session.worker.settled = start.worker.settled := by
  have kept : session.worker.IsDry ∧ session.worker.settled = start.worker.settled := by
    refine kept_of_run (motive := fun worker =>
      worker.IsDry ∧ worker.settled = start.worker.settled) ?_ ⟨dry, rfl⟩ ran
    intro worker after change kept
    obtain ⟨still, same, -⟩ := kept.1.change change
    exact ⟨still, same.trans kept.2⟩
  exact kept.2

/-- The shutdown that succeeds is the one that stops the worker, and its flush had succeeded. -/
theorem flushed_of_stops {stopping next : Session φ} {rest : List (Move ρ)}
    (few : session.kinds.count .shutdown ≤ 1) (moved : stopping.step submitter move = some next)
    (live : stopping.worker.phase ≠ .stopped) (stopped : next.worker.phase = .stopped)
    (onward : run submitter rest next = some session)
    (asked : session.calls[number]? = some (.shutdown seconds (.ended (.ok true)))) :
    ∃ seconds, stopping.calls[number]? = some (.shutdown seconds (.flushed true)) := by
  obtain ⟨which, patience, answer, flushed, joining⟩ := (stepRule_of_step moved).stops live stopped
  obtain ⟨final, found, answers⟩ := shutdown_of_run onward joining
  cases shutdown_unique few found asked
  rw [asked] at found
  cases found
  have yes : true = answer := answers answer rfl
  rw [← yes] at flushed
  exact ⟨_, flushed⟩

/-- A shutdown that succeeds stops the worker with all that is accepted behind it. -/
theorem stopsDry_of_success (few : (moves.filterMap Move.asks?).count .shutdown ≤ 1)
    (ran : run submitter moves (opened (.started capacity limited depot)) = some session)
    (asked : session.calls[number]? = some (.shutdown seconds (.ended (.ok true)))) :
    ∃ before stopping move after,
      timeline submitter moves (opened (.started capacity limited depot)) =
        before ++ (stopping, move) :: after ∧
      StopsDry submitter number before stopping after session := by
  have stopped := ((sealed_of_run few ran).shuts number seconds _ asked).2.1
  have opening : (opened (.started capacity limited depot) : Session φ).worker.phase ≠ .stopped :=
    nofun
  obtain ⟨before, stopping, move, after, next, split, earlier, live, moved, nextStopped⟩ :=
    stops_of_run opening ran stopped
  obtain ⟨first, others, parts, reached, moments⟩ := run_to_timeline split
  obtain ⟨again, rest, same, onward, told⟩ := run_from_timeline ran split
  cases moved.symm.trans same
  have kinds : session.kinds.count .shutdown ≤ 1 := by
    rw [kinds_of_run ran]
    exact few
  obtain ⟨patience, flushed⟩ := flushed_of_stops kinds moved live nextStopped onward asked
  have fewer : (first.filterMap Move.asks?).count .shutdown ≤ 1 := by
    rw [parts] at few
    exact few_of_append few
  have dry : stopping.worker.IsDry :=
    ((sealed_of_run fewer reached).shuts number _ _ flushed).2.2 rfl
  have settled : session.worker.settled = stopping.worker.settled := by
    have later : run submitter (move :: rest) stopping = some session := by
      rw [run, moved, Option.bind_some]
      exact onward
    exact settled_of_run dry later
  have later : ∀ entry ∈ after, entry.1.worker.phase = .stopped := by
    intro entry member
    rw [← told] at member
    exact Phase.stopped_of_forward (forward_to_timeline member) nextStopped
  have kept : ∀ envelope, .discarded envelope ∉ stopping.worker.journal := by
    refine not_discarded_of_live rfl reached ?_
    rw [moments]
    exact earlier
  refine ⟨before, stopping, move, after, split, ⟨patience, flushed⟩, earlier, live, later, ?_, ?_, ?_, ?_⟩
  · intro place envelope accepted
    obtain ⟨moment, part, made, admits⟩ := admitted_of_run rfl ran accepted
    have early : (moment, .proceed place) ∈ before := by
      rw [split] at made
      rcases List.mem_append.mp made with early | rest
      · exact early
      rcases List.mem_cons.mp rest with now | late
      · cases now
        exact absurd admits.running dry.halted
      · have halted := later _ late
        rw [admits.running] at halted
        cases halted
    rw [← moments] at early ⊢
    obtain ⟨dealt, there, handled⟩ := handled_of_admits reached dry kept early admits
    exact ⟨moment, part, dealt, early, admits, there, handled⟩
  · have opening : (Worker.started capacity limited depot : Worker φ).Balanced := rfl
    have balanced : stopping.worker.Balanced :=
      kept_of_run (fun worker after => Worker.Change.balanced) opening reached
    unfold Worker.Balanced at balanced
    rw [balanced, dry.underWay, List.append_nil]
  · rw [Worker.submissions_eq, Worker.submissions_eq, settled]
  · intro envelope
    rw [← Worker.mem_settled_discarded_iff, settled, Worker.mem_settled_discarded_iff]
    exact kept envelope

/-- A shutdown that is over has its result. -/
theorem shutdown_of_result {result : CallResult}
    (asked : session.kinds[number]? = some .shutdown)
    (answered : (session.calls.map Call.result?)[number]? = some (some result)) :
    ∃ seconds, session.calls[number]? = some (.shutdown seconds (.ended result)) := by
  unfold kinds at asked
  rw [List.getElem?_map] at asked answered
  obtain ⟨call, found, kind⟩ := Option.map_eq_some_iff.mp asked
  rw [found] at answered ⊢
  cases call with
  | shutdown seconds progress =>
    cases progress with
    | ended final =>
      cases answered
      exact ⟨seconds, rfl⟩
    | _ => cases answered
  | _ => cases kind

/-- **A shutdown lets nothing slip.** In every run with no other shutdown, whatever is ever accepted
was put into the queue before the marker of the shutdown; and if the shutdown succeeds, all of it was
submitted or skipped before the worker was stopped, and nothing is submitted later. -/
theorem shutdown_drains (submitter : Submitter φ ρ) (capacity : Int) (limited : Bool)
    (depot : Depot) (moves : List (Move ρ)) (session : Session φ)
    (ran : run submitter moves (opened (.started capacity limited depot)) = some session)
    (few : (moves.filterMap Move.asks?).count .shutdown ≤ 1) (number : Nat) (seconds : Binary64)
    (progress : Shutdown)
    (asked : session.calls[number]? = some (.shutdown seconds progress)) :
    Drains submitter moves (opened (.started capacity limited depot)) session number progress where
  ahead _ _ _ split puts := ahead_of_marker few ran asked split puts
  settles succeeds := by
    subst succeeds
    exact stopsDry_of_success few ran asked

/-- One envelope is accepted and submitted; another one has been checked when a shutdown begins, and
is turned away. -/
def racingShutdown : List (Move Unit) :=
  [.enqueue (event "first"), .proceed 0, .proceed 0, .proceed 0,
    .enqueue (event "second"), .proceed 1, .proceed 1,
    .shutdown 0, .proceed 2, .proceed 1, .proceed 2, .proceed 2,
    .work, .work, .work, .work, .receive (), .work, .work, .proceed 2, .proceed 2,
    .work, .work, .proceed 2]

/-- The shutdown succeeds, with the one envelope that was accepted behind it. -/
theorem racing_shutdown_drains :
    ∃ session seconds, run breaking racingShutdown (opened (.started 10 true (.opened ⟨1000, 0⟩))) =
        some session ∧
      (racingShutdown.filterMap Move.asks?).count .shutdown ≤ 1 ∧
      session.calls.map Call.result? = [some (.ok true), some (.ok false), some (.ok true)] ∧
      session.calls[2]? = some (.shutdown seconds (.ended (.ok true))) ∧
      Drains breaking racingShutdown (opened (.started 10 true (.opened ⟨1000, 0⟩))) session 2
        (.ended (.ok true)) := by
  have goes : (run breaking racingShutdown (opened (.started 10 true (.opened ⟨1000, 0⟩)))).map
      (fun session => (session.calls.map Call.result?, session.kinds)) =
        some ([some (.ok true), some (.ok false), some (.ok true)],
          [.enqueue, .enqueue, .shutdown]) := by
    decide +kernel
  obtain ⟨session, ran, shape⟩ := Option.map_eq_some_iff.mp goes
  obtain ⟨results, kinds⟩ := Prod.mk.inj shape
  have few : (racingShutdown.filterMap Move.asks?).count .shutdown ≤ 1 := by decide
  obtain ⟨seconds, asked⟩ : ∃ seconds,
      session.calls[2]? = some (.shutdown seconds (.ended (.ok true))) := by
    refine shutdown_of_result ?_ ?_
    · rw [kinds]
      rfl
    · rw [results]
      rfl
  exact ⟨session, seconds, ran, few, results, asked,
    shutdown_drains breaking 10 true _ _ session ran few 2 seconds _ asked⟩

end Session

end Courier
