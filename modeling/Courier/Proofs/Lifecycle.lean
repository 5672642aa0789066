/-
**The life of a worker.**

A worker runs, drains and is stopped, each in its time and each once, however many shutdowns are
under way. Once it has left its running phase nothing enters the queue, and of what the thread takes
once it is stopped nothing is submitted. The end of the thread is told once, behind the end of every
submission, and nothing is submitted afterwards.

* `Session.Halts.step`: a worker whose shutdown has begun no longer runs.
* `Worker.WindsUp.change`: what a stopped worker still does to envelopes.
* `Worker.EndsOnce.change`: when the end of the thread is told.
* `Session.worker_runs_its_course`: the life of a worker, over a whole run.
-/
import Courier.Proofs.Barrier
namespace Courier

/-- From the one phase to the other in one step: it stays, or the next one begins. -/
def Phase.StepsTo (phase next : Phase) : Prop :=
  next = phase ∨ (phase = .running ∧ next = .draining) ∨ (phase = .draining ∧ next = .stopped)

theorem Stage.IsCleared.inHand {φ : Type} {stage : Stage φ} (cleared : stage.IsCleared) :
    stage.inHand.length = 1 := by
  cases stage with
  | cleared whole => rfl
  | filtered whole part => rfl
  | _ => exact cleared.elim

/-- An envelope enters the queue. -/
def Happening.IsAcceptance {φ : Type} (happening : Happening φ) : Prop :=
  ∃ whole part, happening = .accepted whole part

namespace Worker

variable {φ ρ : Type} {submitter : Submitter φ ρ} {worker after : Worker φ} {count : Nat}

/-! ### Queues that are closed -/

theorem ThreadRule.waiting_suffix (rule : worker.ThreadRule submitter after) :
    after.waiting <:+ worker.waiting := by
  rw [waiting_eq, waiting_eq]
  refine List.IsSuffix.filterMap _ ?_
  rcases rule.queue_cases with ⟨task, queue, -⟩ | ⟨queue, -⟩
  · rw [queue]
    exact List.suffix_cons task after.queue
  · exact queue ▸ List.suffix_rfl

/-- Once the worker has left its running phase, nothing enters the queue. -/
theorem Change.halted (change : worker.Change submitter after) (halted : worker.phase ≠ .running) :
    after.phase ≠ .running ∧ after.accepted = worker.accepted ∧
      after.waiting <:+ worker.waiting := by
  refine ⟨Phase.halted_of_forward change.forward halted, ?_⟩
  cases change with
  | call rule =>
    cases rule.entered_of_halted halted
    refine ⟨rule.accepted.trans (List.append_nil _), ?_⟩
    have waiting := rule.waiting.trans (List.append_nil _)
    exact waiting ▸ List.suffix_rfl
  | turn rule => exact ⟨rule.accepted, rule.waiting_suffix⟩
  | tend depot => exact ⟨rfl, List.suffix_rfl⟩

/-! ### Stopped workers -/

theorem close_not_isCleared (outcome : Outcome) (worker : Worker φ) :
    ¬ (worker.close outcome).stage.IsCleared := by
  rcases close_idle_or_ended outcome worker with idle | ended
  · rw [idle]
    exact id
  · rw [ended]
    exact id

/-- A stopped worker clears no envelope. -/
theorem ThreadRule.isCleared (rule : worker.ThreadRule submitter after)
    (stopped : worker.phase = .stopped) (cleared : after.stage.IsCleared) :
    worker.stage.IsCleared := by
  cases rule with
  | discard holds stopped => exact absurd cleared (close_not_isCleared _ _)
  | clear holds live => exact absurd stopped live
  | skip holds limited => exact absurd cleared (close_not_isCleared _ _)
  | sieve holds allowed =>
    rw [holds]
    trivial
  | fulfil holds begun => exact absurd cleared (close_not_isCleared _ _)
  | land reply holds => exact absurd cleared (close_not_isCleared _ _)
  | _ => exact cleared.elim

/-- A stopped worker settles so many envelopes, those that it had taken before among them, and
discards whatever else it takes. -/
structure WindsUp (count : Nat) (worker : Worker φ) : Prop where
  stopped : worker.phase = .stopped
  dropped : ∀ entry ∈ worker.settled.drop count, entry.2 = .discarded
  /-- What has been cleared was taken before. -/
  taken : worker.stage.IsCleared → worker.settled.length < count

theorem windsUp_of_stopped (stopped : worker.phase = .stopped) :
    worker.WindsUp (worker.settled.length + worker.stage.inHand.length) where
  stopped := stopped
  dropped entry member := by
    rw [List.drop_eq_nil_of_le (Nat.le_add_right _ _)] at member
    cases member
  taken cleared := by
    rw [cleared.inHand]
    exact Nat.lt_succ_self _

theorem WindsUp.turn (winds : worker.WindsUp count) (rule : worker.ThreadRule submitter after) :
    after.WindsUp count := by
  have stopped : after.phase = .stopped := rule.phase.trans winds.stopped
  rcases rule.settled_cases with same | ⟨entry, told, -, free, why⟩
  · refine ⟨stopped, same ▸ winds.dropped, fun cleared => ?_⟩
    rw [same]
    exact winds.taken (rule.isCleared winds.stopped cleared)
  · have uncleared : ¬ after.stage.IsCleared := by
      intro cleared
      have one := cleared.inHand
      rw [free] at one
      cases one
    refine ⟨stopped, fun other member => ?_, fun cleared => absurd cleared uncleared⟩
    rw [told, List.drop_append] at member
    rcases List.mem_append.mp member with old | new
    · exact winds.dropped other old
    rcases why with discarded | cleared
    · rw [List.mem_singleton.mp (List.mem_of_mem_drop new)]
      exact discarded
    · -- What had been cleared is still one of those that were taken before.
      have early := winds.taken cleared
      rw [List.drop_eq_nil_of_le (Nat.sub_pos_of_lt early)] at new
      cases new

theorem WindsUp.change (winds : worker.WindsUp count) (change : worker.Change submitter after) :
    after.WindsUp count := by
  cases change with
  | call rule =>
    refine ⟨Phase.stopped_of_forward rule.forward winds.stopped, ?_, ?_⟩
    · rw [rule.settled]
      exact winds.dropped
    · rw [rule.settled, rule.stage]
      exact winds.taken
  | turn rule => exact winds.turn rule
  | tend depot => exact ⟨winds.stopped, winds.dropped, winds.taken⟩

/-! ### The end of the thread -/

/-- The thread goes on and has not told of an end, or its end is the last that was told. -/
def TellsEnd (worker : Worker φ) : Prop :=
  (worker.isAlive ∧ .closed ∉ worker.journal) ∨
    (worker.isAlive = false ∧ ∃ before, worker.journal = before ++ [.closed] ∧ .closed ∉ before)

theorem note_untold {happening : Happening φ} (other : happening ≠ .closed)
    (untold : .closed ∉ worker.journal) : .closed ∉ (worker.note happening).journal := by
  intro told
  rcases List.mem_append.mp told with before | now
  · exact untold before
  · exact other (List.mem_singleton.mp now).symm

theorem close_tellsEnd (untold : .closed ∉ worker.journal) (outcome : Outcome) :
    (worker.close outcome).TellsEnd := by
  unfold close
  cases outcome.raised with
  | none => exact .inl ⟨rfl, untold⟩
  | some failure => exact .inr ⟨rfl, worker.journal, rfl, untold⟩

theorem ThreadRule.tellsEnd (rule : worker.ThreadRule submitter after)
    (untold : .closed ∉ worker.journal) : after.TellsEnd := by
  cases rule with
  | leave starved stopped => exact .inr ⟨rfl, worker.journal, rfl, untold⟩
  | discard holds stopped => exact close_tellsEnd (note_untold (by nofun) untold) _
  | skip holds limited => exact close_tellsEnd (note_untold (by nofun) untold) _
  | fulfil holds begun =>
    exact close_tellsEnd (note_untold (by nofun) (note_untold (by nofun) untold)) _
  | depart holds begun => exact .inl ⟨rfl, note_untold (by nofun) (note_untold (by nofun) untold)⟩
  | land reply holds => exact close_tellsEnd (note_untold (by nofun) untold) _
  | _ => exact .inl ⟨rfl, untold⟩

/-- The end of the thread is told once, and of what happens later only that envelopes are
accepted. -/
structure EndsOnce (worker : Worker φ) : Prop where
  going : worker.isAlive → .closed ∉ worker.journal
  gone : worker.isAlive = false → ∃ before after, worker.journal = before ++ .closed :: after ∧
    .closed ∉ before ∧ ∀ happening ∈ after, happening.IsAcceptance

theorem TellsEnd.endsOnce (tells : worker.TellsEnd) : worker.EndsOnce := by
  rcases tells with ⟨alive, untold⟩ | ⟨dead, before, told, once⟩
  · exact ⟨fun _ => untold, fun dead => absurd (alive.symm.trans dead) nofun⟩
  · exact ⟨fun alive => absurd (alive.symm.trans dead) nofun,
      fun _ => ⟨before, [], told, once, nofun⟩⟩

theorem CallRule.journal_cases {entered : List Envelope} (rule : worker.CallRule entered after) :
    after.journal = worker.journal ∨
      ∃ whole part, after.journal = worker.journal ++ [.accepted whole part] := by
  cases rule with
  | accept whole part running room => exact .inr ⟨whole, part, rfl⟩
  | _ => exact .inl rfl

theorem CallRule.isAlive {entered : List Envelope} (rule : worker.CallRule entered after) :
    after.isAlive = worker.isAlive := by
  unfold Worker.isAlive
  rw [rule.stage]

theorem EndsOnce.change (ends : worker.EndsOnce) (change : worker.Change submitter after) :
    after.EndsOnce := by
  cases change with
  | call rule =>
    have alive := rule.isAlive
    rcases rule.journal_cases with same | ⟨whole, part, told⟩
    · refine ⟨?_, ?_⟩
      · rw [alive, same]
        exact ends.going
      · rw [alive, same]
        exact ends.gone
    · refine ⟨fun still => ?_, fun dead => ?_⟩
      · rw [told]
        have fresh : Happening.accepted whole part ≠ (.closed : Happening φ) := nofun
        exact note_untold fresh (ends.going (alive ▸ still))
      · obtain ⟨before, later, split, once, quiet⟩ := ends.gone (alive ▸ dead)
        refine ⟨before, later ++ [.accepted whole part], ?_, once, fun happening member => ?_⟩
        · rw [told, split, List.append_assoc, List.cons_append]
        · rcases List.mem_append.mp member with early | last
          · exact quiet happening early
          · exact ⟨whole, part, List.mem_singleton.mp last⟩
  | turn rule => exact (rule.tellsEnd (ends.going rule.isAlive)).endsOnce
  | tend depot => exact ⟨ends.going, ends.gone⟩

/-- When the end of the thread is told, every submission has ended. -/
theorem EndsOnce.landed (ends : worker.EndsOnce) (balance : worker.Balanced)
    {before after : List (Happening φ)} (split : worker.journal = before ++ .closed :: after) :
    worker.isAlive = false ∧ .closed ∉ before ∧
      (before.filterMap Happening.submission?).map Prod.snd =
        before.filterMap Happening.landing? ∧
      ∀ happening ∈ after, happening.IsAcceptance := by
  have dead : worker.isAlive = false := by
    refine eq_false_of_ne_true fun alive => ends.going alive ?_
    rw [split]
    exact List.mem_append_right _ List.mem_cons_self
  obtain ⟨first, later, told, once, quiet⟩ := ends.gone dead
  have apart : .closed ∉ later := by
    intro again
    obtain ⟨whole, part, same⟩ := quiet _ again
    cases same
  obtain ⟨rfl, -, rfl⟩ :=
    (List.append_cons_inj_of_notMem once apart).mp (told.symm.trans split)
  refine ⟨dead, once, ?_, quiet⟩
  have nothing {α : Type} {read : Happening φ → Option α}
      (blind : ∀ whole part, read (.accepted whole part) = none) (end_blind : read .closed = none) :
      worker.journal.filterMap read = first.filterMap read := by
    have silent : later.filterMap read = [] := by
      refine List.filterMap_eq_nil_iff.mpr fun happening member => ?_
      obtain ⟨whole, part, rfl⟩ := quiet happening member
      exact blind whole part
    rw [told, List.filterMap_append, List.filterMap_cons_none end_blind, silent, List.append_nil]
  unfold Balanced submissions landings at balance
  rw [nothing (fun _ _ => rfl) rfl, nothing (fun _ _ => rfl) rfl,
    stage_of_not_isAlive dead] at balance
  exact balance.trans (List.append_nil _)

end Worker

namespace Session

variable {φ ρ : Type} {submitter : Submitter φ ρ} {start session after : Session φ}
  {moves : List (Move ρ)} {move : Move ρ}

/-! ### Phases of a session -/

/-- Once a shutdown has begun, the worker no longer runs. -/
def Halts (session : Session φ) : Prop :=
  ∀ (number : Nat) (seconds : Binary64) (progress : Shutdown),
    session.calls[number]? = some (.shutdown seconds progress) → progress ≠ .asked →
      session.worker.phase ≠ .running

theorem Halts.step (halts : session.Halts) (moved : session.step submitter move = some after) :
    after.Halts := by
  have forward := (change_of_step moved).forward
  intro number seconds next found begun
  rcases (stepRule_of_step moved).shutdown_cases found with same | ⟨-, asked, -⟩ |
    ⟨progress, before, rule⟩
  · exact Phase.halted_of_forward forward (halts number seconds next same begun)
  · exact absurd asked begun
  by_cases first : progress = .asked
  · subst first
    generalize after.worker = worker at rule
    cases rule with
    | repeated stopped =>
      rw [stopped]
      nofun
    | drain live =>
      show Phase.draining ≠ .running
      nofun
  · exact Phase.halted_of_forward forward (halts number seconds progress before first)

/-- A worker drains before it is stopped. -/
theorem Halts.stepsTo (halts : session.Halts) (moved : session.step submitter move = some after) :
    session.worker.phase.StepsTo after.worker.phase := by
  have forward := (change_of_step moved).forward
  have stops := (stepRule_of_step moved).stops
  have halted : session.worker.phase = .running → after.worker.phase ≠ .stopped := by
    intro running stopped
    obtain ⟨number, seconds, answer, found, -⟩ := stops (running ▸ nofun) stopped
    exact halts number seconds _ found nofun running
  generalize session.worker.phase = phase at forward halted
  generalize after.worker.phase = next at forward halted
  cases phase with
  | running =>
    cases next with
    | running => exact .inl rfl
    | draining => exact .inr (.inl ⟨rfl, rfl⟩)
    | stopped => exact absurd rfl (halted rfl)
  | draining =>
    cases next with
    | running => exact absurd forward (by decide)
    | draining => exact .inl rfl
    | stopped => exact .inr (.inr ⟨rfl, rfl⟩)
  | stopped => exact .inl (Phase.stopped_of_forward forward rfl)

theorem halts_of_run (fresh : start.calls = []) (ran : run submitter moves start = some session) :
    session.Halts := by
  refine run_induction (motive := fun _ session => session.Halts) ?_ ?_ moves session ran
  · intro number seconds progress found
    rw [fresh] at found
    cases found
  · exact fun moves session move after ran moved halts => halts.step moved

theorem onward_of_timeline {moment : Session φ} (ran : run submitter moves start = some session)
    (made : (moment, move) ∈ timeline submitter moves start) :
    ∃ rest, run submitter rest moment = some session := by
  obtain ⟨before, after, split⟩ := List.append_of_mem made
  obtain ⟨next, rest, moved, later, -⟩ := run_from_timeline ran split
  refine ⟨move :: rest, ?_⟩
  rw [run, moved, Option.bind_some, later]

/-- Once the worker has left its running phase, a run puts nothing into the queue. -/
theorem sealed_of_halted (halted : start.worker.phase ≠ .running)
    (ran : run submitter moves start = some session) :
    session.worker.accepted = start.worker.accepted ∧
      session.worker.waiting <:+ start.worker.waiting := by
  have kept : session.worker.phase ≠ .running ∧
      session.worker.accepted = start.worker.accepted ∧
      session.worker.waiting <:+ start.worker.waiting := by
    refine kept_of_run (motive := fun worker => worker.phase ≠ .running ∧
      worker.accepted = start.worker.accepted ∧ worker.waiting <:+ start.worker.waiting) ?_
      ⟨halted, rfl, List.suffix_rfl⟩ ran
    intro worker after change kept
    obtain ⟨still, accepted, waiting⟩ := change.halted kept.1
    exact ⟨still, accepted.trans kept.2.1, waiting.trans kept.2.2⟩
  exact kept.2

/-- The life of the worker in a run. -/
structure RunsItsCourse (submitter : Submitter φ ρ) (moves : List (Move ρ))
    (start session : Session φ) : Prop where
  /-- The worker runs, then drains, then is stopped. -/
  forward : ∀ moment move next, (moment, move) ∈ timeline submitter moves start →
    moment.step submitter move = some next → moment.worker.phase.StepsTo next.worker.phase
  /-- No phase comes back. -/
  onward : ∀ entry ∈ timeline submitter moves start,
    entry.1.worker.phase.rank ≤ session.worker.phase.rank
  /-- From the moment on at which the worker no longer runs nothing enters the queue. -/
  sealed : ∀ entry ∈ timeline submitter moves start, entry.1.worker.phase ≠ .running →
    session.worker.accepted = entry.1.worker.accepted ∧
      session.worker.waiting <:+ entry.1.worker.waiting
  /-- Whatever the thread takes from the moment on at which the worker is stopped, behind what it
  has settled or has in hand, is discarded. -/
  unsent : ∀ entry ∈ timeline submitter moves start, entry.1.worker.phase = .stopped →
    ∀ item ∈ session.worker.settled.drop
      (entry.1.worker.settled.length + entry.1.worker.stage.inHand.length),
      item.2 = .discarded
  /-- The end of the thread is told when it has ended. -/
  ends : session.worker.isAlive = false ↔ .closed ∈ session.worker.journal
  /-- It is told once, every submission has ended by then, and nothing is submitted later. -/
  last : ∀ before after, session.worker.journal = before ++ .closed :: after →
    .closed ∉ before ∧
      (before.filterMap Happening.submission?).map Prod.snd =
        before.filterMap Happening.landing? ∧
      ∀ happening ∈ after, happening.IsAcceptance

/-- **Every worker runs its course.** -/
theorem worker_runs_its_course (submitter : Submitter φ ρ) (capacity : Int) (limited : Bool)
    (depot : Depot) (moves : List (Move ρ)) (session : Session φ)
    (ran : run submitter moves (opened (.started capacity limited depot)) = some session) :
    RunsItsCourse submitter moves (opened (.started capacity limited depot)) session := by
  have opening : (Worker.started capacity limited depot : Worker φ).EndsOnce :=
    ⟨fun _ => List.not_mem_nil, nofun⟩
  have ends : session.worker.EndsOnce :=
    kept_of_run (fun worker after change ends => ends.change change) opening ran
  refine ⟨?_, ?_, ?_, ?_, ?_, ?_⟩
  · intro moment move next made moved
    obtain ⟨first, rest, -, reached⟩ := run_of_timeline made
    exact (halts_of_run rfl reached).stepsTo moved
  · exact fun entry made => forward_of_timeline ran made
  · intro entry made halted
    obtain ⟨rest, onward⟩ := onward_of_timeline ran made
    exact sealed_of_halted halted onward
  · intro entry made stopped
    obtain ⟨rest, onward⟩ := onward_of_timeline ran made
    have winds := kept_of_run (motive := fun worker => worker.WindsUp
      (entry.1.worker.settled.length + entry.1.worker.stage.inHand.length))
      (fun worker after change winds => winds.change change)
      (Worker.windsUp_of_stopped stopped) onward
    exact winds.dropped
  · constructor
    · intro dead
      obtain ⟨before, after, told, -⟩ := ends.gone dead
      rw [told]
      exact List.mem_append_right _ List.mem_cons_self
    · intro told
      exact eq_false_of_ne_true fun alive => ends.going alive told
  · intro before after split
    exact (ends.landed (balanced_of_run ran) split).2

/-- Two shutdowns overlap while one envelope is on its way, another one waits, and a third one has
been checked but not yet put into the queue. -/
def overlappingShutdowns : List (Move Unit) :=
  [.enqueue (event "first"), .proceed 0, .proceed 0, .proceed 0,
    .enqueue (event "second"), .proceed 1, .proceed 1, .proceed 1,
    .enqueue (event "third"), .proceed 2, .proceed 2, .work, .work, .work, .work,
    .shutdown 0, .shutdown 1, .proceed 3, .proceed 4, .proceed 2, .proceed 3, .proceed 3,
    .proceed 4, .giveUp 3, .proceed 3, .receive (), .work, .work, .proceed 4,
    .work, .work, .work, .work, .proceed 4, .proceed 4, .work, .work, .proceed 3, .proceed 4]

/-- One envelope is submitted, one discarded, and one was turned away; the thread ends once. -/
theorem overlapping_shutdowns_run_their_course :
    ∃ session, run breaking overlappingShutdowns (opened (.started 10 true (.opened ⟨1000, 0⟩))) =
        some session ∧
      session.calls.map Call.result? =
        [some (.ok true), some (.ok true), some (.ok false), some (.ok false), some (.ok true)] ∧
      session.worker.settled.length = 2 ∧ session.worker.landings.length = 1 ∧
      RunsItsCourse breaking overlappingShutdowns (opened (.started 10 true (.opened ⟨1000, 0⟩)))
        session := by
  have goes : (run breaking overlappingShutdowns
      (opened (.started 10 true (.opened ⟨1000, 0⟩)))).map
      (fun session => (session.calls.map Call.result?, session.worker.settled.length,
        session.worker.landings.length)) =
        some ([some (.ok true), some (.ok true), some (.ok false), some (.ok false),
          some (.ok true)], 2, 1) := by
    decide +kernel
  obtain ⟨session, ran, shape⟩ := Option.map_eq_some_iff.mp goes
  obtain ⟨results, rest⟩ := Prod.mk.inj shape
  obtain ⟨settled, landed⟩ := Prod.mk.inj rest
  exact ⟨session, ran, results, settled, landed,
    worker_runs_its_course breaking 10 true _ _ session ran⟩

end Session

end Courier
