/-
**What the journal tells.**

The journal of a worker only grows, and each happening in it arose in a situation of its own: an
envelope was discarded by a thread that held it while the worker was stopped, and so on. Whatever
reads the journal, and overlooks the end of the thread, is not changed by the end of a task.

* `Worker.close_reading`: the end of a task tells nothing but the end of the thread.
* `Worker.ThreadRule.accepted`: the thread never puts an envelope into the queue.
* `Worker.Change.journal`: a move appends what arose in the worker before it.
* `Session.happening_arose`: each happening arose at some moment of the run.
-/
import Courier.Proofs.Moves
namespace Courier

namespace Worker

variable {φ ρ : Type}

/-! ### The end of a task -/

theorem close_stage_of_done {outcome : Outcome} (done : outcome.raised = none)
    (worker : Worker φ) : (worker.close outcome).stage = .idle := by
  unfold close
  rw [done]
  rfl

theorem close_stage_of_raised {outcome : Outcome} {failure : Failure}
    (raised : outcome.raised = some failure) (worker : Worker φ) :
    (worker.close outcome).stage = .ended := by
  unfold close
  rw [raised]
  rfl

theorem close_idle_or_ended (outcome : Outcome) (worker : Worker φ) :
    (worker.close outcome).stage = .idle ∨ (worker.close outcome).stage = .ended := by
  cases raised : outcome.raised with
  | none => exact .inl (close_stage_of_done raised worker)
  | some failure => exact .inr (close_stage_of_raised raised worker)

theorem close_stage_ne (stage : Stage φ) (busy : stage ≠ .idle) (goes : stage ≠ .ended)
    (outcome : Outcome) (worker : Worker φ) : (worker.close outcome).stage ≠ stage := by
  intro same
  rcases close_idle_or_ended outcome worker with idle | ended
  · exact busy (same.symm.trans idle)
  · exact goes (same.symm.trans ended)

theorem close_limited (outcome : Outcome) (worker : Worker φ) :
    (worker.close outcome).limited = worker.limited := by
  unfold close
  cases outcome.raised <;> rfl

theorem close_waiting (outcome : Outcome) (worker : Worker φ) :
    (worker.close outcome).waiting = worker.waiting := by
  unfold waiting
  rw [close_queue]

/-- The end of a task tells at most that the thread has ended. -/
theorem close_journal (outcome : Outcome) (worker : Worker φ) :
    ∃ news, (worker.close outcome).journal = worker.journal ++ news ∧
      ∀ happening ∈ news, happening = .closed := by
  unfold close
  cases outcome.raised with
  | none => exact ⟨[], (List.append_nil _).symm, by simp⟩
  | some failure => exact ⟨[.closed], rfl, by simp⟩

/-- A reading of the journal that overlooks the end of the thread. -/
theorem close_reading {α : Type} {read : Happening φ → Option α} (blind : read .closed = none)
    (outcome : Outcome) (worker : Worker φ) :
    (worker.close outcome).journal.filterMap read = worker.journal.filterMap read := by
  obtain ⟨news, told, ends⟩ := close_journal outcome worker
  have nothing : news.filterMap read = [] := by
    refine List.filterMap_eq_nil_iff.mpr fun happening member => ?_
    rw [ends happening member, blind]
  rw [told, List.filterMap_append, nothing, List.append_nil]

/-- A happening adds to a reading what it is read as, if anything. -/
theorem note_reading {α : Type} (read : Happening φ → Option α) (happening : Happening φ)
    (worker : Worker φ) : (worker.note happening).journal.filterMap read =
      worker.journal.filterMap read ++ (read happening).toList := by
  have one : [happening].filterMap read = (read happening).toList := by
    cases reads : read happening with
    | none => exact List.filterMap_cons_none reads
    | some value => exact List.filterMap_cons_some reads
  unfold note
  rw [List.filterMap_append, one]

theorem note_unread {α : Type} {read : Happening φ → Option α} {happening : Happening φ}
    (unread : read happening = none) (worker : Worker φ) :
    (worker.note happening).journal.filterMap read = worker.journal.filterMap read := by
  rw [note_reading, unread, Option.toList_none, List.append_nil]

theorem close_note_reading {α : Type} {read : Happening φ → Option α} (blind : read .closed = none)
    (happening : Happening φ) (outcome : Outcome) (worker : Worker φ) :
    ((worker.note happening).close outcome).journal.filterMap read =
      worker.journal.filterMap read ++ (read happening).toList :=
  (close_reading blind outcome _).trans (note_reading read happening worker)

end Worker

/-! ### What has entered the queue -/

/-- The envelope that enters the queue. -/
def Happening.entered? {φ : Type} : Happening φ → Option Envelope
  | .accepted _ part => some part
  | _ => none

namespace Worker

variable {φ ρ : Type} {submitter : Submitter φ ρ} {worker after : Worker φ}

/-- The envelopes that have entered the queue, first to last. -/
def accepted (worker : Worker φ) : List Envelope :=
  worker.journal.filterMap Happening.entered?

theorem note_accepted {happening : Happening φ} (other : happening.entered? = none)
    (worker : Worker φ) : (worker.note happening).accepted = worker.accepted :=
  note_unread other worker

theorem close_accepted (outcome : Outcome) (worker : Worker φ) :
    (worker.close outcome).accepted = worker.accepted :=
  close_reading rfl outcome worker

/-- A reading that overlooks what enters the queue overlooks all calls. -/
theorem CallRule.unread {α : Type} {read : Happening φ → Option α}
    (blind : ∀ whole part, read (.accepted whole part) = none) {entered : List Envelope}
    (rule : worker.CallRule entered after) :
    after.journal.filterMap read = worker.journal.filterMap read := by
  cases rule with
  | keep ledger log => rfl
  | accept whole part running room => exact note_unread (blind whole part) worker
  | mark call room => rfl
  | drain live => rfl
  | stop => rfl

theorem CallRule.accepted {entered : List Envelope} (rule : worker.CallRule entered after) :
    after.accepted = worker.accepted ++ entered := by
  cases rule with
  | keep ledger log => exact (List.append_nil _).symm
  | accept whole part running room => exact note_reading ..
  | mark call room => exact (List.append_nil _).symm
  | drain live => exact (List.append_nil _).symm
  | stop => exact (List.append_nil _).symm

/-- The thread takes envelopes out of the queue and never puts one in. -/
theorem ThreadRule.accepted (rule : worker.ThreadRule submitter after) :
    after.accepted = worker.accepted := by
  cases rule with
  | take idle queue => rfl
  | starve idle empty => rfl
  | leave starved stopped => exact note_accepted rfl _
  | retry starved live => rfl
  | reach holds => rfl
  | discard holds stopped => exact (close_accepted _ _).trans (note_accepted rfl _)
  | clear holds live => rfl
  | skip holds limited => exact (close_accepted _ _).trans (note_accepted rfl _)
  | sieve holds allowed => rfl
  | fulfil holds begun =>
    exact (close_accepted _ _).trans ((note_accepted rfl _).trans (note_accepted rfl _))
  | depart holds begun => exact (note_accepted rfl _).trans (note_accepted rfl _)
  | land reply holds => exact (close_accepted _ _).trans (note_accepted rfl _)

end Worker

/-! ### How happenings arise -/

/-- The situation of a worker in which something can happen. -/
def Happening.ArisesIn {φ : Type} (worker : Worker φ) : Happening φ → Prop
  | .accepted _ _ => worker.phase = .running ∧ worker.hasRoom
  | .discarded envelope => worker.stage = .taken (.send envelope) ∧ worker.phase = .stopped
  | .skipped envelope => worker.stage = .cleared envelope ∧ worker.allow envelope = none
  | .submitted whole part => worker.stage = .filtered whole part
  | .departed _ => ∃ whole part, worker.stage = .filtered whole part
  | .landed part _ => (∃ whole, worker.stage = .filtered whole part) ∨
      ∃ whole flight, worker.stage = .submitting whole part flight
  | .closed => worker.isAlive

namespace Worker

variable {φ ρ : Type} {submitter : Submitter φ ρ} {worker after : Worker φ}

/-- A happening and the end of a task are told in the situation in which the happening arises. -/
theorem close_note_journal {happening : Happening φ} (arises : happening.ArisesIn worker)
    (alive : worker.isAlive) (outcome : Outcome) :
    ∃ news, ((worker.note happening).close outcome).journal = worker.journal ++ news ∧
      ∀ happening ∈ news, happening.ArisesIn worker := by
  obtain ⟨news, told, ends⟩ := close_journal outcome (worker.note happening)
  refine ⟨happening :: news, ?_, fun other member => ?_⟩
  · rw [told]
    exact List.append_assoc ..
  · rcases List.mem_cons.mp member with rfl | later
    · exact arises
    · rw [ends other later]
      exact alive

theorem isAlive_of_stage {stage : Stage φ} (holds : worker.stage = stage) (live : stage ≠ .ended) :
    worker.isAlive := by
  unfold isAlive
  rw [holds]
  cases stage <;> trivial

theorem stage_of_not_isAlive (dead : worker.isAlive = false) : worker.stage = .ended := by
  unfold isAlive at dead
  split at dead
  · assumption
  · cases dead

theorem ThreadRule.isAlive (rule : worker.ThreadRule submitter after) : worker.isAlive := by
  cases rule with
  | take idle queue => exact isAlive_of_stage idle nofun
  | starve idle empty => exact isAlive_of_stage idle nofun
  | leave starved stopped => exact isAlive_of_stage starved nofun
  | retry starved live => exact isAlive_of_stage starved nofun
  | reach holds => exact isAlive_of_stage holds nofun
  | discard holds stopped => exact isAlive_of_stage holds nofun
  | clear holds live => exact isAlive_of_stage holds nofun
  | skip holds limited => exact isAlive_of_stage holds nofun
  | sieve holds allowed => exact isAlive_of_stage holds nofun
  | fulfil holds begun => exact isAlive_of_stage holds nofun
  | depart holds begun => exact isAlive_of_stage holds nofun
  | land reply holds => exact isAlive_of_stage holds nofun

theorem ThreadRule.journal (rule : worker.ThreadRule submitter after) :
    ∃ news, after.journal = worker.journal ++ news ∧
      ∀ happening ∈ news, happening.ArisesIn worker := by
  have alive := rule.isAlive
  have quiet : ∃ news, worker.journal = worker.journal ++ news ∧
      ∀ happening ∈ news, happening.ArisesIn worker := ⟨[], (List.append_nil _).symm, by simp⟩
  cases rule with
  | take idle queue => exact quiet
  | starve idle empty => exact quiet
  | leave starved stopped => exact ⟨[.closed], rfl, by simpa [Happening.ArisesIn] using alive⟩
  | retry starved live => exact quiet
  | reach holds => exact quiet
  | @discard envelope holds stopped =>
    have arises : (Happening.discarded envelope).ArisesIn worker := ⟨holds, stopped⟩
    exact close_note_journal arises alive _
  | clear holds live => exact quiet
  | @skip whole holds limited =>
    have arises : (Happening.skipped whole).ArisesIn worker := ⟨holds, limited⟩
    exact close_note_journal arises alive _
  | sieve holds allowed => exact quiet
  | @fulfil whole part outcome holds begun =>
    -- Two happenings in one step: the submission, and its end.
    obtain ⟨news, told, ends⟩ := close_journal (contain part outcome)
      ((worker.note (.submitted whole part)).note (.landed part outcome.raised))
    refine ⟨.submitted whole part :: .landed part outcome.raised :: news, ?_, fun other member => ?_⟩
    · refine told.trans ?_
      simp [note]
    · rcases List.mem_cons.mp member with rfl | later
      · exact holds
      rcases List.mem_cons.mp later with rfl | last
      · exact .inl ⟨whole, holds⟩
      · rw [ends other last]
        exact alive
  | @depart whole part flight depot holds begun =>
    refine ⟨[.submitted whole part, .departed flight], ?_, fun other member => ?_⟩
    · simp [note]
    · rcases List.mem_cons.mp member with rfl | later
      · exact holds
      · rw [List.mem_singleton.mp later]
        exact ⟨whole, part, holds⟩
  | @land whole part flight reply holds =>
    have arises : (Happening.landed part (submitter.finish flight reply worker.depot).raised).ArisesIn
      worker := Or.inr ⟨whole, flight, holds⟩
    exact close_note_journal arises alive _

theorem Change.journal (change : worker.Change submitter after) :
    ∃ news, after.journal = worker.journal ++ news ∧
      ∀ happening ∈ news, happening.ArisesIn worker := by
  have quiet : ∃ news, worker.journal = worker.journal ++ news ∧
      ∀ happening ∈ news, happening.ArisesIn worker := ⟨[], (List.append_nil _).symm, by simp⟩
  cases change with
  | call rule =>
    cases rule with
    | keep ledger log => exact quiet
    | accept whole part running room =>
      exact ⟨[.accepted whole part], rfl, by simp [Happening.ArisesIn, running, room]⟩
    | mark call room => exact quiet
    | drain live => exact quiet
    | stop => exact quiet
  | turn rule => exact rule.journal
  | tend depot => exact quiet

end Worker

namespace Session

variable {φ ρ : Type} {submitter : Submitter φ ρ} {start session : Session φ}
  {moves : List (Move ρ)}

/-- Each happening of a run arose at a moment of the run. -/
theorem happening_arose (fresh : start.worker.journal = [])
    (ran : run submitter moves start = some session) {happening : Happening φ}
    (told : happening ∈ session.worker.journal) :
    ∃ moment move, (moment, move) ∈ timeline submitter moves start ∧
      happening.ArisesIn moment.worker := by
  refine run_induction (motive := fun moves session => ∀ happening ∈ session.worker.journal,
    ∃ moment move, (moment, move) ∈ timeline submitter moves start ∧
      happening.ArisesIn moment.worker) ?_ ?_ moves session ran happening told
  · intro happening told
    rw [fresh] at told
    cases told
  · intro moves session move after ran moved ih happening told
    obtain ⟨news, grown, arise⟩ := (change_of_step moved).journal
    rw [timeline_snoc ran moved]
    rw [grown] at told
    rcases List.mem_append.mp told with old | new
    · obtain ⟨moment, move, made, arose⟩ := ih happening old
      exact ⟨moment, move, List.mem_append_left _ made, arose⟩
    · exact ⟨session, move, List.mem_append_right _ List.mem_cons_self, arise happening new⟩

end Session

end Courier
