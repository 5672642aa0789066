/-
**Flushes are barriers.**

The marker of a flush goes into the queue behind every envelope that was put there before, and the
thread takes the queue in order. When it takes the marker, all of them are settled and none of them
is on its way; where the thread has ended, an empty queue says the same. Other markers, abandoned or
not, are passed in the same way. The flush itself adds its marker to the queue and touches nothing
else but the log.

* `Worker.IsDoneWith`: these envelopes have been dealt with.
* `Worker.StandsBehind.change`: a marker stays behind what was put before its flush began.
* `Session.stands_of_run`: so stands every flush of a run.
* `Session.flush_is_barrier`: what a flush that succeeds says, and what no flush does.
-/
import Courier.Proofs.Draining
namespace Courier

/-- The envelope of a task. -/
def Task.envelope? : Task → Option Envelope
  | send envelope => some envelope
  | marker _ => none

/-- The part that was submitted. -/
def Place.part? : Place → Option Envelope
  | submitted part => some part
  | _ => none

namespace Worker

variable {φ ρ : Type} {submitter : Submitter φ ρ} {worker after : Worker φ} {number : Nat}
  {envelopes : List Envelope}

theorem waiting_eq (worker : Worker φ) :
    worker.waiting = worker.queue.filterMap Task.envelope? := by
  unfold waiting
  refine congrArg (worker.queue.filterMap ·) ?_
  funext task
  cases task <;> rfl

/-! ### Envelopes that have been dealt with -/

/-- Everything that was accepted is in some place, in the order of acceptance. -/
def InPlace (worker : Worker φ) : Prop :=
  worker.places.map Prod.fst = worker.accepted

/-- The envelopes, the first that were accepted, have been dealt with. -/
structure IsDoneWith (envelopes : List Envelope) (worker : Worker φ) : Prop where
  /-- Each was submitted or dropped. -/
  settled : envelopes <+: worker.settled.map Prod.fst
  /-- The submission of each part of them has ended. -/
  landed : (worker.settled.take envelopes.length).filterMap (fun entry => entry.2.part?) <+:
    worker.landings
  /-- What the thread holds and what waits was accepted later. -/
  later : ∃ since, worker.accepted = envelopes ++ since ∧
    worker.stage.inHand ++ worker.waiting <:+ since

theorem later_of_settled (inPlace : worker.InPlace)
    (settled : envelopes <+: worker.settled.map Prod.fst) :
    ∃ since, worker.accepted = envelopes ++ since ∧
      worker.stage.inHand ++ worker.waiting <:+ since := by
  obtain ⟨more, whole⟩ := settled
  refine ⟨more ++ (worker.stage.inHand ++ worker.waiting), ?_, List.suffix_append _ _⟩
  rw [← inPlace, map_places, ← whole, List.append_assoc, List.append_assoc]

/-- The parts that were submitted, by way of what is settled. -/
theorem parts_of_settled (worker : Worker φ) :
    worker.settled.filterMap (fun entry => entry.2.part?) = worker.submissions.map Prod.snd := by
  rw [submissions_eq, List.map_filterMap]
  congr 1
  funext ⟨envelope, place⟩
  cases place <;> rfl

/-- While nothing is on its way, what is settled has been dealt with. -/
theorem isDoneWith_of_settled (inPlace : worker.InPlace) (balance : worker.Balanced)
    (free : worker.stage.underWay = []) (settled : envelopes <+: worker.settled.map Prod.fst) :
    worker.IsDoneWith envelopes where
  settled := settled
  landed := by
    unfold Balanced at balance
    rw [free, List.append_nil, ← parts_of_settled] at balance
    rw [← balance]
    exact (List.take_prefix _ _).filterMap _
  later := later_of_settled inPlace settled

/-- What a reading of the journal tells it tells for ever. -/
theorem Change.reading_prefix {α : Type} (read : Happening φ → Option α)
    (change : worker.Change submitter after) :
    worker.journal.filterMap read <+: after.journal.filterMap read := by
  obtain ⟨news, told, -⟩ := change.journal
  rw [told, List.filterMap_append]
  exact List.prefix_append _ _

/-- What has been dealt with stays so. -/
theorem IsDoneWith.change (done : worker.IsDoneWith envelopes)
    (change : worker.Change submitter after) (inPlace : worker.InPlace) :
    after.IsDoneWith envelopes := by
  have longer : worker.settled <+: after.settled := change.reading_prefix _
  have settled := done.settled.trans (longer.map Prod.fst)
  refine ⟨settled, ?_, later_of_settled (change.places inPlace) settled⟩
  have enough : envelopes.length ≤ worker.settled.length := by
    have := done.settled.length_le
    rwa [List.length_map] at this
  have same : after.settled.take envelopes.length = worker.settled.take envelopes.length := by
    obtain ⟨news, whole⟩ := longer
    rw [← whole, List.take_append_of_le_length enough]
  rw [same]
  exact done.landed.trans (change.reading_prefix _)

/-! ### Markers behind envelopes -/

/-- The marker with this number, once there is one, stands behind the envelopes, the first that were
accepted; and they have been dealt with when it leaves the queue. -/
structure StandsBehind (number : Nat) (envelopes : List Envelope) (worker : Worker φ) : Prop where
  entered : envelopes <+: worker.accepted
  /-- What is behind the marker in the queue was accepted later. -/
  ahead : ∀ before behind, worker.queue = before ++ .marker number :: behind →
    envelopes.length + (behind.filterMap Task.envelope?).length ≤ worker.accepted.length
  passed : worker.Passes number → worker.IsDoneWith envelopes

theorem StandsBehind.of_unmarked (unmarked : ¬ worker.HasMarker number) :
    worker.StandsBehind number worker.accepted where
  entered := List.prefix_rfl
  ahead before behind queue := by
    refine absurd (.inl ?_) unmarked
    rw [queue]
    exact List.mem_append_right _ List.mem_cons_self
  passed passes := absurd (.inr passes) unmarked

/-- A step of a call adds the envelopes to the queue that it lets in. -/
theorem CallRule.queue {entered : List Envelope} (rule : worker.CallRule entered after) :
    ∃ added, after.queue = worker.queue ++ added ∧ added.filterMap Task.envelope? = entered := by
  cases rule with
  | keep ledger log => exact ⟨[], (List.append_nil _).symm, rfl⟩
  | accept whole part running room => exact ⟨[.send part], rfl, rfl⟩
  | mark call room => exact ⟨[.marker call], rfl, rfl⟩
  | drain live => exact ⟨[], (List.append_nil _).symm, rfl⟩
  | stop => exact ⟨[], (List.append_nil _).symm, rfl⟩

/-- What a call puts into the queue it puts behind the marker. -/
theorem StandsBehind.ahead_of_call (stands : worker.StandsBehind number envelopes)
    {entered : List Envelope} (rule : worker.CallRule entered after) (before behind : List Task)
    (queue : after.queue = before ++ .marker number :: behind) :
    envelopes.length + (behind.filterMap Task.envelope?).length ≤ after.accepted.length := by
  obtain ⟨added, grown, sends⟩ := rule.queue
  have longer : after.accepted.length = worker.accepted.length + entered.length := by
    rw [rule.accepted, List.length_append]
  rw [grown] at queue
  rcases List.append_eq_append_iff.mp queue with ⟨rest, -, tail⟩ | ⟨rest, whole, tail⟩
  · -- The marker is among what is added.
    have shorter : behind <:+ added := by
      rw [tail]
      exact (List.suffix_cons _ _).trans (List.suffix_append _ _)
    have few := (shorter.filterMap Task.envelope?).length_le
    have enough := stands.entered.length_le
    rw [sends] at few
    omega
  · cases rest with
    | nil =>
      have few := ((List.suffix_cons (.marker number) behind).filterMap Task.envelope?).length_le
      have enough := stands.entered.length_le
      rw [tail, List.nil_append, sends] at few
      omega
    | cons first others =>
      obtain ⟨rfl, parts⟩ := List.cons.inj tail
      replace parts : behind = others ++ added := parts
      have old := stands.ahead before others whole
      rw [parts, List.filterMap_append, sends, List.length_append]
      omega

/-- When the thread takes the marker, all that was before it in the queue has been dealt with. -/
theorem isDoneWith_of_taken (inPlace : worker.InPlace) (balance : worker.Balanced)
    (taken : worker.stage = .taken (.marker number)) (entered : envelopes <+: worker.accepted)
    (ahead : envelopes.length + worker.waiting.length ≤ worker.accepted.length) :
    worker.IsDoneWith envelopes := by
  have whole : worker.accepted = worker.settled.map Prod.fst ++ worker.waiting := by
    rw [← inPlace, map_places, taken]
    exact congrArg (· ++ _) (List.append_nil _)
  refine isDoneWith_of_settled inPlace balance (by rw [taken]; rfl) ?_
  refine List.prefix_of_prefix_length_le entered (whole ▸ List.prefix_append _ _) ?_
  rw [whole, List.length_append] at ahead
  omega

/-- A marker stays behind what was accepted before, and when it is taken all of that has been dealt
with. -/
theorem StandsBehind.change (stands : worker.StandsBehind number envelopes)
    (change : worker.Change submitter after) (inPlace : worker.InPlace)
    (balance : worker.Balanced) : after.StandsBehind number envelopes := by
  have entered : envelopes <+: after.accepted := stands.entered.trans (change.reading_prefix _)
  have kept (passes : worker.Passes number) : after.IsDoneWith envelopes :=
    (stands.passed passes).change change inPlace
  have inPlaceAfter := change.places inPlace
  have balanceAfter := change.balanced balance
  cases change with
  | call rule =>
    exact ⟨entered, stands.ahead_of_call rule, fun passes => kept (rule.passes_iff.mp passes)⟩
  | turn rule =>
    rcases rule.queue_cases with ⟨task, queue, taken, reached⟩ | ⟨queue, earlier⟩
    · have ahead before behind (same : after.queue = before ++ .marker number :: behind) :
          envelopes.length + (behind.filterMap Task.envelope?).length ≤ after.accepted.length := by
        rw [rule.accepted]
        refine stands.ahead (task :: before) behind ?_
        rw [queue, same]
        rfl
      refine ⟨entered, ahead, fun passes => ?_⟩
      rcases passes with now | before
      · cases taken.symm.trans now
        refine isDoneWith_of_taken inPlaceAfter balanceAfter now entered ?_
        rw [waiting_eq, rule.accepted]
        exact stands.ahead [] after.queue queue
      · exact kept (.inr (reached ▸ before))
    · refine ⟨entered, fun before behind same => ?_, fun passes => kept (earlier number passes)⟩
      rw [rule.accepted]
      exact stands.ahead before behind (queue.symm.trans same)
  | tend depot => exact ⟨entered, stands.ahead, kept⟩

/-! ### Flushes -/

/-- A flush that succeeds says that what its marker stands behind has been dealt with. -/
theorem FlushRule.isDoneWith {flush : Flush} (inPlace : worker.InPlace) (balance : worker.Balanced)
    (stands : worker.StandsBehind number envelopes)
    (rule : worker.FlushRule number flush after (.ended (.ok true))) :
    worker.IsDoneWith envelopes := by
  generalize same : (Flush.ended (.ok true)) = next at rule
  cases rule with
  | begin alive => cases same
  | bypass dead =>
    -- Nothing waits, and a thread that has ended holds nothing: all that was accepted is settled.
    have empty : worker.queue = [] := by
      injection same with answered
      injection answered with answer
      exact List.isEmpty_iff.mp answer.symm
    have ended := stage_of_not_isAlive dead
    refine isDoneWith_of_settled inPlace balance (by rw [ended]; rfl) ?_
    have whole : worker.accepted = worker.settled.map Prod.fst := by
      rw [← inPlace, map_places, ended, waiting_eq, empty]
      exact (List.append_nil _).trans (List.append_nil _)
    rw [← whole]
    exact stands.entered
  | place room => cases same
  | arrive reached => exact stands.passed (.inr reached)
  | refuse waits => cases same
  | lapse waits message => cases same

/-- A flush adds its marker to the queue, and touches nothing else but the log. -/
structure Spares (number : Nat) (worker after : Worker φ) : Prop where
  queue : after.queue = worker.queue ∨ after.queue = worker.queue ++ [.marker number]
  waiting : after.waiting = worker.waiting
  rest : ∃ queue log, after = { worker with queue, depot := { worker.depot with log } }

theorem FlushRule.spares {flush next : Flush} (rule : worker.FlushRule number flush after next) :
    worker.Spares number after where
  queue := rule.queue
  waiting := rule.call.waiting.trans (List.append_nil _)
  rest := by
    cases rule with
    | begin alive => exact ⟨_, _, rfl⟩
    | bypass dead => exact ⟨_, _, rfl⟩
    | place room => exact ⟨_, _, rfl⟩
    | arrive reached => exact ⟨_, _, rfl⟩
    | refuse waits => exact ⟨_, _, rfl⟩
    | lapse waits message => exact ⟨_, _, rfl⟩

end Worker

/-! ### The flushes of a session -/

deriving instance DecidableEq for Flush

/-- Stated for itself, since the search for it grows too long inside tuples. -/
instance : DecidableEq (Option CallResult) :=
  inferInstance

/-- How far the flush has come that a call is, or that a shutdown makes. -/
def Call.flush? : Call → Option Flush
  | flush _ progress => some progress
  | shutdown _ (.flushing progress) => some progress
  | shutdown _ (.flushed answer) => some (.ended (.ok answer))
  | _ => none

theorem Call.flush?_of_afterFlush {seconds : Binary64} {next flush : Flush}
    (known : (Call.shutdown seconds (Worker.afterFlush next)).flush? = some flush) :
    next = flush := by
  cases next with
  | ended result =>
    cases result with
    | ok answer => exact Option.some.inj known
    | error failure => cases known
  | _ => exact Option.some.inj known

namespace Session

variable {φ ρ : Type} {submitter : Submitter φ ρ} {start session after : Session φ}
  {moves : List (Move ρ)} {move : Move ρ} {number : Nat}

/-- How far the flush of the call with this number has come. -/
def flush? (number : Nat) (session : Session φ) : Option Flush :=
  session.calls[number]?.bind Call.flush?

/-- The flush with this number is asked for by this move. -/
def Begins (submitter : Submitter φ ρ) (number : Nat) (entry : Entry φ ρ) : Prop :=
  entry.1.flush? number = none ∧
    ∃ next, entry.1.step submitter entry.2 = some next ∧ next.flush? number = some .asked

/-- Every marker belongs to a call, and not to a shutdown that has not begun. -/
structure Marked (session : Session φ) : Prop where
  known : ∀ number, session.worker.HasMarker number → number < session.calls.length
  begun : ∀ (number : Nat) (seconds : Binary64),
    session.calls[number]? = some (.shutdown seconds .asked) → ¬ session.worker.HasMarker number

theorem Marked.step (marked : session.Marked) (moved : session.step submitter move = some after) :
    after.Marked := by
  have rule := stepRule_of_step moved
  refine ⟨fun number => known_step marked.known moved, fun number seconds found has => ?_⟩
  rcases rule.shutdown_cases found with same | ⟨rfl, -, quiet⟩ | ⟨progress, -, step⟩
  · have unmarked := marked.begun number seconds same
    rcases (change_of_step moved).hasMarker has with before | put
    · exact unmarked before
    rcases rule.marker put with before | ⟨_, flush, other⟩ | ⟨_, flush, other⟩
    · exact unmarked (.inl before)
    · cases same.symm.trans other
    · cases same.symm.trans other
  · rw [quiet] at has
    exact Nat.lt_irrefl _ (marked.known _ has)
  · exact step.ne_asked rfl

/-- There is no marker of a flush that is not under way yet. -/
theorem Marked.unmarked (marked : session.Marked)
    (fresh : session.calls[number]? = none ∨
      ∃ seconds, session.calls[number]? = some (.shutdown seconds .asked)) :
    ¬ session.worker.HasMarker number := by
  rcases fresh with none | ⟨seconds, asked⟩
  · intro has
    have known := marked.known number has
    rw [List.getElem?_eq_none_iff] at none
    omega
  · exact marked.begun number seconds asked

/-- A flush is where it was, or has just been asked for, or takes a step. -/
theorem StepRule.flush_cases (rule : session.StepRule submitter move after) {next : Flush}
    (known : after.flush? number = some next) :
    session.flush? number = some next ∨
      (next = .asked ∧ session.flush? number = none ∧ (session.calls[number]? = none ∨
        ∃ seconds, session.calls[number]? = some (.shutdown seconds .asked))) ∨
      ∃ flush, session.flush? number = some flush ∧
        session.worker.FlushRule number flush after.worker next := by
  obtain ⟨call, found, progress⟩ := Option.bind_eq_some_iff.mp known
  have same (there : session.calls[number]? = some call) : session.flush? number = some next := by
    unfold flush?
    rw [there]
    exact progress
  have at_call {other : Call} (there : session.calls[number]? = some other) :
      session.flush? number = other.flush? := by
    unfold flush?
    rw [there]
    rfl
  cases rule with
  | enqueue envelope =>
    rcases found_of_ask found with old | ⟨-, rfl⟩
    · exact .inl (same old)
    · cases progress
  | flush seconds =>
    rcases found_of_ask found with old | ⟨rfl, rfl⟩
    · exact .inl (same old)
    · cases progress
      have free : session.calls[session.calls.length]? = none :=
        List.getElem?_eq_none (Nat.le_refl _)
      refine .inr (.inl ⟨rfl, ?_, .inl free⟩)
      unfold flush?
      rw [free]
      rfl
  | shutdown seconds =>
    rcases found_of_ask found with old | ⟨-, rfl⟩
    · exact .inl (same old)
    · cases progress
  | offers before rule =>
    rcases found_of_set found with old | ⟨-, rfl⟩
    · exact .inl (same old)
    · cases progress
  | flushes by_call before rule =>
    rcases found_of_set found with old | ⟨rfl, rfl⟩
    · exact .inl (same old)
    · cases progress
      exact .inr (.inr ⟨_, at_call before, rule⟩)
  | shuts by_call before rule =>
    rcases found_of_set found with old | ⟨rfl, rfl⟩
    · exact .inl (same old)
    cases rule with
    | repeated stopped => cases progress
    | drain live =>
      cases progress
      exact .inr (.inl ⟨rfl, at_call before, .inr ⟨_, before⟩⟩)
    | flush rule =>
      cases Call.flush?_of_afterFlush progress
      exact .inr (.inr ⟨_, at_call before, rule⟩)
    | stop => cases progress
    | join dead => cases progress
    | refuse alive failure => cases progress
    | lapse alive message => cases progress
  | work worked => exact .inl (same found)
  | receive received => exact .inl (same found)
  | tick clock => exact .inl (same found)
  | relimit limits => exact .inl (same found)

/-- Where a flush stands: its marker is behind what was accepted before it began, and if it has
succeeded all of that has been dealt with. -/
def FlushStands (submitter : Submitter φ ρ) (moments : List (Entry φ ρ)) (session : Session φ)
    (number : Nat) (flush : Flush) : Prop :=
  ∃ begun ∈ moments, Begins submitter number begun ∧
    session.worker.StandsBehind number begun.1.worker.accepted ∧
    (flush = .ended (.ok true) → session.worker.IsDoneWith begun.1.worker.accepted)

theorem FlushStands.step {moments : List (Entry φ ρ)} (marked : session.Marked)
    (inPlace : session.worker.InPlace) (balance : session.worker.Balanced)
    (stands : ∀ number flush, session.flush? number = some flush →
      FlushStands submitter moments session number flush)
    (moved : session.step submitter move = some after) {next : Flush}
    (known : after.flush? number = some next) :
    FlushStands submitter (moments ++ [(session, move)]) after number next := by
  have change := change_of_step moved
  rcases (stepRule_of_step moved).flush_cases known with same | ⟨rfl, before, fresh⟩ |
    ⟨flush, before, rule⟩
  · obtain ⟨begun, member, begins, behind, done⟩ := stands number next same
    refine ⟨begun, List.mem_append_left _ member, begins, behind.change change inPlace balance, ?_⟩
    exact fun succeeded => (done succeeded).change change inPlace
  · have behind := Worker.StandsBehind.of_unmarked (marked.unmarked fresh)
    refine ⟨(session, move), List.mem_append_right _ List.mem_cons_self, ?_,
      behind.change change inPlace balance, nofun⟩
    exact ⟨before, after, moved, known⟩
  · obtain ⟨begun, member, begins, behind, -⟩ := stands number flush before
    refine ⟨begun, List.mem_append_left _ member, begins, behind.change change inPlace balance, ?_⟩
    rintro rfl
    exact (rule.isDoneWith inPlace balance behind).change change inPlace

variable {capacity : Int} {limited : Bool} {depot : Depot}

theorem marked_opened : (opened (.started capacity limited depot) : Session φ).Marked where
  known number marked := by
    rcases marked with queued | taken | reached
    · cases queued
    · cases taken
    · cases reached
  begun number seconds found := by cases found

theorem inPlace_of_run
    (ran : run submitter moves (opened (.started capacity limited depot)) = some session) :
    session.worker.InPlace := by
  have opening : (Worker.started capacity limited depot : Worker φ).InPlace := rfl
  exact kept_of_run (fun worker after => Worker.Change.places) opening ran

theorem balanced_of_run
    (ran : run submitter moves (opened (.started capacity limited depot)) = some session) :
    session.worker.Balanced := by
  have opening : (Worker.started capacity limited depot : Worker φ).Balanced := rfl
  exact kept_of_run (fun worker after => Worker.Change.balanced) opening ran

/-- Every flush of a run stands behind what was accepted before it began. -/
theorem stands_of_run
    (ran : run submitter moves (opened (.started capacity limited depot)) = some session) :
    session.Marked ∧ ∀ number flush, session.flush? number = some flush →
      FlushStands submitter (timeline submitter moves (opened (.started capacity limited depot)))
        session number flush := by
  refine run_induction (motive := fun moves session => session.Marked ∧
    ∀ number flush, session.flush? number = some flush →
      FlushStands submitter (timeline submitter moves (opened (.started capacity limited depot)))
        session number flush) ⟨marked_opened, nofun⟩ ?_ moves session ran
  intro moves session move after ran moved ih
  obtain ⟨marked, stands⟩ := ih
  refine ⟨marked.step moved, fun number flush known => ?_⟩
  rw [timeline_snoc ran moved]
  exact FlushStands.step marked (inPlace_of_run ran) (balanced_of_run ran) stands moved known

/-- A step of a flush, its end included, spares what the worker holds. -/
theorem spares_of_step {flush : Flush} (known : session.flush? number = some flush)
    (under_way : ∀ result, flush ≠ .ended result)
    (by_call : move = .proceed number ∨ move = .giveUp number)
    (moved : session.step submitter move = some after) :
    session.worker.Spares number after.worker := by
  obtain ⟨call, found, progress⟩ := Option.bind_eq_some_iff.mp known
  have only {other : Nat} (again : move = .proceed other ∨ move = .giveUp other) :
      other = number := by
    rcases by_call with rfl | rfl
    · rcases again with same | same <;> cases same
      rfl
    · rcases again with same | same <;> cases same
      rfl
  cases stepRule_of_step moved with
  | offers before rule =>
    cases only (.inl rfl)
    cases found.symm.trans before
    cases progress
  | flushes again before rule =>
    cases only again
    exact rule.spares
  | shuts again before rule =>
    cases only again
    cases found.symm.trans before
    cases rule with
    | flush rule => exact rule.spares
    | stop =>
      cases progress
      exact absurd rfl (under_way _)
    | _ => cases progress
  | _ => rcases by_call with same | same <;> cases same

/-- Flushes are barriers in a run, and no more than that. -/
structure IsBarrier (submitter : Submitter φ ρ) (moves : List (Move ρ))
    (start session : Session φ) : Prop where
  /-- A flush has succeeded: what was accepted before it began has been dealt with, now that it
  returns and ever after. -/
  answers : ∀ number, session.flush? number = some (.ended (.ok true)) →
    ∃ begun ∈ timeline submitter moves start, Begins submitter number begun ∧
      session.worker.IsDoneWith begun.1.worker.accepted
  /-- Asking for a flush changes nothing in the worker. -/
  asks : ∀ moment seconds next, (moment, .flush seconds) ∈ timeline submitter moves start →
    moment.step submitter (.flush seconds) = some next → next.worker = moment.worker
  /-- Nor does any other step of a flush, however it ends, but for its marker and the log. -/
  spares : ∀ moment move next number flush, (moment, move) ∈ timeline submitter moves start →
    move = .proceed number ∨ move = .giveUp number → moment.flush? number = some flush →
    (∀ result, flush ≠ .ended result) → moment.step submitter move = some next →
    moment.worker.Spares number next.worker

/-- **Flushes are barriers.** In every run, whatever else is under way, a flush that succeeds says
that everything accepted before it began has been dealt with; and no flush changes more than its own
marker and the log. -/
theorem flush_is_barrier (submitter : Submitter φ ρ) (capacity : Int) (limited : Bool)
    (depot : Depot) (moves : List (Move ρ)) (session : Session φ)
    (ran : run submitter moves (opened (.started capacity limited depot)) = some session) :
    IsBarrier submitter moves (opened (.started capacity limited depot)) session where
  answers number succeeded := by
    obtain ⟨begun, member, begins, -, done⟩ := (stands_of_run ran).2 number _ succeeded
    exact ⟨begun, member, begins, done rfl⟩
  asks moment seconds next member moved := by
    cases moved
    rfl
  spares moment move next number flush member by_call known under_way moved :=
    spares_of_step known under_way by_call moved

/-- A flush of a full queue gives up and leaves its marker. Another one waits for a place, puts its
marker behind, and succeeds while a later envelope waits. -/
def abandonedFlush : List (Move Unit) :=
  [.enqueue (event "first"), .proceed 0, .proceed 0, .proceed 0,
    .flush 0, .proceed 1, .proceed 1, .giveUp 1, .flush 1, .proceed 2, .work, .proceed 2,
    .work, .work, .work, .receive (), .work, .work,
    .enqueue (event "second"), .proceed 3, .proceed 3, .proceed 3, .work, .work, .proceed 2]

/-- The second flush succeeds, and only the first envelope is settled. -/
theorem abandoned_flush_is_barrier :
    ∃ session, run breaking abandonedFlush (opened (.started 2 true (.opened ⟨1000, 0⟩))) =
        some session ∧
      session.flush? 1 = some (.ended (.ok false)) ∧ session.flush? 2 = some (.ended (.ok true)) ∧
      session.worker.accepted.length = 2 ∧ session.worker.settled.length = 1 ∧
      IsBarrier breaking abandonedFlush (opened (.started 2 true (.opened ⟨1000, 0⟩))) session := by
  have goes : (run breaking abandonedFlush (opened (.started 2 true (.opened ⟨1000, 0⟩)))).map
      (fun session => (session.flush? 1, session.flush? 2, session.worker.accepted.length,
        session.worker.settled.length)) =
        some (some (.ended (.ok false)), some (.ended (.ok true)), 2, 1) := by
    decide +kernel
  obtain ⟨session, ran, shape⟩ := Option.map_eq_some_iff.mp goes
  obtain ⟨first, rest⟩ := Prod.mk.inj shape
  obtain ⟨second, rest⟩ := Prod.mk.inj rest
  obtain ⟨accepted, settled⟩ := Prod.mk.inj rest
  exact ⟨session, ran, first, second, accepted, settled,
    flush_is_barrier breaking 2 true _ _ session ran⟩

end Session

end Courier
