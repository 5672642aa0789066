/-
**Where accepted envelopes are.**

An envelope that has entered the queue waits there, is in the hands of the thread, was submitted, or
was dropped. The envelopes that the journal settles, the one in hand and those that wait are,
one after the other, exactly the accepted ones: so each is in one place, and none overtakes another.
The journal is no more than a record: the submissions in it are those that the moves of the run
begin, and each begins with the very part that the journal tells.

* `Worker.Change.places`: no move loses, doubles or reorders an accepted envelope.
* `Worker.ThreadRule.begins`: what the thread is about to submit is what the submitter is given.
* `Session.submissions_of_run`: the journal tells of these submissions and of no others.
* `Session.accepted_accounted`: the accounts of a whole run.
-/
import Courier.Proofs.Journal
namespace Courier

/-- Where an accepted envelope is. -/
inductive Place
  /-- In the queue. -/
  | waiting
  /-- In the hands of the thread. -/
  | inHand
  /-- A part of it was submitted. -/
  | submitted (part : Envelope)
  /-- It was dropped, since all of it was limited. -/
  | skipped
  /-- It was dropped, since the worker was stopped. -/
  | discarded

/-- The envelope that the thread has taken but not yet submitted or dropped. -/
def Stage.inHand {φ : Type} : Stage φ → List Envelope
  | taken (.send envelope) => [envelope]
  | cleared whole => [whole]
  | filtered whole _ => [whole]
  | _ => []

/-- What the thread is about to submit: the part that is left, and the envelope of which it is. -/
def Stage.ready? {φ : Type} : Stage φ → Option (Envelope × Envelope)
  | filtered whole part => some (whole, part)
  | _ => none

/-- The thread has found the worker not stopped, and has yet to submit or drop what it holds. -/
def Stage.IsCleared {φ : Type} : Stage φ → Prop
  | cleared _ => True
  | filtered .. => True
  | _ => False

/-- What is submitted at the moment. -/
def Stage.underWay {φ : Type} : Stage φ → List Envelope
  | submitting _ part _ => [part]
  | _ => []

namespace Happening

variable {φ : Type}

/-- The accepted envelope that is settled, and how. -/
def place? : Happening φ → Option (Envelope × Place)
  | submitted whole part => some (whole, .submitted part)
  | skipped envelope => some (envelope, .skipped)
  | discarded envelope => some (envelope, .discarded)
  | _ => none

/-- The accepted envelope of which a part is submitted, and the part. -/
def submission? : Happening φ → Option (Envelope × Envelope)
  | submitted whole part => some (whole, part)
  | _ => none

/-- What has been submitted once a submission ends. -/
def landing? : Happening φ → Option Envelope
  | landed part _ => some part
  | _ => none

end Happening

namespace Worker

variable {φ ρ : Type} {submitter : Submitter φ ρ} {worker after : Worker φ}

/-- The accepted envelopes that are settled, in the order in which they were. -/
def settled (worker : Worker φ) : List (Envelope × Place) :=
  worker.journal.filterMap Happening.place?

/-- All places in which an accepted envelope is. -/
def places (worker : Worker φ) : List (Envelope × Place) :=
  worker.settled ++ worker.stage.inHand.map (·, .inHand) ++ worker.waiting.map (·, .waiting)

/-- The accepted envelopes that were submitted, each with the part that was, in this order. -/
def submissions (worker : Worker φ) : List (Envelope × Envelope) :=
  worker.journal.filterMap Happening.submission?

/-- The parts whose submission has ended, in this order. -/
def landings (worker : Worker φ) : List Envelope :=
  worker.journal.filterMap Happening.landing?

/-! ### Places -/

/-- The envelopes in all places, in this order. -/
theorem map_places (worker : Worker φ) :
    worker.places.map Prod.fst =
      worker.settled.map Prod.fst ++ worker.stage.inHand ++ worker.waiting := by
  unfold places
  simp [Function.comp_def]

theorem close_inHand (outcome : Outcome) (worker : Worker φ) :
    (worker.close outcome).stage.inHand = [] := by
  rcases close_idle_or_ended outcome worker with idle | ended
  · rw [idle]
    rfl
  · rw [ended]
    rfl

/-- The thread settles the envelope in its hand: it is in the journal instead. -/
theorem map_places_of_settled {envelope : Envelope} {place : Place}
    (told : after.settled = worker.settled ++ [(envelope, place)])
    (holds : worker.stage.inHand = [envelope]) (free : after.stage.inHand = [])
    (same : after.waiting = worker.waiting) :
    after.places.map Prod.fst = worker.places.map Prod.fst := by
  rw [map_places, map_places, told, free, same, holds, List.map_append, List.append_nil]
  rfl

/-- Nothing is settled, and the thread goes on with the envelope in its hand. -/
theorem map_places_of_same (told : after.settled = worker.settled)
    (hand : after.stage.inHand = worker.stage.inHand) (same : after.waiting = worker.waiting) :
    after.places.map Prod.fst = worker.places.map Prod.fst := by
  rw [map_places, map_places, told, hand, same]

/-- The thread moves an envelope from the queue to its hand and from there to the journal. -/
theorem ThreadRule.places (rule : worker.ThreadRule submitter after) :
    after.places.map Prod.fst = worker.places.map Prod.fst := by
  cases rule with
  | @take task rest idle queue =>
    rw [map_places, map_places, idle]
    unfold waiting
    rw [queue]
    cases task with
    | send envelope =>
      show worker.settled.map Prod.fst ++ [envelope] ++ _ = worker.settled.map Prod.fst ++ [] ++ _
      rw [List.append_nil, List.append_assoc]
      rfl
    | marker call => rfl
  | starve idle empty =>
    refine map_places_of_same rfl ?_ rfl
    rw [idle]
    rfl
  | leave starved stopped =>
    refine map_places_of_same (note_unread rfl worker) ?_ rfl
    rw [starved]
    rfl
  | retry starved live =>
    refine map_places_of_same rfl ?_ rfl
    rw [starved]
    rfl
  | reach holds =>
    refine map_places_of_same rfl ?_ rfl
    rw [holds]
    rfl
  | discard holds stopped =>
    refine map_places_of_settled (close_note_reading rfl ..) ?_ (close_inHand ..) (close_waiting ..)
    rw [holds]
    rfl
  | clear holds live =>
    refine map_places_of_same rfl ?_ rfl
    rw [holds]
    rfl
  | skip holds limited =>
    refine map_places_of_settled (close_note_reading rfl ..) ?_ (close_inHand ..) (close_waiting ..)
    rw [holds]
    rfl
  | sieve holds allowed =>
    refine map_places_of_same rfl ?_ rfl
    rw [holds]
    rfl
  | @fulfil whole part outcome holds begun =>
    have told : ((worker.note (.submitted whole part)).land part outcome).settled =
        worker.settled ++ [(whole, .submitted part)] :=
      (close_reading rfl ..).trans ((note_unread rfl _).trans (note_reading ..))
    refine map_places_of_settled told ?_ (close_inHand ..) (close_waiting ..)
    rw [holds]
    rfl
  | @depart whole part flight depot holds begun =>
    have told : ((worker.note (.submitted whole part)).note (.departed flight)).settled =
        worker.settled ++ [(whole, .submitted part)] :=
      (note_unread rfl _).trans (note_reading ..)
    refine map_places_of_settled told ?_ rfl rfl
    rw [holds]
    rfl
  | land reply holds =>
    refine map_places_of_same ((close_reading rfl ..).trans (note_unread rfl worker)) ?_
      (close_waiting ..)
    rw [holds]
    exact close_inHand ..

/-- What the thread has or what waits had been there before, behind what is settled meanwhile. -/
theorem ThreadRule.settles (rule : worker.ThreadRule submitter after) :
    ∃ news, after.settled = worker.settled ++ news ∧
      worker.stage.inHand ++ worker.waiting =
        news.map Prod.fst ++ (after.stage.inHand ++ after.waiting) := by
  obtain ⟨happened, told, -⟩ := rule.journal
  have longer : after.settled = worker.settled ++ happened.filterMap Happening.place? := by
    unfold settled
    rw [told, List.filterMap_append]
  have same := rule.places
  rw [map_places, map_places, longer, List.map_append, List.append_assoc, List.append_assoc,
    List.append_assoc] at same
  exact ⟨_, longer, (List.append_cancel_left same).symm⟩

/-- The thread settles nothing, or the envelope in its hand, which is free then. What it settles it
discards, unless it had cleared it. -/
theorem ThreadRule.settled_cases (rule : worker.ThreadRule submitter after) :
    after.settled = worker.settled ∨ ∃ entry, after.settled = worker.settled ++ [entry] ∧
      worker.stage.inHand = [entry.1] ∧ after.stage.inHand = [] ∧
        (entry.2 = .discarded ∨ worker.stage.IsCleared) := by
  cases rule with
  | leave starved stopped => exact .inl (note_unread rfl _)
  | @discard envelope holds stopped =>
    refine .inr ⟨(envelope, .discarded), close_note_reading rfl .., ?_, close_inHand .., .inl rfl⟩
    rw [holds]
    rfl
  | @skip whole holds limited =>
    rw [holds]
    exact .inr ⟨(whole, .skipped), close_note_reading rfl .., rfl, close_inHand .., .inr trivial⟩
  | @fulfil whole part outcome holds begun =>
    rw [holds]
    refine .inr ⟨(whole, .submitted part), ?_, rfl, close_inHand .., .inr trivial⟩
    exact (close_reading rfl ..).trans ((note_unread rfl _).trans (note_reading ..))
  | @depart whole part flight depot holds begun =>
    rw [holds]
    refine .inr ⟨(whole, .submitted part), ?_, rfl, rfl, .inr trivial⟩
    exact (note_unread rfl _).trans (note_reading ..)
  | land reply holds => exact .inl ((close_reading rfl ..).trans (note_unread rfl worker))
  | _ => exact .inl rfl

theorem CallRule.settled {entered : List Envelope} (rule : worker.CallRule entered after) :
    after.settled = worker.settled :=
  rule.unread fun _ _ => rfl

/-- What is accepted is what is in some place, in the same order. -/
theorem Change.places (change : worker.Change submitter after)
    (balance : worker.places.map Prod.fst = worker.accepted) :
    after.places.map Prod.fst = after.accepted := by
  cases change with
  | call rule =>
    rw [rule.accepted, ← balance, map_places, map_places, rule.settled, rule.stage, rule.waiting,
      List.append_assoc _ worker.waiting]
  | turn rule => rw [rule.places, rule.accepted, balance]
  | tend depot => exact balance

/-! ### Submissions -/

theorem close_underWay (outcome : Outcome) (worker : Worker φ) :
    (worker.close outcome).stage.underWay = [] := by
  rcases close_idle_or_ended outcome worker with idle | ended
  · rw [idle]
    rfl
  · rw [ended]
    rfl

/-- The submitter is begun with the part, and the worker goes on with what comes of that. -/
inductive Begins (submitter : Submitter φ ρ) (whole part : Envelope) (worker : Worker φ) :
    Worker φ → Prop
  /-- The submission is over at once. -/
  | over {outcome : Outcome} (begun : submitter.begin part worker.depot = .ended outcome) :
    Begins submitter whole part worker ((worker.note (.submitted whole part)).land part outcome)
  /-- Something is on its way. -/
  | away {flight : φ} {depot : Depot}
    (begun : submitter.begin part worker.depot = .underWay flight depot) :
    Begins submitter whole part worker
      { (worker.note (.submitted whole part)).note (.departed flight) with
        depot, stage := .submitting whole part flight }

/-- A thread that has a part ready begins the submitter with it. -/
theorem ThreadRule.begins (rule : worker.ThreadRule submitter after) {whole part : Envelope}
    (ready : worker.stage.ready? = some (whole, part)) :
    worker.Begins submitter whole part after := by
  cases rule with
  | fulfil holds begun =>
    rw [holds] at ready
    cases ready
    exact .over begun
  | depart holds begun =>
    rw [holds] at ready
    cases ready
    exact .away begun
  | take holds queue | starve holds empty | leave holds stopped | retry holds live | reach holds
  | discard holds stopped | clear holds live | skip holds limited | sieve holds allowed
  | land reply holds =>
    rw [holds] at ready
    cases ready

/-- What the thread has ready is submitted by its next step, and nothing else is. -/
theorem ThreadRule.submissions (rule : worker.ThreadRule submitter after) :
    after.submissions = worker.submissions ++ worker.stage.ready?.toList := by
  cases rule with
  | take holds queue | starve holds empty | retry holds live | reach holds | clear holds live
  | sieve holds allowed =>
    rw [holds]
    exact (List.append_nil _).symm
  | leave holds stopped =>
    rw [holds]
    exact note_reading ..
  | discard holds stopped | skip holds limited | land reply holds =>
    rw [holds]
    exact close_note_reading rfl ..
  | fulfil holds begun =>
    rw [holds]
    exact (close_reading rfl ..).trans ((note_unread rfl _).trans (note_reading ..))
  | depart holds begun =>
    rw [holds]
    exact (note_unread rfl _).trans (note_reading ..)

/-- Each submission has ended, or is under way. -/
def Balanced (worker : Worker φ) : Prop :=
  worker.submissions.map Prod.snd = worker.landings ++ worker.stage.underWay

/-- What is told before a task ends is all that its end adds to what has ended or is under way. -/
theorem close_note_landings (happening : Happening φ) (outcome : Outcome) (worker : Worker φ) :
    ((worker.note happening).close outcome).landings ++
        ((worker.note happening).close outcome).stage.underWay =
      worker.landings ++ happening.landing?.toList := by
  rw [close_underWay, List.append_nil]
  exact close_note_reading rfl ..

/-- What the thread has ready is under way after its next step, or has ended by it. -/
theorem ThreadRule.landings (rule : worker.ThreadRule submitter after) :
    after.landings ++ after.stage.underWay =
      worker.landings ++ worker.stage.underWay ++ worker.stage.ready?.toList.map Prod.snd := by
  cases rule with
  | take holds queue | starve holds empty | retry holds live | reach holds | clear holds live
  | sieve holds allowed =>
    rw [holds]
    exact (List.append_nil _).symm
  | leave holds stopped =>
    have quiet : worker.finish.landings = worker.landings := note_unread rfl _
    rw [quiet, holds]
    exact (List.append_nil _).symm
  | discard holds stopped | skip holds limited =>
    rw [holds]
    exact (close_note_landings ..).trans (List.append_nil _).symm
  | @fulfil whole part outcome holds begun =>
    have quiet : (worker.note (.submitted whole part)).landings = worker.landings :=
      note_unread rfl _
    rw [holds]
    refine (close_note_landings ..).trans ?_
    rw [quiet]
    show worker.landings ++ [part] = worker.landings ++ [] ++ [part]
    rw [List.append_nil]
  | @depart whole part flight depot holds begun =>
    have quiet : ((worker.note (.submitted whole part)).note (.departed flight)).landings =
        worker.landings :=
      (note_unread rfl _).trans (note_unread rfl _)
    rw [holds]
    show ((worker.note (.submitted whole part)).note (.departed flight)).landings ++ [part] =
      worker.landings ++ [] ++ [part]
    rw [quiet, List.append_nil]
  | land reply holds =>
    rw [holds]
    exact (close_note_landings ..).trans (List.append_nil _).symm

/-- The thread submits nothing before the last submission has ended. -/
theorem ThreadRule.balanced (rule : worker.ThreadRule submitter after) (balance : worker.Balanced) :
    after.Balanced := by
  unfold Balanced at balance ⊢
  rw [rule.submissions, List.map_append, balance, rule.landings]

theorem CallRule.submissions {entered : List Envelope} (rule : worker.CallRule entered after) :
    after.submissions = worker.submissions :=
  rule.unread fun _ _ => rfl

theorem CallRule.landings {entered : List Envelope} (rule : worker.CallRule entered after) :
    after.landings = worker.landings :=
  rule.unread fun _ _ => rfl

theorem Change.balanced (change : worker.Change submitter after) (balance : worker.Balanced) :
    after.Balanced := by
  cases change with
  | call rule =>
    unfold Balanced at balance ⊢
    rw [rule.submissions, rule.landings, rule.stage]
    exact balance
  | turn rule => exact rule.balanced balance
  | tend depot => exact balance

theorem mem_submissions_iff {whole part : Envelope} :
    (whole, part) ∈ worker.submissions ↔ .submitted whole part ∈ worker.journal := by
  constructor
  · intro submitted
    obtain ⟨happening, told, reads⟩ := List.mem_filterMap.mp submitted
    cases happening with
    | submitted first second =>
      cases reads
      exact told
    | _ => cases reads
  · intro told
    exact List.mem_filterMap.mpr ⟨_, told, rfl⟩

/-- Envelopes are submitted in the order in which they are settled. -/
theorem submissions_sublist (worker : Worker φ) :
    (worker.submissions.map Prod.fst).Sublist (worker.settled.map Prod.fst) := by
  unfold submissions settled
  induction worker.journal with
  | nil => exact List.Sublist.refl _
  | cons happening rest ih =>
    cases happening with
    | submitted whole part => exact ih.cons_cons whole
    | skipped envelope => exact ih.cons envelope
    | discarded envelope => exact ih.cons envelope
    | accepted whole part => exact ih
    | departed flight => exact ih
    | landed part raised => exact ih
    | closed => exact ih

/-! ### Parts -/

/-- What is left of the envelope in the hands of the thread is a part of it. -/
def HoldsPart (worker : Worker φ) : Prop :=
  ∀ whole part, worker.stage = .filtered whole part → part.IsPartOf whole

/-- A part is left only of an envelope that the thread has taken and checked. -/
theorem ThreadRule.sieve_of_filtered (rule : worker.ThreadRule submitter after)
    {whole part : Envelope} (holds : after.stage = .filtered whole part) :
    worker.stage = .cleared whole ∧ worker.allow whole = some part ∧
      after.isFree = worker.isFree := by
  have never {outcome : Outcome} {next : Worker φ} :
      (next.close outcome).stage ≠ .filtered whole part :=
    close_stage_ne (.filtered whole part) nofun nofun _ _
  cases rule with
  | take idle queue => cases holds
  | starve idle empty => cases holds
  | leave starved stopped => cases holds
  | retry starved live => cases holds
  | reach marker => cases holds
  | discard taken stopped => exact absurd holds never
  | clear taken live => cases holds
  | skip cleared limited => exact absurd holds never
  | sieve cleared allowed =>
    cases holds
    exact ⟨cleared, allowed, rfl⟩
  | fulfil filtered begun => exact absurd holds never
  | depart filtered begun => cases holds
  | land reply submitting => exact absurd holds never

theorem Change.holdsPart (change : worker.Change submitter after) (held : worker.HoldsPart) :
    after.HoldsPart := by
  cases change with
  | call rule =>
    intro whole part same
    rw [rule.stage] at same
    exact held whole part same
  | turn rule =>
    intro whole part same
    obtain ⟨-, allowed, -⟩ := rule.sieve_of_filtered same
    exact isPartOf_of_allow allowed
  | tend depot => exact held

end Worker

namespace Session

variable {φ ρ : Type} {submitter : Submitter φ ρ} {start session : Session φ}
  {moves : List (Move ρ)}

/-- What the move of a worker keeps, each run keeps. -/
theorem kept_of_run {motive : Worker φ → Prop}
    (keeps : ∀ worker after : Worker φ, worker.Change submitter after →
      motive worker → motive after) (opening : motive start.worker) (ran : run submitter moves start = some session) :
    motive session.worker := by
  refine run_induction (motive := fun _ session => motive session.worker) opening ?_ moves session
    ran
  intro moves session move after ran moved ih
  exact keeps session.worker after.worker (change_of_step moved) ih

/-! ### What a run submits -/

/-- What is submitted at a moment: what the thread has ready when it moves. -/
def passed? : Entry φ ρ → Option (Envelope × Envelope)
  | (moment, .work) => moment.worker.stage.ready?
  | _ => none

theorem submissions_of_step {move : Move ρ} {after : Session φ}
    (moved : session.step submitter move = some after) :
    after.worker.submissions = session.worker.submissions ++ (passed? (session, move)).toList := by
  rcases step_cases moved with ⟨rfl, worked⟩ | ⟨reply, rfl, received⟩ | ⟨other, entered, rule⟩ |
    ⟨other, depot, same⟩
  · exact (Worker.threadRule_of_work worked).submissions
  · obtain ⟨whole, part, flight, holds⟩ := Worker.stage_of_receive received
    have told := (Worker.threadRule_of_receive received).submissions
    rw [holds] at told
    exact told
  · rw [rule.submissions]
    cases move with
    | work => exact absurd rfl other
    | _ => exact (List.append_nil _).symm
  · rw [same]
    cases move with
    | work => exact absurd rfl other
    | _ => exact (List.append_nil _).symm

/-- The journal of a run tells of what was submitted at its moments, in their order. -/
theorem submissions_of_run (fresh : start.worker.submissions = [])
    (ran : run submitter moves start = some session) :
    session.worker.submissions = (timeline submitter moves start).filterMap passed? := by
  refine run_induction (motive := fun moves session =>
    session.worker.submissions = (timeline submitter moves start).filterMap passed?)
    fresh ?_ moves session ran
  intro moves session move after ran moved ih
  rw [submissions_of_step moved, timeline_snoc ran moved, List.filterMap_append, ih]
  cases passes : passed? (session, move) with
  | none => rw [List.filterMap_cons_none passes]; rfl
  | some submission => rw [List.filterMap_cons_some passes]; rfl

/-- At such a moment the submitter is begun with the part that is told. -/
theorem begins_of_timeline (ran : run submitter moves start = some session) {moment : Session φ}
    {move : Move ρ} (made : (moment, move) ∈ timeline submitter moves start)
    {whole part : Envelope} (passes : passed? (moment, move) = some (whole, part)) :
    ∃ after, moment.step submitter move = some after ∧
      moment.worker.Begins submitter whole part after.worker := by
  obtain ⟨before, later, split⟩ := List.append_of_mem made
  obtain ⟨after, rest, moved, -, -⟩ := run_from_timeline ran split
  refine ⟨after, moved, ?_⟩
  cases move with
  | work =>
    obtain ⟨worker, worked, rfl⟩ := Option.map_eq_some_iff.mp moved
    exact (Worker.threadRule_of_work worked).begins passes
  | _ => cases passes

/-- At any other moment it is not: the move is the same, however submissions begin. -/
theorem step_of_unpassed {moment : Session φ} {move : Move ρ}
    (passes : passed? (moment, move) = none) {other : Submitter φ ρ}
    (same : other.finish = submitter.finish) :
    moment.step other move = moment.step submitter move := by
  cases move with
  | work =>
    have works : moment.worker.work other = moment.worker.work submitter := by
      have passes : moment.worker.stage.ready? = none := passes
      unfold Worker.work
      cases holds : moment.worker.stage with
      | filtered whole part =>
        rw [holds] at passes
        cases passes
      | taken task => cases task <;> rfl
      | _ => rfl
    show (moment.worker.work other).map _ = (moment.worker.work submitter).map _
    rw [works]
  | receive reply =>
    show (moment.worker.receive other reply).map _ = (moment.worker.receive submitter reply).map _
    unfold Worker.receive
    rw [same]
  | _ => rfl

/-! ### Accounts -/

/-- The accounts of a run: where the accepted envelopes are, and how they came there. -/
structure Accounted (submitter : Submitter φ ρ) (moves : List (Move ρ)) (start session : Session φ) :
    Prop where
  /-- Each accepted envelope is in one place, and none overtakes another. -/
  places : session.worker.places.map Prod.fst = session.worker.accepted
  /-- Envelopes are submitted in the order in which they were accepted, each at most once. -/
  submissions : (session.worker.submissions.map Prod.fst).Sublist session.worker.accepted
  /-- The journal tells of what was submitted at the moments of the run, in their order. -/
  passed : session.worker.submissions = (timeline submitter moves start).filterMap passed?
  /-- At each of these moments the submitter was begun with the part that is told, and the worker
  went on with what came of that. -/
  begun : ∀ moment move whole part, (moment, move) ∈ timeline submitter moves start →
    passed? (moment, move) = some (whole, part) → ∃ after,
      moment.step submitter move = some after ∧
        moment.worker.Begins submitter whole part after.worker
  /-- At no other moment was it begun. -/
  unbegun : ∀ moment move, (moment, move) ∈ timeline submitter moves start →
    passed? (moment, move) = none → ∀ other : Submitter φ ρ, other.finish = submitter.finish →
      moment.step other move = moment.step submitter move
  /-- What is submitted of an envelope has its headers, and of its items those that were left. -/
  parts : ∀ submission ∈ session.worker.submissions, submission.2.IsPartOf submission.1
  /-- Each submission has ended, whatever it raised, or is the only one that has not. -/
  landings : session.worker.submissions.map Prod.snd =
    session.worker.landings ++ session.worker.stage.underWay
  /-- A dropped envelope was limited as a whole when the thread asked. -/
  skipped : ∀ envelope, .skipped envelope ∈ session.worker.journal →
    ∃ moment move, (moment, move) ∈ timeline submitter moves start ∧
      moment.worker.stage = .cleared envelope ∧ moment.worker.limited ∧
      ∀ item ∈ envelope.items,
        moment.worker.depot.limits.isLimited moment.worker.depot.clock.now item.category
  /-- Or the worker was stopped when the thread looked. -/
  discarded : ∀ envelope, .discarded envelope ∈ session.worker.journal →
    ∃ moment move, (moment, move) ∈ timeline submitter moves start ∧
      moment.worker.stage = .taken (.send envelope) ∧ moment.worker.phase = .stopped

/-- In every run each accepted envelope is in exactly one place, in the order of acceptance. -/
theorem accepted_accounted (submitter : Submitter φ ρ) (capacity : Int) (limited : Bool)
    (depot : Depot) (moves : List (Move ρ)) (session : Session φ)
    (ran : run submitter moves (opened (.started capacity limited depot)) = some session) :
    Accounted submitter moves (opened (.started capacity limited depot)) session := by
  have places : session.worker.places.map Prod.fst = session.worker.accepted :=
    kept_of_run (fun worker after => Worker.Change.places) rfl ran
  have opening : (Worker.started capacity limited depot : Worker φ).Balanced := rfl
  have balanced : session.worker.Balanced :=
    kept_of_run (fun worker after => Worker.Change.balanced) opening ran
  refine ⟨places, ?_, submissions_of_run rfl ran, fun _ _ _ _ made => begins_of_timeline ran made,
    fun _ _ _ passes _ same => step_of_unpassed passes same, ?_, balanced, ?_, ?_⟩
  · rw [← places, Worker.map_places, List.append_assoc]
    exact session.worker.submissions_sublist.trans (List.sublist_append_left _ _)
  · rintro ⟨whole, part⟩ submitted
    obtain ⟨moment, move, made, arose⟩ :=
      happening_arose rfl ran (Worker.mem_submissions_iff.mp submitted)
    obtain ⟨before, rest, -, earlier⟩ := run_of_timeline made
    have opening : (Worker.started capacity limited depot : Worker φ).HoldsPart := by
      intro whole part same
      cases same
    have held : moment.worker.HoldsPart :=
      kept_of_run (fun worker after => Worker.Change.holdsPart) opening earlier
    exact held whole part arose
  · intro envelope told
    obtain ⟨moment, move, made, holds, nothing⟩ := happening_arose rfl ran told
    exact ⟨moment, move, made, holds, Worker.limited_of_allow nothing⟩
  · intro envelope told
    obtain ⟨moment, move, made, holds, stopped⟩ := happening_arose rfl ran told
    exact ⟨moment, move, made, holds, stopped⟩

/-- A submission that fails once something has come of it. -/
def breaking : Submitter Unit Unit where
  begin := fun _ depot => .underWay () depot
  finish := fun _ _ depot => .raise ⟨"RuntimeError", none⟩ depot

/-- An envelope of one event. -/
def event (name : Text) : Envelope :=
  ⟨[(Envelope.idHeader, .text name)], [⟨"event", [], []⟩]⟩

/-- Two envelopes are accepted; one is submitted, and the worker is stopped before the other is
taken. -/
def stoppedBetween : List (Move Unit) :=
  [.enqueue (event "first"), .proceed 0, .proceed 0, .proceed 0,
    .enqueue (event "second"), .proceed 1, .proceed 1, .proceed 1,
    .work, .work, .work, .work, .shutdown 0, .proceed 2, .proceed 2, .proceed 2, .receive (),
    .giveUp 2, .proceed 2, .work, .work]

/-- One envelope was submitted and failed, the other was discarded. -/
theorem stopped_between_accounted :
    ∃ session, run breaking stoppedBetween (opened (.started 10 true (.opened ⟨1000, 0⟩))) =
        some session ∧
      session.worker.accepted.length = 2 ∧ session.worker.landings.length = 1 ∧
      session.worker.settled.length = 2 ∧
      Accounted breaking stoppedBetween (opened (.started 10 true (.opened ⟨1000, 0⟩))) session := by
  have goes : (run breaking stoppedBetween (opened (.started 10 true (.opened ⟨1000, 0⟩)))).map
      (fun session => (session.worker.accepted.length, session.worker.landings.length,
        session.worker.settled.length)) = some (2, 1, 2) := by
    decide +kernel
  obtain ⟨session, ran, shape⟩ := Option.map_eq_some_iff.mp goes
  obtain ⟨two, rest⟩ := Prod.mk.inj shape
  obtain ⟨one, settled⟩ := Prod.mk.inj rest
  exact ⟨session, ran, two, one, settled, accepted_accounted breaking 10 true _ _ session ran⟩

end Session

end Courier
