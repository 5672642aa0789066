/-
**A bounded queue.**

The queue of a worker never holds more tasks than it has places, the markers of flushes included;
and to send an envelope is all or nothing. What the call finds at its own steps decides whether what
the limits leave of the envelope becomes the last task of the queue, or the envelope is dropped for
one reason. A call that drops its envelope leaves nothing behind but a count and a report.

* `Verdict`, `Worker.Follows`: what becomes of an envelope, and what decides it.
* `Verdict.CarriedOut`: what it makes of the worker.
* `Worker.IsWithin.change`: no move puts more into the queue than there are places.
* `Session.sends_all_or_nothing`: how envelopes are sent to a worker with a bounded queue.
-/
import Courier.Proofs.Draining
import Courier.Proofs.Sending
namespace Courier

/-! ### The verdict on an envelope -/

/-- What becomes of an envelope that is sent. -/
inductive Verdict
  /-- This part of it enters the queue. -/
  | accepted (part : Envelope)
  /-- It is dropped. -/
  | dropped (reason : DropReason)

namespace Verdict

/-- What the caller is told. -/
def answer : Verdict → Bool
  | accepted _ => true
  | dropped _ => false

/-- The tasks that enter the queue. -/
def tasks : Verdict → List Task
  | accepted part => [.send part]
  | dropped _ => []

/-- How often something is dropped for a reason. -/
def drops (reason : DropReason) : Verdict → Nat
  | accepted _ => 0
  | dropped why => if reason = why then 1 else 0

end Verdict

namespace Worker

variable {φ ρ : Type} {submitter : Submitter φ ρ} {worker after : Worker φ} {places : Int}
  {whole part : Envelope}

/-- What the limits leave of an envelope: where they are observed, the items that are free. -/
def remnant (worker : Worker φ) (whole : Envelope) : Envelope :=
  ⟨whole.headers, if worker.limited then whole.items.filter worker.isFree else whole.items⟩

/-- The limits are observed, and no item of the envelope is free. -/
def Withholds (worker : Worker φ) (whole : Envelope) : Prop :=
  worker.limited ∧ ∀ item ∈ whole.items, worker.isFree item = false

/-- The verdict on an envelope, as it follows from the worker that the steps of the call find: at the
first look, when the limits are asked, and at the second look. -/
inductive Follows (places : Int) (whole : Envelope) : List (Worker φ) → Verdict → Prop
  /-- The worker does not run. -/
  | halted {first : Worker φ} (halted : first.phase ≠ .running) :
    Follows places whole [first] (.dropped .stopped)
  /-- No item is free. -/
  | withheld {first asked : Worker φ} (running : first.phase = .running)
    (withheld : asked.Withholds whole) :
    Follows places whole [first, asked] (.dropped .rateLimited)
  /-- The worker does not run any more. -/
  | late {first asked last : Worker φ} (running : first.phase = .running)
    (left : ¬ asked.Withholds whole) (halted : last.phase ≠ .running) :
    Follows places whole [first, asked, last] (.dropped .stopped)
  /-- Every place in the queue is taken. -/
  | full {first asked last : Worker φ} (running : first.phase = .running)
    (left : ¬ asked.Withholds whole) (still : last.phase = .running)
    (full : (last.queue.length : Int) = places) :
    Follows places whole [first, asked, last] (.dropped .queueFull)
  /-- The queue has a place. -/
  | room {first asked last : Worker φ} (running : first.phase = .running)
    (left : ¬ asked.Withholds whole) (still : last.phase = .running)
    (room : (last.queue.length : Int) < places) :
    Follows places whole [first, asked, last] (.accepted (asked.remnant whole))

end Worker

/-- What a verdict makes of a worker. -/
structure Verdict.CarriedOut {φ : Type} (verdict : Verdict) (before after : Worker φ) : Prop where
  queue : after.queue = before.queue ++ verdict.tasks
  phase : after.phase = before.phase
  limits : after.depot.limits = before.depot.limits
  /-- Also what is on its way stays as it is. -/
  stage : after.stage = before.stage
  enqueued : after.depot.ledger.enqueued = before.depot.ledger.enqueued + verdict.tasks.length
  dropped : ∀ reason, after.depot.ledger.dropped.count reason =
    before.depot.ledger.dropped.count reason + verdict.drops reason

namespace Worker

variable {φ ρ : Type} {submitter : Submitter φ ρ} {worker after : Worker φ} {places : Int}
  {whole part : Envelope}

theorem carriedOut_accepted (whole part : Envelope) (worker : Worker φ) :
    (Verdict.accepted part).CarriedOut worker (worker.enter whole part) :=
  ⟨rfl, rfl, rfl, rfl, rfl, fun _ => rfl⟩

theorem carriedOut_dropped (reason : DropReason) (log : List Log.Entry) (worker : Worker φ) :
    (Verdict.dropped reason).CarriedOut worker
      (worker.withBooks (worker.depot.ledger.drop reason) log) where
  queue := (List.append_nil _).symm
  phase := rfl
  limits := rfl
  stage := rfl
  enqueued := rfl
  dropped _ := Tally.count_add ..

theorem withholds_of_allow (nothing : worker.allow whole = none) : worker.Withholds whole := by
  obtain ⟨limited, every⟩ := limited_of_allow nothing
  refine ⟨limited, fun item member => ?_⟩
  unfold isFree
  rw [every item member]
  rfl

theorem remnant_of_allow (allowed : worker.allow whole = some part) :
    ¬ worker.Withholds whole ∧ part = worker.remnant whole := by
  by_cases limited : worker.limited
  · unfold allow at allowed
    rw [if_pos limited] at allowed
    obtain ⟨headers, items⟩ := Envelope.filter_eq_some allowed
    constructor
    · rintro ⟨-, none_free⟩
      cases allowed.symm.trans (Envelope.filter_eq_none_iff.mpr none_free)
    · unfold remnant
      rw [if_pos limited, ← headers]
      exact congrArg (Envelope.mk part.headers) items
  · unfold allow at allowed
    rw [if_neg limited] at allowed
    cases allowed
    refine ⟨fun withheld => limited withheld.1, ?_⟩
    unfold remnant
    rw [if_neg limited]

/-! ### The bound -/

/-- The queue has so many places, and holds no more tasks. -/
structure IsWithin (places : Int) (worker : Worker φ) : Prop where
  capacity : worker.capacity = places
  holds : (worker.queue.length : Int) ≤ places

theorem close_capacity (outcome : Outcome) (worker : Worker φ) :
    (worker.close outcome).capacity = worker.capacity := by
  unfold close
  cases outcome.raised <;> rfl

theorem ThreadRule.capacity (rule : worker.ThreadRule submitter after) :
    after.capacity = worker.capacity := by
  cases rule with
  | discard holds stopped => exact close_capacity ..
  | skip holds limited => exact close_capacity ..
  | fulfil holds begun => exact close_capacity ..
  | land reply holds => exact close_capacity ..
  | _ => rfl

theorem IsWithin.full_iff (within : worker.IsWithin places) (positive : 1 ≤ places) :
    worker.hasRoom = false ↔ (worker.queue.length : Int) = places := by
  have room := worker.hasRoom_iff
  have capacity := within.capacity
  have holds := within.holds
  rw [← Bool.not_eq_true, room]
  omega

theorem IsWithin.room_iff (within : worker.IsWithin places) (positive : 1 ≤ places) :
    worker.hasRoom ↔ (worker.queue.length : Int) < places := by
  rw [worker.hasRoom_iff, within.capacity]
  omega

/-- A task is put into the queue only where it has a place. -/
theorem IsWithin.put (within : worker.IsWithin places) (positive : 1 ≤ places)
    (room : worker.hasRoom) (task : Task) : (worker.put task).IsWithin places where
  capacity := within.capacity
  holds := by
    have below := (within.room_iff positive).mp room
    unfold Worker.put
    simp only [List.length_append, List.length_singleton]
    omega

theorem IsWithin.change (within : worker.IsWithin places) (positive : 1 ≤ places)
    (change : worker.Change submitter after) : after.IsWithin places := by
  cases change with
  | call rule =>
    cases rule with
    | keep ledger log => exact ⟨within.capacity, within.holds⟩
    | accept whole part running room =>
      have put := within.put positive room (.send part)
      exact ⟨put.capacity, put.holds⟩
    | mark call room => exact within.put positive room _
    | drain live => exact ⟨within.capacity, within.holds⟩
    | stop => exact ⟨within.capacity, within.holds⟩
  | turn rule =>
    refine ⟨rule.capacity.trans within.capacity, ?_⟩
    have holds := within.holds
    rcases rule.queue_cases with ⟨task, queue, -, -⟩ | ⟨queue, -⟩
    · rw [queue, List.length_cons] at holds
      omega
    · rwa [queue]
  | tend depot => exact ⟨within.capacity, within.holds⟩

end Worker

/-! ### The sending of an envelope -/

namespace Session

variable {φ ρ : Type} {submitter : Submitter φ ρ} {start session moment : Session φ}
  {moves : List (Move ρ)} {moments : List (Entry φ ρ)} {number : Nat} {places : Int}
  {whole part : Envelope}

/-- The sessions that the steps of a call find, in order. -/
def ownSteps (number : Nat) (moments : List (Entry φ ρ)) : List (Session φ) :=
  moments.filterMap fun
    | (session, .proceed call) => if call = number then some session else none
    | _ => none

theorem ownSteps_self (number : Nat) (moments : List (Entry φ ρ)) (session : Session φ) :
    ownSteps number (moments ++ [(session, .proceed number)]) =
      ownSteps number moments ++ [session] := by
  unfold ownSteps
  rw [List.filterMap_append]
  simp

theorem ownSteps_other (moments : List (Entry φ ρ)) {entry : Entry φ ρ}
    (other : entry.2 ≠ .proceed number) :
    ownSteps number (moments ++ [entry]) = ownSteps number moments := by
  obtain ⟨session, move⟩ := entry
  unfold ownSteps
  rw [List.filterMap_append]
  cases move with
  | proceed call =>
    have different : call ≠ number := fun same => other (congrArg Move.proceed same)
    simp [different]
  | _ => simp

/-- A call that is not made yet has taken no steps. -/
theorem ownSteps_of_unmade (ran : run submitter moves start = some session)
    (unmade : session.calls.length ≤ number) :
    ownSteps number (timeline submitter moves start) = [] := by
  refine run_induction (motive := fun moves session => session.calls.length ≤ number →
    ownSteps number (timeline submitter moves start) = []) (fun _ => rfl) ?_ moves session ran unmade
  intro moves session move after ran moved ih unmade
  have grows := step_calls_length moved
  rw [timeline_snoc ran moved, ownSteps_other, ih (grows.trans unmade)]
  rintro rfl
  obtain ⟨call, worker, next, found, -, -⟩ := proceed_eq_some moved
  have made := (List.getElem?_eq_some_iff.mp found).1
  omega

/-- The step of the call leaves the worker as it is. -/
def OnlyLooks (submitter : Submitter φ ρ) (number : Nat) (moment : Session φ) : Prop :=
  ∃ next, moment.step submitter (.proceed number) = some next ∧ next.worker = moment.worker

/-- The sending of an envelope has come to this verdict. -/
structure Concludes (submitter : Submitter φ ρ) (places : Int) (moments : List (Entry φ ρ))
    (number : Nat) (whole : Envelope) (verdict : Verdict) : Prop where
  /-- What the call found at its own steps decides. -/
  follows : Worker.Follows places whole ((ownSteps number moments).map Session.worker) verdict
  /-- All steps but the last leave the worker as it is. -/
  looks : ∀ moment ∈ (ownSteps number moments).dropLast, OnlyLooks submitter number moment
  /-- The last step carries out the verdict. -/
  carries : ∃ last next, (ownSteps number moments).getLast? = some last ∧
    last.step submitter (.proceed number) = some next ∧
    verdict.CarriedOut last.worker next.worker

theorem Concludes.last {before : List (Session φ)} {after : Session φ} {verdict : Verdict}
    (steps : ownSteps number moments = before)
    (looks : ∀ moment ∈ before, OnlyLooks submitter number moment)
    (follows : Worker.Follows places whole ((before ++ [session]).map Session.worker) verdict)
    (moved : session.step submitter (.proceed number) = some after)
    (carried : verdict.CarriedOut session.worker after.worker) :
    Concludes submitter places (moments ++ [(session, .proceed number)]) number whole verdict where
  follows := by rwa [ownSteps_self, steps]
  looks := by rwa [ownSteps_self, steps, List.dropLast_concat]
  carries := ⟨session, after, by rw [ownSteps_self, List.getLast?_concat], moved, carried⟩

/-- An envelope that is refused is dropped for this reason. -/
theorem concludes_of_refused {before : List (Session φ)} {calls : List Call} {reason : DropReason}
    {level : Log.Level} {message : Text → Text} {ending : Worker φ × CallResult}
    (refused : ending = session.worker.refuse part reason level message) (named : part.IsNamed)
    (steps : ownSteps number moments = before)
    (looks : ∀ moment ∈ before, OnlyLooks submitter number moment)
    (follows : Worker.Follows places whole ((before ++ [session]).map Session.worker)
      (.dropped reason))
    (moved : session.step submitter (.proceed number) = some ⟨ending.1, calls⟩) :
    ∃ verdict, ending.2 = .ok verdict.answer ∧
      Concludes submitter places (moments ++ [(session, .proceed number)]) number whole
        verdict := by
  obtain ⟨log, same⟩ := Worker.refuse_of_named named session.worker reason level message
  subst refused
  rw [same] at moved ⊢
  exact ⟨_, rfl, .last steps looks follows moved (Worker.carriedOut_dropped ..)⟩

/-- How far an offer has come, told by its own steps. -/
def StandsAt (submitter : Submitter φ ρ) (places : Int) (moments : List (Entry φ ρ))
    (number : Nat) : Offer → Prop
  | .made _ => ownSteps number moments = []
  | .received _ => ∃ first, ownSteps number moments = [first] ∧
      first.worker.phase = .running ∧ OnlyLooks submitter number first
  | .filtered whole part => ∃ first asked, ownSteps number moments = [first, asked] ∧
      first.worker.phase = .running ∧ ¬ asked.worker.Withholds whole ∧
      part = asked.worker.remnant whole ∧
      ∀ moment ∈ [first, asked], OnlyLooks submitter number moment
  | .ended whole result => whole.IsNamed → ∃ verdict, result = .ok verdict.answer ∧
      Concludes submitter places moments number whole verdict

theorem StandsAt.mono {offer : Offer} {entry : Entry φ ρ} (other : entry.2 ≠ .proceed number)
    (stands : StandsAt submitter places moments number offer) :
    StandsAt submitter places (moments ++ [entry]) number offer := by
  have same := ownSteps_other moments other
  cases offer with
  | made envelope => exact same.trans stands
  | received envelope =>
    obtain ⟨first, steps, rest⟩ := stands
    exact ⟨first, same.trans steps, rest⟩
  | filtered whole part =>
    obtain ⟨first, asked, steps, rest⟩ := stands
    exact ⟨first, asked, same.trans steps, rest⟩
  | ended whole result =>
    intro named
    obtain ⟨verdict, answer, concludes⟩ := stands named
    refine ⟨verdict, answer, ?_, ?_, ?_⟩
    · rw [same]
      exact concludes.follows
    · rw [same]
      exact concludes.looks
    · rw [same]
      exact concludes.carries

theorem StandsAt.step {offer next : Offer} {worker : Worker φ} {calls : List Call}
    (stands : StandsAt submitter places moments number offer) (positive : 1 ≤ places)
    (within : session.worker.IsWithin places) (rule : session.worker.OfferRule offer worker next)
    (moved : session.step submitter (.proceed number) = some ⟨worker, calls⟩) :
    StandsAt submitter places (moments ++ [(session, .proceed number)]) number next := by
  cases rule with
  | look running =>
    have steps : ownSteps number moments = [] := stands
    exact ⟨session, by rw [ownSteps_self, steps]; rfl, running, _, moved, rfl⟩
  | turnAway halted =>
    intro named
    exact concludes_of_refused rfl named stands (List.forall_mem_nil _) (.halted halted) moved
  | sieve allowed =>
    obtain ⟨first, steps, running, looks⟩ := stands
    obtain ⟨left, same⟩ := Worker.remnant_of_allow allowed
    refine ⟨first, session, by rw [ownSteps_self, steps]; rfl, running, left, same, ?_⟩
    simp only [List.forall_mem_cons]
    exact ⟨looks, ⟨_, moved, rfl⟩, List.forall_mem_nil _⟩
  | hold limited =>
    intro named
    obtain ⟨first, steps, running, looks⟩ := stands
    exact concludes_of_refused rfl named steps (by simpa using looks)
      (.withheld running (Worker.withholds_of_allow limited)) moved
  | enter still room =>
    intro named
    obtain ⟨first, asked, steps, running, left, rfl, looks⟩ := stands
    exact ⟨_, rfl, .last steps looks (.room running left still ((within.room_iff positive).mp room))
      moved (Worker.carriedOut_accepted ..)⟩
  | overflow still full =>
    intro named
    obtain ⟨first, asked, steps, running, left, rfl, looks⟩ := stands
    exact concludes_of_refused rfl named steps looks
      (.full running left still ((within.full_iff positive).mp full)) moved
  | late halted =>
    intro named
    obtain ⟨first, asked, steps, running, left, rfl, looks⟩ := stands
    exact concludes_of_refused rfl named steps looks (.late running left halted) moved

theorem isWithin_of_run (positive : 1 ≤ places) (opens : start.worker.IsWithin places)
    (ran : run submitter moves start = some session) : session.worker.IsWithin places := by
  refine run_induction (motive := fun _ session => session.worker.IsWithin places) opens ?_
    moves session ran
  exact fun moves session move after ran moved within => within.change positive (change_of_step moved)

theorem standsAt_of_run (positive : 1 ≤ places) (fresh : start.calls = [])
    (opens : start.worker.IsWithin places) (ran : run submitter moves start = some session)
    {offer : Offer} (found : session.calls[number]? = some (.enqueue offer)) :
    StandsAt submitter places (timeline submitter moves start) number offer := by
  refine offers_of_run (motive := StandsAt submitter places) ?_ ?_ ?_ fresh ran found
  · exact fun moments entry number offer other stands => stands.mono other
  · intro moves session envelope ran
    refine Eq.trans (ownSteps_other _ ?_) (ownSteps_of_unmade ran (Nat.le_refl _))
    nofun
  · intro moves session number offer worker next ran found rule moved stands
    exact stands.step positive (isWithin_of_run positive opens ran) rule moved

/-- How envelopes are sent to a worker whose queue has so many places. -/
structure SendsWithin (submitter : Submitter φ ρ) (places : Int) (moves : List (Move ρ))
    (start session : Session φ) : Prop where
  /-- No more tasks are queued than there are places. -/
  bounded : (session.worker.queue.length : Int) ≤ places
  /-- To send never waits: an offer that is not over can take a step, and is nearer to its end by
  it. -/
  goes : ∀ (number : Nat) (offer : Offer),
    session.calls[number]? = some (.enqueue offer) → ¬ offer.IsOver →
    ∃ worker next, session.step submitter (.proceed number) =
        some ⟨worker, session.calls.set number (.enqueue next)⟩ ∧ next.ahead < offer.ahead
  /-- An offer that is over has come to a verdict, which is what its caller was told. -/
  concludes : ∀ (number : Nat) (whole : Envelope) (result : CallResult),
    session.calls[number]? = some (.enqueue (.ended whole result)) → whole.IsNamed →
    ∃ verdict, result = .ok verdict.answer ∧
      Concludes submitter places (timeline submitter moves start) number whole verdict

/-- **Sending is all or nothing.** However the calls to a worker, its thread and its limits move, its
queue never holds more tasks than it has places. An envelope that has a name is dropped for one
reason and leaves everything but this count as it was, or what the limits leave of it is the last
task of the queue, and nothing else has changed. -/
theorem sends_all_or_nothing (submitter : Submitter φ ρ) (places : Int) (positive : 1 ≤ places)
    (limited : Bool) (depot : Depot) (moves : List (Move ρ)) (session : Session φ)
    (ran : run submitter moves (opened (.started places limited depot)) = some session) :
    SendsWithin submitter places moves (opened (.started places limited depot)) session := by
  have opens : (opened (.started places limited depot) : Session φ).worker.IsWithin places :=
    ⟨rfl, Int.le_trans Int.one_nonneg positive⟩
  refine ⟨(isWithin_of_run positive opens ran).holds, fun number offer found under_way => ?_,
    fun number whole result found => standsAt_of_run positive rfl opens ran found⟩
  obtain ⟨worker, next, rule, nearer, moved⟩ := goes_of_offer submitter found under_way
  exact ⟨worker, next, moved, nearer⟩

/-- A session of a worker with two places in its queue. -/
def ofTwo : Session Unit :=
  opened (.started 2 true (.opened ⟨1000, 0⟩))

/-- Three envelopes are sent. A flush takes the second place before the second envelope comes, and a
shutdown is asked for between the first and the last step of the third. -/
def crowded : List (Move Unit) :=
  [.enqueue (eventNamed (.text "first")), .proceed 0, .proceed 0, .proceed 0,
    .flush 1, .proceed 1, .proceed 1,
    .enqueue (eventNamed (.text "second")), .proceed 2, .proceed 2, .proceed 2,
    .enqueue (eventNamed (.text "third")), .proceed 3, .proceed 3,
    .shutdown 1, .proceed 4, .proceed 3]

/-- The second envelope finds no place, and the third a worker that drains. -/
theorem crowded_all_or_nothing :
    (1 : Int) ≤ 2 ∧ ∃ session, run failing crowded ofTwo = some session ∧
      session.calls.map Call.result? =
        [some (.ok true), none, some (.ok false), some (.ok false), none] ∧
      [DropReason.queueFull, .stopped, .rateLimited].map session.worker.depot.ledger.dropped.count =
        [1, 1, 0] ∧
      SendsWithin failing 2 crowded ofTwo session := by
  have goes : (run failing crowded ofTwo).map (fun session =>
      (session.calls.map Call.result?,
        [DropReason.queueFull, .stopped, .rateLimited].map
          session.worker.depot.ledger.dropped.count)) =
        some ([some (.ok true), none, some (.ok false), some (.ok false), none], [1, 1, 0]) := by
    decide +kernel
  obtain ⟨session, ran, shape⟩ := Option.map_eq_some_iff.mp goes
  obtain ⟨results, counts⟩ := Prod.mk.inj shape
  exact ⟨by decide, session, ran, results, counts,
    sends_all_or_nothing failing 2 (by decide) true (.opened ⟨1000, 0⟩) crowded session ran⟩

end Session

end Courier
