/-
**The places of a queue.**

The marker of a flush takes a place in the queue like an envelope does, and keeps it until the
thread takes it, also where the caller of the flush has given up long before. So a running worker
refuses an envelope not only where as many envelopes wait as there are places: the envelopes that
wait and the markers that stand together fill the queue, and flushes alone can fill it.

* `Worker.length_queue`, `Worker.isEmpty_queue_iff`: envelopes and markers are all that waits.
* `Session.StepRule.put_marker`: who puts a marker into the queue.
* `Worker.Apart.change`: a marker stands in the queue once, until the thread takes it.
* `Session.crowd`: flushes whose callers give up fill the queue.
* `Session.places_shared`: how the queue of a running worker is shared.
-/
import Courier.Proofs.Capacity
import Courier.Proofs.Lifecycle
namespace Courier

/-- The number of a marker. -/
def Task.number? : Task → Option Nat
  | send _ => none
  | marker call => some call

namespace Worker

variable {φ ρ : Type} {submitter : Submitter φ ρ} {worker after : Worker φ} {number : Nat}

/-! ### What waits in the queue -/

/-- The numbers of the markers that stand in the queue, first to last. -/
def markers (worker : Worker φ) : List Nat :=
  worker.queue.filterMap Task.number?

theorem mem_markers_iff : number ∈ worker.markers ↔ .marker number ∈ worker.queue := by
  unfold markers
  rw [List.mem_filterMap]
  constructor
  · rintro ⟨task, member, known⟩
    cases task with
    | send envelope => cases known
    | marker call =>
      cases known
      exact member
  · exact fun member => ⟨_, member, rfl⟩

/-- Every task of the queue is an envelope or a marker. -/
theorem length_queue (worker : Worker φ) :
    worker.queue.length = worker.waiting.length + worker.markers.length := by
  rw [waiting_eq]
  unfold markers
  induction worker.queue with
  | nil => rfl
  | cons task rest ih =>
    cases task with
    | send envelope =>
      simp only [List.filterMap_cons, Task.envelope?, Task.number?, List.length_cons]
      omega
    | marker call =>
      simp only [List.filterMap_cons, Task.envelope?, Task.number?, List.length_cons]
      omega

theorem isEmpty_queue_iff : worker.queue.isEmpty ↔ worker.waiting = [] ∧ worker.markers = [] := by
  have all := worker.length_queue
  rw [List.isEmpty_iff_length_eq_zero, ← List.length_eq_zero_iff, ← List.length_eq_zero_iff]
  omega

theorem put_marker_markers (call : Nat) (worker : Worker φ) :
    (worker.put (.marker call)).markers = worker.markers ++ [call] :=
  List.filterMap_append

/-- The thread puts nothing into the queue. -/
theorem ThreadRule.length_queue_le (rule : worker.ThreadRule submitter after) :
    after.queue.length ≤ worker.queue.length := by
  rcases rule.queue_cases with ⟨task, queue, -⟩ | ⟨queue, -⟩
  · rw [queue]
    exact Nat.le_succ _
  · rw [queue]

/-! ### Markers that stand once -/

/-- No marker stands in the queue twice, and none that the thread has taken. -/
structure Apart (worker : Worker φ) : Prop where
  once : worker.markers.Nodup
  untaken : ∀ number ∈ worker.markers, ¬ worker.Passes number

/-- A marker stood in the queue before, or has just been put there. -/
theorem Change.put_cases (change : worker.Change submitter after)
    (queued : .marker number ∈ after.queue) :
    .marker number ∈ worker.queue ∨ after.queue = worker.queue ++ [.marker number] := by
  cases change with
  | call rule =>
    cases rule with
    | accept whole part running room =>
      exact .inl ((List.mem_append.mp queued).resolve_right (by simp))
    | mark call room =>
      refine (List.mem_append.mp queued).imp_right fun new => ?_
      cases List.mem_singleton.mp new
      rfl
    | _ => exact .inl queued
  | turn rule =>
    left
    rcases rule.queue_cases with ⟨task, queue, -⟩ | ⟨queue, -⟩
    · rw [queue]
      exact List.mem_cons_of_mem _ queued
    · rwa [queue] at queued
  | tend depot => exact .inl queued

/-- Markers stay apart, if no marker is put that has been there before. -/
theorem Apart.change (apart : worker.Apart) (change : worker.Change submitter after)
    (fresh : ∀ number, after.queue = worker.queue ++ [.marker number] →
      ¬ worker.HasMarker number) : after.Apart := by
  cases change with
  | call rule =>
    have passes (number : Nat) (passes : after.Passes number) : worker.Passes number :=
      rule.passes_iff.mp passes
    cases rule with
    | accept whole part running room =>
      have same : (worker.enter whole part).markers = worker.markers :=
        List.filterMap_append.trans (List.append_nil _)
      exact ⟨same ▸ apart.once, same ▸ apart.untaken⟩
    | mark call room =>
      have unmarked := fresh call rfl
      have new : call ∉ worker.markers := fun member => unmarked (.inl (mem_markers_iff.mp member))
      refine ⟨?_, fun number member taken => ?_⟩
      · rw [put_marker_markers, ← List.concat_eq_append]
        exact apart.once.concat new
      · rw [put_marker_markers] at member
        rcases List.mem_append.mp member with old | now
        · exact apart.untaken number old (passes number taken)
        · cases List.mem_singleton.mp now
          exact unmarked (.inr (passes _ taken))
    | keep ledger log => exact ⟨apart.once, apart.untaken⟩
    | drain live => exact ⟨apart.once, apart.untaken⟩
    | stop => exact ⟨apart.once, apart.untaken⟩
  | turn rule =>
    rcases rule.queue_cases with ⟨task, queue, taken, reached⟩ | ⟨queue, earlier⟩
    · have fewer : after.markers.Sublist worker.markers := by
        unfold markers
        rw [queue]
        exact (List.sublist_cons_self task after.queue).filterMap Task.number?
      refine ⟨apart.once.sublist fewer, fun number member passes => ?_⟩
      rcases passes with now | before
      · -- The marker that is taken was the first, and does not stand behind itself.
        cases taken.symm.trans now
        have whole : worker.markers = number :: after.markers := by
          unfold markers
          rw [queue]
          rfl
        exact (List.nodup_cons.mp (whole ▸ apart.once)).1 member
      · rw [reached] at before
        exact apart.untaken number (fewer.subset member) (.inr before)
    · have same : after.markers = worker.markers := congrArg (List.filterMap Task.number?) queue
      exact ⟨same ▸ apart.once, fun number member passes =>
        apart.untaken number (same ▸ member) (earlier number passes)⟩
  | tend depot => exact ⟨apart.once, apart.untaken⟩

end Worker

/-! ### Flushes and their markers -/

/-- The flush has put its marker and waits for it, or its caller has given up. -/
def Flush.IsUnmet : Flush → Prop
  | waiting => True
  | ended (.ok answer) => answer = false
  | ended (.error failure) => failure = .tooLarge
  | _ => False

/-- The call has put a marker, as far as one can tell, that has not been reached for it: it is a
flush like this, or a shutdown that has begun. -/
def Call.LeavesMarker : Call → Prop
  | enqueue _ => False
  | flush _ progress => progress.IsUnmet
  | shutdown _ progress => progress ≠ .asked

theorem Worker.FlushRule.put_marker {φ : Type} {worker after : Worker φ} {number : Nat}
    {flush next : Flush} (rule : worker.FlushRule number flush after next)
    (put : after.queue ≠ worker.queue) : flush = .placing ∧ next = .waiting := by
  cases rule with
  | place room => exact ⟨rfl, rfl⟩
  | _ => exact absurd rfl put

theorem Worker.FlushRule.asked_of_early {φ : Type} {worker after : Worker φ} {number : Nat}
    {flush next : Flush} (rule : worker.FlushRule number flush after next)
    (early : next = .asked ∨ next = .placing) : flush = .asked := by
  cases rule with
  | begin alive => rfl
  | _ => rcases early with other | other <;> cases other

/-- A flush whose marker stands in the queue goes on to wait, or its caller gives up. -/
theorem Worker.FlushRule.isUnmet {φ : Type} {worker after : Worker φ} {number : Nat}
    {flush next : Flush} (rule : worker.FlushRule number flush after next)
    (unmet : flush.IsUnmet) (untaken : ¬ worker.Passes number) : next.IsUnmet := by
  cases rule with
  | begin alive => exact unmet.elim
  | bypass dead => exact unmet.elim
  | place room => exact unmet.elim
  | arrive reached => exact absurd (.inr reached) untaken
  | refuse waits => rfl
  | lapse waits message => rfl

namespace Session

variable {φ ρ : Type} {submitter : Submitter φ ρ} {start session after : Session φ}
  {moves : List (Move ρ)} {move : Move ρ} {number : Nat} {places : Int}

/-- A marker is put by the flush of its number, which waits for it then. -/
theorem StepRule.put_marker (rule : session.StepRule submitter move after)
    (put : after.worker.queue = session.worker.queue ++ [.marker number]) :
    session.flush? number = some .placing ∧ after.flush? number = some .waiting := by
  have same {tasks : List Task} (put : tasks = tasks ++ [.marker number]) : False := by
    simp at put
  have thread {worker : Worker φ} (rule : session.worker.ThreadRule submitter worker)
      (put : worker.queue = session.worker.queue ++ [.marker number]) : False := by
    have longer := congrArg List.length put
    have shorter := rule.length_queue_le
    rw [List.length_append, List.length_singleton] at longer
    omega
  have at_call {calls : List Call} {call : Call} {worker : Worker φ}
      (found : calls[number]? = some call) :
      (⟨worker, calls⟩ : Session φ).flush? number = call.flush? := by
    unfold flush?
    rw [found]
    rfl
  cases rule with
  | offers found rule =>
    rcases rule.queue with still | ⟨part, grown⟩
    · exact (same (still.symm.trans put)).elim
    · cases List.append_cancel_left (grown.symm.trans put)
  | @flushes other seconds flush next worker move by_call found rule =>
    rcases rule.queue with still | grown
    · exact (same (still.symm.trans put)).elim
    · cases List.append_cancel_left (grown.symm.trans put)
      obtain ⟨rfl, rfl⟩ := rule.put_marker fun still => same (still.symm.trans put)
      have inside := (List.getElem?_eq_some_iff.mp found).1
      exact ⟨at_call found, at_call (List.getElem?_set_self inside)⟩
  | @shuts other seconds shutdown next worker move by_call found rule =>
    cases rule with
    | flush rule =>
      rcases rule.queue with still | grown
      · exact (same (still.symm.trans put)).elim
      · cases List.append_cancel_left (grown.symm.trans put)
        obtain ⟨rfl, rfl⟩ := rule.put_marker fun still => same (still.symm.trans put)
        have inside := (List.getElem?_eq_some_iff.mp found).1
        exact ⟨at_call found, at_call (List.getElem?_set_self inside)⟩
    | _ => exact (same put).elim
  | work worked => exact (thread (Worker.threadRule_of_work worked) put).elim
  | receive received => exact (thread (Worker.threadRule_of_receive received) put).elim
  | _ => exact (same put).elim

/-! ### The markers of a run -/

/-- What is known of the markers of a session. -/
structure Attributed (session : Session φ) : Prop where
  marked : session.Marked
  apart : session.worker.Apart
  /-- A flush that has not put its marker has none. -/
  unplaced : ∀ number flush, session.flush? number = some flush →
    flush = .asked ∨ flush = .placing → ¬ session.worker.HasMarker number
  owned : ∀ number ∈ session.worker.markers, ∃ call, session.calls[number]? = some call ∧
    call.LeavesMarker

theorem Attributed.unplaced_step (attributed : session.Attributed)
    (moved : session.step submitter move = some after) {flush : Flush}
    (known : after.flush? number = some flush) (early : flush = .asked ∨ flush = .placing) :
    ¬ after.worker.HasMarker number := by
  have rule := stepRule_of_step moved
  have unmarked : ¬ session.worker.HasMarker number := by
    rcases rule.flush_cases known with same | ⟨-, -, fresh⟩ | ⟨before, same, step⟩
    · exact attributed.unplaced number flush same early
    · exact attributed.marked.unmarked fresh
    · exact attributed.unplaced number before same (.inl (step.asked_of_early early))
  intro has
  rcases (change_of_step moved).hasMarker has with before | queued
  · exact unmarked before
  rcases (change_of_step moved).put_cases queued with before | put
  · exact unmarked (.inl before)
  · have waits := (rule.put_marker put).2
    rw [known] at waits
    cases waits
    rcases early with other | other <;> cases other

theorem Attributed.owned_step (attributed : session.Attributed)
    (moved : session.step submitter move = some after) (member : number ∈ after.worker.markers) :
    ∃ call, after.calls[number]? = some call ∧ call.LeavesMarker := by
  have rule := stepRule_of_step moved
  rcases (change_of_step moved).put_cases (Worker.mem_markers_iff.mp member) with queued | put
  · have before := Worker.mem_markers_iff.mpr queued
    obtain ⟨call, found, leaves⟩ := attributed.owned number before
    obtain ⟨next, now, same | step⟩ := rule.call_kept found
    · exact ⟨next, now, same ▸ leaves⟩
    · refine ⟨next, now, ?_⟩
      cases step with
      | offer rule => exact leaves.elim
      | flush rule => exact rule.isUnmet leaves (attributed.apart.untaken number before)
      | shutdown rule => exact rule.ne_asked
  · obtain ⟨call, now, waits⟩ := Option.bind_eq_some_iff.mp (rule.put_marker put).2
    refine ⟨call, now, ?_⟩
    cases call with
    | enqueue offer => cases waits
    | flush seconds flush =>
      cases waits
      trivial
    | shutdown seconds shutdown =>
      rintro rfl
      cases waits

theorem Attributed.step (attributed : session.Attributed)
    (moved : session.step submitter move = some after) : after.Attributed where
  marked := attributed.marked.step moved
  apart := by
    refine attributed.apart.change (change_of_step moved) fun number put => ?_
    have placing := ((stepRule_of_step moved).put_marker put).1
    exact attributed.unplaced number _ placing (.inr rfl)
  unplaced number flush := attributed.unplaced_step moved
  owned number := attributed.owned_step moved

theorem Marked.run (marked : start.Marked) (ran : run submitter moves start = some session) :
    session.Marked := by
  refine run_induction (motive := fun _ session => session.Marked) marked ?_ moves session ran
  exact fun moves session move after ran moved marked => marked.step moved

theorem Attributed.run (attributed : start.Attributed)
    (ran : run submitter moves start = some session) : session.Attributed := by
  refine run_induction (motive := fun _ session => session.Attributed) attributed ?_ moves session
    ran
  exact fun moves session move after ran moved attributed => attributed.step moved

variable {capacity : Int} {limited : Bool} {depot : Depot}

theorem attributed_opened : (opened (.started capacity limited depot) : Session φ).Attributed where
  marked := marked_opened
  apart := ⟨List.nodup_nil, nofun⟩
  unplaced number flush known := by cases known
  owned := nofun

theorem attributed_of_run
    (ran : run submitter moves (opened (.started capacity limited depot)) = some session) :
    session.Attributed :=
  attributed_opened.run ran

/-- While the worker runs, each marker is that of a flush. -/
theorem Attributed.owned_of_running (attributed : session.Attributed) (halts : session.Halts)
    (running : session.worker.phase = .running) (member : number ∈ session.worker.markers) :
    ∃ seconds flush, session.calls[number]? = some (.flush seconds flush) ∧ flush.IsUnmet := by
  obtain ⟨call, found, leaves⟩ := attributed.owned number member
  cases call with
  | enqueue offer => exact leaves.elim
  | flush seconds flush => exact ⟨seconds, flush, found, leaves⟩
  | shutdown seconds shutdown =>
    exact absurd running (halts number seconds shutdown found leaves)

/-! ### Flushes that fill the queue -/

/-- A flush is asked for, puts its marker and is given up. -/
def givenUp (number : Nat) : List (Move ρ) :=
  [.flush 0, .proceed number, .proceed number, .giveUp number]

/-- So many flushes are asked for and given up, one after another. -/
def allGivenUp : Nat → Nat → List (Move ρ)
  | _, 0 => []
  | number, count + 1 => givenUp number ++ allGivenUp (number + 1) count

theorem set_last (calls : List Call) (call next : Call) :
    (calls ++ [call]).set calls.length next = calls ++ [next] := by
  rw [List.set_append_right _ _ (Nat.le_refl _), Nat.sub_self, List.set_cons_zero]

/-- The call that was made last takes a step. -/
theorem proceed_last (submitter : Submitter φ ρ) {worker later : Worker φ} {calls : List Call}
    {call next : Call} (stepped : stepOf calls.length call worker = some (later, next)) :
    step submitter (.proceed calls.length) ⟨worker, calls ++ [call]⟩ =
      some ⟨later, calls ++ [next]⟩ := by
  have moved : step submitter (.proceed calls.length) ⟨worker, calls ++ [call]⟩ =
      some ⟨later, (calls ++ [call]).set calls.length next⟩ :=
    proceed_of_stepOf submitter List.getElem?_concat_length stepped
  rwa [set_last] at moved

theorem giveUp_last (submitter : Submitter φ ρ) {worker later : Worker φ} {calls : List Call}
    {call next : Call} (ended : endOf calls.length call worker = some (later, next)) :
    step submitter (.giveUp calls.length) ⟨worker, calls ++ [call]⟩ =
      some ⟨later, calls ++ [next]⟩ := by
  have moved : step submitter (.giveUp calls.length) ⟨worker, calls ++ [call]⟩ =
      some ⟨later, (calls ++ [call]).set calls.length next⟩ :=
    giveUp_of_endOf submitter List.getElem?_concat_length ended
  rwa [set_last] at moved

/-- A flush that is given up leaves its marker, if the queue has a place for it. -/
theorem run_givenUp (submitter : Submitter φ ρ) (marked : session.Marked)
    (alive : session.worker.isAlive) (room : session.worker.hasRoom) :
    ∃ message, run submitter (givenUp session.calls.length) session =
      some ⟨(session.worker.put (.marker session.calls.length)).say .debug message,
        session.calls ++ [.flush 0 (.ended (.ok false))]⟩ := by
  obtain ⟨worker, calls⟩ := session
  have unreached : ¬ (worker.put (.marker calls.length)).reached.contains calls.length := by
    rw [List.contains_iff_mem]
    exact fun reached => Nat.lt_irrefl _ (marked.known _ (.inr (.inr reached)))
  have short : ¬ Worker.longestWait < 0 := by decide +kernel
  have begins : stepOf calls.length (.flush 0 .asked) worker =
      some (worker, .flush 0 .placing) := by
    unfold stepOf Worker.proceedFlush
    simp only
    rw [if_pos alive]
    rfl
  have puts : stepOf calls.length (.flush 0 .placing) worker =
      some (worker.put (.marker calls.length), .flush 0 .waiting) := by
    unfold stepOf Worker.proceedFlush
    simp only
    rw [if_pos room]
    rfl
  have ends : ∃ message, endOf calls.length (.flush 0 .waiting)
      (worker.put (.marker calls.length)) = some ((worker.put (.marker calls.length)).say .debug
        message, .flush 0 (.ended (.ok false))) := by
    unfold endOf Worker.giveUpFlush
    simp only
    rw [if_neg unreached, if_neg short]
    exact ⟨_, rfl⟩
  obtain ⟨message, ends⟩ := ends
  have asks : step submitter (.flush 0) ⟨worker, calls⟩ =
      some ⟨worker, calls ++ [.flush 0 .asked]⟩ := rfl
  refine ⟨message, ?_⟩
  simp only [givenUp, run, asks, Option.bind_some, proceed_last submitter begins,
    proceed_last submitter puts, giveUp_last submitter ends]

/-- Flushes that are given up fill the queue with their markers. -/
theorem crowd (submitter : Submitter φ ρ) (positive : 1 ≤ places) (count : Nat) :
    ∀ session : Session φ, session.Marked → session.worker.isAlive →
      session.worker.IsWithin places → (session.worker.queue.length + count : Int) ≤ places →
      ∃ later, run submitter (allGivenUp session.calls.length count) session = some later ∧
        later.worker.waiting = session.worker.waiting ∧
        later.worker.phase = session.worker.phase ∧
        later.worker.queue.length = session.worker.queue.length + count := by
  induction count with
  | zero => exact fun session _ _ _ _ => ⟨session, rfl, rfl, rfl, rfl⟩
  | succ count ih =>
    intro session marked alive within space
    have room : session.worker.hasRoom := (within.room_iff positive).mpr (by omega)
    obtain ⟨message, ran⟩ := run_givenUp submitter marked alive room
    have longer : ((session.worker.put (.marker session.calls.length)).say .debug
        message).queue.length = session.worker.queue.length + 1 := List.length_append
    obtain ⟨later, further, waiting, phase, length⟩ := ih _ (marked.run ran) alive
      ⟨within.capacity, by rw [longer]; omega⟩ (by rw [longer]; omega)
    refine ⟨later, ?_, ?_, phase, ?_⟩
    · rw [List.length_append, List.length_singleton] at further
      unfold allGivenUp
      rw [run_append, ran]
      exact further
    · exact waiting.trans (Worker.put_marker_waiting _ _)
    · rw [length, longer]
      omega

/-! ### How the queue is shared -/

/-- The last step of the offer with this number refuses the part for a full queue if `full` holds,
and lets it into the queue if not. -/
def TurnsOn (full : Prop) (submitter : Submitter φ ρ) (number : Nat) (whole part : Envelope)
    (session : Session φ) : Prop :=
  ∃ (verdict : Verdict) (next : Session φ), session.step submitter (.proceed number) = some next ∧
    next.calls[number]? = some (.enqueue (.ended whole (.ok verdict.answer))) ∧
    verdict.CarriedOut session.worker next.worker ∧
    (verdict = .accepted part ∨ verdict = .dropped .queueFull) ∧
    (verdict = .dropped .queueFull ↔ full)

/-- How the queue of a worker that runs is shared by envelopes and flushes. -/
structure SharesPlaces (submitter : Submitter φ ρ) (places : Int) (session : Session φ) : Prop where
  /-- Envelopes and markers together take no more places than there are. -/
  bounded : (session.worker.waiting.length + session.worker.markers.length : Int) ≤ places
  /-- No flush takes two of them, -/
  once : session.worker.markers.Nodup
  /-- and each that takes one waits for its marker, or its caller has given up. -/
  owned : ∀ number ∈ session.worker.markers, ∃ seconds flush,
    session.calls[number]? = some (.flush seconds flush) ∧ flush.IsUnmet
  /-- An envelope of which something may be sent is refused exactly if envelopes and markers
  together take all places. -/
  decides : ∀ (number : Nat) (whole part : Envelope),
    session.calls[number]? = some (.enqueue (.filtered whole part)) → part.IsNamed →
    TurnsOn ((session.worker.waiting.length + session.worker.markers.length : Int) = places)
      submitter number whole part session
  /-- However few envelopes wait, flushes whose callers give up fill the queue. -/
  crowds : session.worker.isAlive → ∃ count later,
    run submitter (allGivenUp session.calls.length count) session = some later ∧
    later.worker.phase = .running ∧ later.worker.waiting = session.worker.waiting ∧
    (later.worker.waiting.length + later.worker.markers.length : Int) = places

theorem turnsOn_of_filtered (submitter : Submitter φ ρ) (positive : 1 ≤ places)
    (within : session.worker.IsWithin places) (running : session.worker.phase = .running)
    {whole part : Envelope}
    (found : session.calls[number]? = some (.enqueue (.filtered whole part)))
    (named : part.IsNamed) :
    TurnsOn ((session.worker.queue.length : Int) = places) submitter number whole part session := by
  have inside := (List.getElem?_eq_some_iff.mp found).1
  obtain ⟨worker, next, rule, -, moved⟩ := goes_of_offer submitter found id
  cases rule with
  | enter still room =>
    have below := (within.room_iff positive).mp room
    exact ⟨.accepted part, _, moved, List.getElem?_set_self inside,
      Worker.carriedOut_accepted .., .inl rfl, iff_of_false nofun (by omega)⟩
  | overflow still full =>
    obtain ⟨log, same⟩ := Worker.refuse_of_named named session.worker .queueFull .warning
      fun id => "Dropping envelope " ++ id ++ ": queue is full (" ++
        Text.ofInt session.worker.capacity ++ " pending)"
    unfold Worker.refuseFull at moved
    rw [same] at moved
    exact ⟨.dropped .queueFull, _, moved, List.getElem?_set_self inside,
      Worker.carriedOut_dropped .., .inr rfl,
      iff_of_true rfl ((within.full_iff positive).mp full)⟩
  | late halted => exact absurd running halted

/-- **Flushes take the places of envelopes.** Whatever a worker with a bounded queue has been
through, while it runs it refuses an envelope for a full queue exactly if the envelopes that wait
and the markers of flushes that wait or were given up take all places together; and where its thread
lives, flushes that are given up bring this about without any more envelopes. -/
theorem places_shared (submitter : Submitter φ ρ) (places : Int) (positive : 1 ≤ places)
    (limited : Bool) (depot : Depot) (moves : List (Move ρ)) (session : Session φ)
    (ran : run submitter moves (opened (.started places limited depot)) = some session)
    (running : session.worker.phase = .running) : SharesPlaces submitter places session := by
  have opens : (opened (.started places limited depot) : Session φ).worker.IsWithin places :=
    ⟨rfl, Int.le_trans Int.one_nonneg positive⟩
  have within := isWithin_of_run positive opens ran
  have attributed := attributed_of_run ran
  have all : (session.worker.waiting.length + session.worker.markers.length : Int) =
      session.worker.queue.length := by
    rw [session.worker.length_queue]
    rfl
  refine ⟨?_, attributed.apart.once, ?_, ?_, ?_⟩
  · rw [all]
    exact within.holds
  · exact fun number => attributed.owned_of_running (halts_of_run rfl ran) running
  · intro number whole part found named
    rw [all]
    exact turnsOn_of_filtered submitter positive within running found named
  · intro alive
    have holds := within.holds
    obtain ⟨later, further, waiting, phase, length⟩ := crowd submitter positive
      (places - session.worker.queue.length).toNat session attributed.marked alive within (by omega)
    refine ⟨_, later, further, phase.trans running, waiting, ?_⟩
    have full := later.worker.length_queue
    omega

/-- One envelope is on its way and none waits. Two flushes are given up, and another envelope is
about to be let in or refused. -/
def crowdedOut : List (Move Unit) :=
  [.enqueue (event "first"), .proceed 0, .proceed 0, .proceed 0, .work, .work, .work, .work] ++
    allGivenUp 1 2 ++ [.enqueue (event "second"), .proceed 3, .proceed 3]

/-- The two markers take both places of the queue. -/
theorem crowded_out_shared :
    (1 : Int) ≤ 2 ∧ ∃ session,
      run breaking crowdedOut (opened (.started 2 true (.opened ⟨1000, 0⟩))) = some session ∧
      session.worker.phase = .running ∧ session.worker.markers = [1, 2] ∧
      SharesPlaces breaking 2 session := by
  have goes : (run breaking crowdedOut (opened (.started 2 true (.opened ⟨1000, 0⟩)))).map
      (fun session => (session.worker.phase, session.worker.markers)) =
        some (.running, [1, 2]) := by
    decide +kernel
  obtain ⟨session, ran, shape⟩ := Option.map_eq_some_iff.mp goes
  obtain ⟨running, markers⟩ := Prod.mk.inj shape
  exact ⟨by decide, session, ran, running, markers,
    places_shared breaking 2 (by decide) true _ _ session ran running⟩

/-- The second envelope is refused for a full queue by a running worker, while no envelope waits. -/
theorem crowded_out_refused :
    ∃ moment session,
      run breaking crowdedOut (opened (.started 2 true (.opened ⟨1000, 0⟩))) = some moment ∧
      moment.worker.phase = .running ∧ moment.worker.waiting.length = 0 ∧
      moment.step breaking (.proceed 3) = some session ∧
      session.calls.map Call.result? =
        [some (.ok true), some (.ok false), some (.ok false), some (.ok false)] ∧
      session.worker.depot.ledger.dropped.count .queueFull = 1 := by
  have goes : (run breaking crowdedOut (opened (.started 2 true (.opened ⟨1000, 0⟩)))).bind
      (fun moment => (moment.step breaking (.proceed 3)).map fun session =>
        (moment.worker.phase, moment.worker.waiting.length, session.calls.map Call.result?,
          session.worker.depot.ledger.dropped.count .queueFull)) =
        some (.running, 0, [some (.ok true), some (.ok false), some (.ok false),
          some (.ok false)], 1) := by
    decide +kernel
  obtain ⟨moment, ran, last⟩ := Option.bind_eq_some_iff.mp goes
  obtain ⟨session, moved, shape⟩ := Option.map_eq_some_iff.mp last
  obtain ⟨running, rest⟩ := Prod.mk.inj shape
  obtain ⟨none, results⟩ := Prod.mk.inj rest
  obtain ⟨answers, count⟩ := Prod.mk.inj results
  exact ⟨moment, session, ran, running, none, moved, answers, count⟩

end Session

end Courier
