/-
**The steps of a worker, as rules.**

What an offer, a flush and a shutdown can do next, in their own time or because their caller gives
up, and what the thread can do next: each is said once, as the rules of a relation, and later proofs
go through the rules.

* `Worker.isPartOf_of_allow`: the limits leave a part of an envelope.
* `Worker.offerRule_of_step`: the steps of an offer.
* `Worker.flushRule_of_proceed`, `Worker.flushRule_of_giveUp`: the steps of a flush.
* `Worker.shutdownRule_of_proceed`, `Worker.shutdownRule_of_giveUp`: the steps of a shutdown.
* `Worker.threadRule_of_work`, `Worker.threadRule_of_receive`: the steps of the thread.
-/
import Courier.Proofs.Timeline
namespace Courier

/-- The envelope is left of another one: it has the same headers, and no other items. -/
structure Envelope.IsPartOf (part whole : Envelope) : Prop where
  headers : part.headers = whole.headers
  items : part.items.Sublist whole.items

namespace Worker

variable {φ ρ : Type}

/-! ### What the limits leave -/

/-- No limit holds for an item now. -/
def isFree (worker : Worker φ) (item : Item) : Bool :=
  !worker.depot.limits.isLimited worker.depot.clock.now item.category

/-- Where the limits are observed, they leave the items that are free now. -/
theorem items_of_allow {worker : Worker φ} (limited : worker.limited = true)
    {whole part : Envelope} (allowed : worker.allow whole = some part) :
    part.items = whole.items.filter worker.isFree := by
  unfold allow at allowed
  rw [if_pos limited] at allowed
  exact (Envelope.filter_eq_some allowed).2

/-- Nothing is left only where the limits are observed, and every item is limited now. -/
theorem limited_of_allow {worker : Worker φ} {whole : Envelope}
    (nothing : worker.allow whole = none) :
    worker.limited ∧ ∀ item ∈ whole.items,
      worker.depot.limits.isLimited worker.depot.clock.now item.category := by
  unfold allow at nothing
  split at nothing
  · rename_i limited
    refine ⟨limited, fun item member => ?_⟩
    have dropped := Envelope.filter_eq_none_iff.mp nothing item member
    simpa using dropped
  · cases nothing

theorem isPartOf_of_allow {worker : Worker φ} {whole part : Envelope}
    (allowed : worker.allow whole = some part) : part.IsPartOf whole := by
  unfold allow at allowed
  split at allowed
  · obtain ⟨headers, items⟩ := Envelope.filter_eq_some allowed
    refine ⟨headers, ?_⟩
    rw [items]
    exact List.filter_sublist
  · cases allowed
    exact ⟨rfl, List.Sublist.refl _⟩

/-! ### Offers -/

/-- The next step of an offer to a worker. -/
inductive OfferRule (worker : Worker φ) : Offer → Worker φ → Offer → Prop
  /-- The worker runs. -/
  | look {envelope : Envelope} (running : worker.phase = .running) :
    OfferRule worker (.made envelope) worker (.received envelope)
  /-- The worker no longer runs. -/
  | turnAway {envelope : Envelope} (halted : worker.phase ≠ .running) :
    OfferRule worker (.made envelope) (worker.refuseStopped envelope).1
      (.ended envelope (worker.refuseStopped envelope).2)
  /-- The limits leave something of the envelope. -/
  | sieve {envelope part : Envelope} (allowed : worker.allow envelope = some part) :
    OfferRule worker (.received envelope) worker (.filtered envelope part)
  /-- The limits leave nothing of it. -/
  | hold {envelope : Envelope} (limited : worker.allow envelope = none) :
    OfferRule worker (.received envelope) (worker.refuseLimited envelope).1
      (.ended envelope (worker.refuseLimited envelope).2)
  /-- What is left enters the queue. -/
  | enter {whole part : Envelope} (running : worker.phase = .running) (room : worker.hasRoom) :
    OfferRule worker (.filtered whole part) (worker.enter whole part) (.ended whole (.ok true))
  /-- The queue is full. -/
  | overflow {whole part : Envelope} (running : worker.phase = .running)
    (full : worker.hasRoom = false) :
    OfferRule worker (.filtered whole part) (worker.refuseFull part).1
      (.ended whole (worker.refuseFull part).2)
  /-- The worker stopped running meanwhile. -/
  | late {whole part : Envelope} (halted : worker.phase ≠ .running) :
    OfferRule worker (.filtered whole part) (worker.refuseStopped part).1
      (.ended whole (worker.refuseStopped part).2)

theorem offerRule_of_step {offer next : Offer} {worker after : Worker φ}
    (step : worker.proceedOffer offer = some (after, next)) : worker.OfferRule offer after next := by
  cases offer with
  | made envelope =>
    unfold proceedOffer at step
    simp only at step
    split at step
    · rename_i running
      cases step
      exact .look running
    · rename_i halted
      cases step
      exact .turnAway halted
  | received envelope =>
    unfold proceedOffer at step
    simp only at step
    split at step
    · rename_i limited
      cases step
      exact .hold limited
    · rename_i part allowed
      cases step
      exact .sieve allowed
  | filtered whole part =>
    unfold proceedOffer at step
    simp only at step
    split at step
    · rename_i running
      split at step
      · rename_i room
        cases step
        exact .enter running room
      · rename_i full
        cases step
        exact .overflow running (Bool.not_eq_true _ ▸ full)
    · rename_i halted
      cases step
      exact .late halted
  | ended envelope result => cases step

/-! ### Flushes -/

/-- The flush with this number has to wait: for a place in the queue, or for its marker. -/
def Awaits (number : Nat) (worker : Worker φ) : Flush → Prop
  | .placing => worker.hasRoom = false
  | .waiting => number ∉ worker.reached
  | _ => False

/-- The next step of the flush with this number. -/
inductive FlushRule (number : Nat) (worker : Worker φ) : Flush → Worker φ → Flush → Prop
  /-- The thread lives. -/
  | begin (alive : worker.isAlive) : FlushRule number worker .asked worker .placing
  /-- The thread has ended. -/
  | bypass (dead : worker.isAlive = false) :
    FlushRule number worker .asked worker (.ended (.ok worker.queue.isEmpty))
  /-- The marker enters the queue. -/
  | place (room : worker.hasRoom) :
    FlushRule number worker .placing (worker.put (.marker number)) .waiting
  /-- The thread has reached the marker. -/
  | arrive (reached : number ∈ worker.reached) :
    FlushRule number worker .waiting worker (.ended (.ok true))
  /-- The time to wait is more than a clock can count. -/
  | refuse {flush : Flush} (waits : worker.Awaits number flush) :
    FlushRule number worker flush worker (.ended (.error .tooLarge))
  /-- The caller gives up. -/
  | lapse {flush : Flush} (waits : worker.Awaits number flush) (message : Text) :
    FlushRule number worker flush (worker.say .debug message) (.ended (.ok false))

section

variable {number : Nat} {worker after : Worker φ}

theorem flushRule_of_proceed {flush next : Flush}
    (step : worker.proceedFlush number flush = some (after, next)) :
    worker.FlushRule number flush after next := by
  cases flush with
  | asked =>
    unfold proceedFlush at step
    simp only at step
    split at step
    · rename_i alive
      cases step
      exact .begin alive
    · rename_i dead
      cases step
      exact .bypass (eq_false_of_ne_true dead)
  | placing =>
    unfold proceedFlush at step
    simp only at step
    split at step
    · rename_i room
      cases step
      exact .place room
    · cases step
  | waiting =>
    unfold proceedFlush at step
    simp only at step
    split at step
    · rename_i reached
      cases step
      exact .arrive (List.contains_iff_mem.mp reached)
    · cases step
  | ended result => cases step

theorem flushRule_of_giveUp {seconds : Binary64} {flush next : Flush}
    (step : worker.giveUpFlush number seconds flush = some (after, next)) :
    worker.FlushRule number flush after next := by
  cases flush with
  | placing =>
    unfold giveUpFlush at step
    simp only at step
    split at step
    · cases step
    rename_i waits
    have full : worker.Awaits number .placing := by
      rw [Bool.or_eq_true, not_or] at waits
      exact eq_false_of_ne_true waits.1
    split at step
    · cases step
      exact .refuse full
    · cases step
      exact .lapse full _
  | waiting =>
    unfold giveUpFlush at step
    simp only at step
    split at step
    · cases step
    rename_i waits
    have missed : worker.Awaits number .waiting := fun reached =>
      waits (List.contains_iff_mem.mpr reached)
    split at step
    · cases step
      exact .refuse missed
    · cases step
      exact .lapse missed _
  | asked => cases step
  | ended result => cases step

/-! ### Shutdowns -/

/-- The next step of the shutdown with this number. -/
inductive ShutdownRule (number : Nat) (worker : Worker φ) :
    Shutdown → Worker φ → Shutdown → Prop
  /-- The worker is stopped already. -/
  | repeated (stopped : worker.phase = .stopped) :
    ShutdownRule number worker .asked worker (.ended (.ok worker.queue.isEmpty))
  /-- The worker drains from now on. -/
  | drain (live : worker.phase ≠ .stopped) :
    ShutdownRule number worker .asked (worker.enterPhase .draining) (.flushing .asked)
  /-- The flush goes on. -/
  | flush {flush next : Flush} {after : Worker φ} (rule : worker.FlushRule number flush after next) :
    ShutdownRule number worker (.flushing flush) after (afterFlush next)
  /-- The worker is stopped. -/
  | stop {answer : Bool} :
    ShutdownRule number worker (.flushed answer) (worker.enterPhase .stopped) (.joining answer)
  /-- The thread has ended. -/
  | join {answer : Bool} (dead : worker.isAlive = false) :
    ShutdownRule number worker (.joining answer) (worker.reportStopped answer)
      (.ended (.ok answer))
  /-- The time to wait is none, or more than a clock can count. -/
  | refuse {answer : Bool} (alive : worker.isAlive) (failure : Failure) :
    ShutdownRule number worker (.joining answer) worker (.ended (.error failure))
  /-- The caller gives up. -/
  | lapse {answer : Bool} (alive : worker.isAlive) (message : Text) :
    ShutdownRule number worker (.joining answer)
      ((worker.say .warning message).reportStopped answer) (.ended (.ok answer))

theorem shutdownRule_of_proceed {shutdown next : Shutdown}
    (step : worker.proceedShutdown number shutdown = some (after, next)) :
    worker.ShutdownRule number shutdown after next := by
  cases shutdown with
  | asked =>
    unfold proceedShutdown at step
    simp only at step
    split at step
    · rename_i stopped
      cases step
      exact .repeated stopped
    · rename_i live
      cases step
      exact .drain live
  | flushing flush =>
    obtain ⟨⟨moved, ending⟩, inner, same⟩ := Option.map_eq_some_iff.mp step
    cases same
    exact .flush (flushRule_of_proceed inner)
  | flushed answer =>
    cases step
    exact .stop
  | joining answer =>
    unfold proceedShutdown at step
    simp only at step
    split at step
    · cases step
    · rename_i dead
      cases step
      exact .join (eq_false_of_ne_true dead)
  | ended result => cases step

theorem shutdownRule_of_giveUp {seconds : Binary64} {shutdown next : Shutdown}
    (step : worker.giveUpShutdown number seconds shutdown = some (after, next)) :
    worker.ShutdownRule number shutdown after next := by
  cases shutdown with
  | flushing flush =>
    obtain ⟨⟨moved, ending⟩, inner, same⟩ := Option.map_eq_some_iff.mp step
    cases same
    exact .flush (flushRule_of_giveUp inner)
  | joining answer =>
    unfold giveUpShutdown at step
    simp only at step
    split at step
    · cases step
    rename_i goes
    have alive : worker.isAlive := by simpa using goes
    split at step
    · cases step
      exact .refuse alive _
    split at step
    · cases step
      exact .refuse alive _
    · cases step
      exact .lapse alive _
  | asked => cases step
  | flushed answer => cases step
  | ended result => cases step

end

/-! ### The thread -/

/-- The next step of the thread of a worker, in its own time or because of a reply. -/
inductive ThreadRule (submitter : Submitter φ ρ) (worker : Worker φ) : Worker φ → Prop
  /-- It takes the first task. -/
  | take {task : Task} {rest : List Task} (idle : worker.stage = .idle)
    (queue : worker.queue = task :: rest) :
    ThreadRule submitter worker { worker with queue := rest, stage := .taken task }
  /-- It finds no task. -/
  | starve (idle : worker.stage = .idle) (empty : worker.queue = []) :
    ThreadRule submitter worker { worker with stage := .starved }
  /-- It leaves its loop. -/
  | leave (starved : worker.stage = .starved) (stopped : worker.phase = .stopped) :
    ThreadRule submitter worker worker.finish
  /-- It asks for a task again, since the worker is not stopped. -/
  | retry (starved : worker.stage = .starved) (live : worker.phase ≠ .stopped) :
    ThreadRule submitter worker { worker with stage := .idle }
  /-- It reaches a marker. -/
  | reach {call : Nat} (holds : worker.stage = .taken (.marker call)) :
    ThreadRule submitter worker { worker with reached := call :: worker.reached }.rest
  /-- It drops an envelope, since the worker is stopped. -/
  | discard {envelope : Envelope} (holds : worker.stage = .taken (.send envelope))
    (stopped : worker.phase = .stopped) : ThreadRule submitter worker (worker.discard envelope)
  /-- The worker is not stopped. -/
  | clear {envelope : Envelope} (holds : worker.stage = .taken (.send envelope))
    (live : worker.phase ≠ .stopped) :
    ThreadRule submitter worker { worker with stage := .cleared envelope }
  /-- It drops an envelope, since all of it is limited. -/
  | skip {whole : Envelope} (holds : worker.stage = .cleared whole)
    (limited : worker.allow whole = none) : ThreadRule submitter worker (worker.skip whole)
  /-- The limits leave something of the envelope. -/
  | sieve {whole part : Envelope} (holds : worker.stage = .cleared whole)
    (allowed : worker.allow whole = some part) :
    ThreadRule submitter worker { worker with stage := .filtered whole part }
  /-- It submits what is left, and the submission is over at once. -/
  | fulfil {whole part : Envelope} {outcome : Outcome}
    (holds : worker.stage = .filtered whole part)
    (begun : submitter.begin part worker.depot = .ended outcome) :
    ThreadRule submitter worker ((worker.note (.submitted whole part)).land part outcome)
  /-- It submits what is left, and something is on its way. -/
  | depart {whole part : Envelope} {flight : φ} {depot : Depot}
    (holds : worker.stage = .filtered whole part)
    (begun : submitter.begin part worker.depot = .underWay flight depot) :
    ThreadRule submitter worker { (worker.note (.submitted whole part)).note (.departed flight) with
      depot, stage := .submitting whole part flight }
  /-- Something has come of what was on its way. -/
  | land {whole part : Envelope} {flight : φ} (reply : ρ)
    (holds : worker.stage = .submitting whole part flight) :
    ThreadRule submitter worker (worker.land part (submitter.finish flight reply worker.depot))

theorem threadRule_of_work {submitter : Submitter φ ρ} {worker after : Worker φ}
    (step : worker.work submitter = some after) : worker.ThreadRule submitter after := by
  unfold work at step
  split at step
  · rename_i idle
    split at step
    · rename_i queue
      cases step
      exact .take idle queue
    · rename_i empty
      cases step
      exact .starve idle empty
  · rename_i starved
    split at step
    · rename_i stopped
      cases step
      exact .leave starved stopped
    · rename_i live
      cases step
      exact .retry starved live
  · rename_i holds
    cases step
    exact .reach holds
  · rename_i holds
    split at step
    · rename_i stopped
      cases step
      exact .discard holds stopped
    · rename_i live
      cases step
      exact .clear holds live
  · rename_i holds
    split at step
    · rename_i limited
      cases step
      exact .skip holds limited
    · rename_i allowed
      cases step
      exact .sieve holds allowed
  · rename_i whole part holds
    unfold submit at step
    cases begun : submitter.begin part worker.depot with
    | ended outcome =>
      simp only [note, begun] at step
      cases step
      exact .fulfil holds begun
    | underWay flight depot =>
      simp only [note, begun] at step
      cases step
      exact .depart holds begun
  · cases step
  · cases step

/-- Something comes only of what is on its way, and ends its submission. -/
theorem receive_eq_some {submitter : Submitter φ ρ} {reply : ρ} {worker after : Worker φ}
    (step : worker.receive submitter reply = some after) :
    ∃ whole part flight, worker.stage = .submitting whole part flight ∧
      after = worker.land part (submitter.finish flight reply worker.depot) := by
  unfold receive at step
  split at step
  · rename_i whole part flight holds
    cases step
    exact ⟨whole, part, flight, holds, rfl⟩
  · cases step

theorem stage_of_receive {submitter : Submitter φ ρ} {reply : ρ}
    {worker after : Worker φ} (received : worker.receive submitter reply = some after) :
    ∃ whole part flight, worker.stage = .submitting whole part flight := by
  obtain ⟨whole, part, flight, holds, -⟩ := receive_eq_some received
  exact ⟨whole, part, flight, holds⟩

theorem threadRule_of_receive {submitter : Submitter φ ρ} {reply : ρ} {worker after : Worker φ}
    (step : worker.receive submitter reply = some after) : worker.ThreadRule submitter after := by
  obtain ⟨whole, part, flight, holds, rfl⟩ := receive_eq_some step
  exact .land reply holds

end Worker

end Courier
