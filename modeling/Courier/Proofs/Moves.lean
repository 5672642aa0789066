/-
**The moves of a session, as rules.**

What a move does to a worker, whoever makes it, and what it does to a whole session, the calls that
are made to the worker included. A call keeps its place and its kind from the move that makes it on.

* `Worker.CallRule`, `Worker.Change`: what a step of a call, and a move, does to the worker.
* `Worker.Change.forward`: the phase never moves back.
* `Session.stepRule_of_step`: the moves of a session.
* `Session.step_cases`: who makes a move, and what it does to the worker.
* `Session.StepRule.call_kept`: a call stays as it is, or takes a step.
* `Session.kinds_of_run`: the calls of a run are those that its moves make, in this order.
* `Session.offers_of_run`: what the steps of an offer keep holds of every offer of a run.
-/
import Courier.Proofs.Rules
namespace Courier

/-! ### Phases -/

namespace Phase

variable {phase later : Phase}

/-- A worker that has left its running phase does not come back to it. -/
theorem halted_of_forward (forward : phase.rank ≤ later.rank) (halted : phase ≠ .running) :
    later ≠ .running := by
  rintro rfl
  cases phase with
  | running => exact halted rfl
  | draining => cases forward
  | stopped => cases forward

theorem stopped_of_forward (forward : phase.rank ≤ later.rank) (stopped : phase = .stopped) :
    later = .stopped := by
  subst stopped
  cases later with
  | running => cases forward
  | draining => exact absurd forward (by decide)
  | stopped => rfl

end Phase

namespace Worker

variable {φ ρ : Type}

/-! ### The worker -/

/-- The worker with other books: what is counted and what is reported. -/
def withBooks (ledger : Ledger) (log : List Log.Entry) (worker : Worker φ) : Worker φ :=
  { worker with depot := { worker.depot with ledger, log } }

/-- What a step of a call does to the worker, and the envelopes that enter the queue by it. -/
inductive CallRule (worker : Worker φ) : List Envelope → Worker φ → Prop
  /-- Something is counted or reported, or nothing happens at all. -/
  | keep (ledger : Ledger) (log : List Log.Entry) :
    CallRule worker [] (worker.withBooks ledger log)
  /-- An envelope enters the queue. -/
  | accept (whole part : Envelope) (running : worker.phase = .running) (room : worker.hasRoom) :
    CallRule worker [part] (worker.enter whole part)
  /-- A marker enters the queue. -/
  | mark (call : Nat) (room : worker.hasRoom) : CallRule worker [] (worker.put (.marker call))
  /-- The worker drains. -/
  | drain (live : worker.phase ≠ .stopped) : CallRule worker [] (worker.enterPhase .draining)
  /-- The worker is stopped. -/
  | stop : CallRule worker [] (worker.enterPhase .stopped)

/-- What a move of a session does to the worker. -/
inductive Change (submitter : Submitter φ ρ) (worker : Worker φ) : Worker φ → Prop
  /-- A call moves. -/
  | call {entered : List Envelope} {after : Worker φ} (rule : worker.CallRule entered after) :
    Change submitter worker after
  /-- The thread moves. -/
  | turn {after : Worker φ} (rule : worker.ThreadRule submitter after) :
    Change submitter worker after
  /-- The clocks go on, or the limits change. -/
  | tend (depot : Depot) : Change submitter worker { worker with depot }

variable {submitter : Submitter φ ρ} {worker after : Worker φ}

theorem CallRule.same : worker.CallRule [] worker :=
  .keep worker.depot.ledger worker.depot.log

theorem CallRule.stage {entered : List Envelope} (rule : worker.CallRule entered after) :
    after.stage = worker.stage := by
  cases rule <;> rfl

theorem CallRule.waiting {entered : List Envelope} (rule : worker.CallRule entered after) :
    after.waiting = worker.waiting ++ entered := by
  cases rule with
  | keep ledger log => exact (List.append_nil _).symm
  | accept whole part running room => exact List.filterMap_append
  | mark call room => exact (put_marker_waiting call worker).trans (List.append_nil _).symm
  | drain live => exact (List.append_nil _).symm
  | stop => exact (List.append_nil _).symm

theorem CallRule.forward {entered : List Envelope} (rule : worker.CallRule entered after) :
    worker.phase.rank ≤ after.phase.rank := by
  cases rule with
  | keep ledger log => exact Nat.le_refl _
  | accept whole part running room => exact Nat.le_refl _
  | mark call room => exact Nat.le_refl _
  | drain live => exact Phase.rank_le_draining live
  | stop => exact Phase.rank_le_stopped worker.phase

theorem close_phase (outcome : Outcome) (worker : Worker φ) :
    (worker.close outcome).phase = worker.phase := by
  unfold close
  cases outcome.raised <;> rfl

theorem ThreadRule.phase (rule : worker.ThreadRule submitter after) :
    after.phase = worker.phase := by
  cases rule with
  | discard holds stopped => exact close_phase ..
  | skip holds limited => exact close_phase ..
  | fulfil holds begun => exact close_phase ..
  | land reply holds => exact close_phase ..
  | _ => rfl

theorem Change.forward (change : worker.Change submitter after) :
    worker.phase.rank ≤ after.phase.rank := by
  cases change with
  | call rule => exact rule.forward
  | turn rule => exact Nat.le_of_eq (congrArg Phase.rank rule.phase).symm
  | tend depot => exact Nat.le_refl _

/-- A dropped envelope changes the books alone. -/
theorem dropped_books (envelope : Envelope) (reason : DropReason) (level : Log.Level)
    (source : Log.Source) (message : Text → Text) (depot : Depot) :
    ∃ ledger log, ((depot.sayOf envelope level source message).andThen fun depot =>
      .done (depot.drop reason)).depot = { depot with ledger, log } := by
  unfold Depot.sayOf Depot.naming
  cases envelope.id with
  | ok id => exact ⟨_, _, rfl⟩
  | error fault => exact ⟨depot.ledger, depot.log, rfl⟩

theorem CallRule.refuse (envelope : Envelope) (reason : DropReason) (level : Log.Level)
    (message : Text → Text) :
    worker.CallRule [] (worker.refuse envelope reason level message).1 := by
  obtain ⟨ledger, log, books⟩ := dropped_books envelope reason level .worker message worker.depot
  unfold Worker.refuse
  simp only
  rw [books]
  exact .keep ledger log

/-- An offer lets nothing into the queue but the part that the limits have left. -/
theorem OfferRule.call {offer next : Offer} (rule : worker.OfferRule offer after next) :
    ∃ entered, worker.CallRule entered after ∧
      ∀ part ∈ entered, ∃ whole, offer = .filtered whole part := by
  cases rule with
  | look running => exact ⟨[], .same, nofun⟩
  | turnAway halted => exact ⟨[], .refuse .., nofun⟩
  | sieve allowed => exact ⟨[], .same, nofun⟩
  | hold limited => exact ⟨[], .refuse .., nofun⟩
  | @enter whole part running room =>
    refine ⟨[part], .accept whole part running room, fun other member => ⟨whole, ?_⟩⟩
    rw [List.mem_singleton.mp member]
  | overflow running full => exact ⟨[], .refuse .., nofun⟩
  | late halted => exact ⟨[], .refuse .., nofun⟩

theorem CallRule.say (level : Log.Level) (message : Text) :
    worker.CallRule [] (worker.say level message) :=
  .keep worker.depot.ledger (worker.depot.log ++ [.plain level .worker message])

theorem FlushRule.call {number : Nat} {flush next : Flush}
    (rule : worker.FlushRule number flush after next) : worker.CallRule [] after := by
  cases rule with
  | begin alive => exact .same
  | bypass dead => exact .same
  | place room => exact .mark number room
  | arrive reached => exact .same
  | refuse waits => exact .same
  | lapse waits message => exact .say ..

theorem ShutdownRule.call {number : Nat} {shutdown next : Shutdown}
    (rule : worker.ShutdownRule number shutdown after next) : worker.CallRule [] after := by
  cases rule with
  | repeated stopped => exact .same
  | drain live => exact .drain live
  | flush rule => exact rule.call
  | stop => exact .stop
  | join dead => exact .say ..
  | refuse alive failure => exact .same
  | lapse alive message => exact .keep worker.depot.ledger _

end Worker

namespace Session

variable {φ ρ : Type} {submitter : Submitter φ ρ} {session after : Session φ}

theorem proceed_eq_some {number : Nat} (moved : session.proceed number = some after) :
    ∃ call worker next, session.calls[number]? = some call ∧
      stepOf number call session.worker = some (worker, next) ∧
      after = ⟨worker, session.calls.set number next⟩ := by
  obtain ⟨call, found, rest⟩ := Option.bind_eq_some_iff.mp moved
  obtain ⟨⟨worker, next⟩, stepped, same⟩ := Option.bind_eq_some_iff.mp rest
  cases same
  exact ⟨call, worker, next, found, stepped, rfl⟩

theorem giveUp_eq_some {number : Nat} (moved : session.giveUp number = some after) :
    ∃ call worker next, session.calls[number]? = some call ∧
      endOf number call session.worker = some (worker, next) ∧
      after = ⟨worker, session.calls.set number next⟩ := by
  obtain ⟨call, found, rest⟩ := Option.bind_eq_some_iff.mp moved
  obtain ⟨⟨worker, next⟩, stepped, same⟩ := Option.bind_eq_some_iff.mp rest
  cases same
  exact ⟨call, worker, next, found, stepped, rfl⟩

/-- A call that can take a step takes it. -/
theorem proceed_of_stepOf (submitter : Submitter φ ρ) {number : Nat} {call next : Call}
    {worker : Worker φ} (found : session.calls[number]? = some call)
    (stepped : stepOf number call session.worker = some (worker, next)) :
    session.step submitter (.proceed number) = some ⟨worker, session.calls.set number next⟩ := by
  show session.proceed number = _
  unfold proceed
  rw [found]
  show (stepOf number call session.worker).bind _ = _
  rw [stepped]
  rfl

theorem giveUp_of_endOf (submitter : Submitter φ ρ) {number : Nat} {call next : Call}
    {worker : Worker φ} (found : session.calls[number]? = some call)
    (ended : endOf number call session.worker = some (worker, next)) :
    session.step submitter (.giveUp number) = some ⟨worker, session.calls.set number next⟩ := by
  show session.giveUp number = _
  unfold giveUp
  rw [found]
  show (endOf number call session.worker).bind _ = _
  rw [ended]
  rfl

/-- What a move does to a session. -/
inductive StepRule (submitter : Submitter φ ρ) (session : Session φ) : Move ρ → Session φ → Prop
  /-- An envelope is offered. -/
  | enqueue (envelope : Envelope) :
    StepRule submitter session (.enqueue envelope) (session.ask (.enqueue (.made envelope)))
  /-- A flush is asked for. -/
  | flush (seconds : Binary64) :
    StepRule submitter session (.flush seconds) (session.ask (.flush seconds .asked))
  /-- A shutdown is asked for. -/
  | shutdown (seconds : Binary64) :
    StepRule submitter session (.shutdown seconds) (session.ask (.shutdown seconds .asked))
  /-- An offer goes on. -/
  | offers {number : Nat} {offer next : Offer} {worker : Worker φ}
    (found : session.calls[number]? = some (.enqueue offer))
    (rule : session.worker.OfferRule offer worker next) :
    StepRule submitter session (.proceed number)
      ⟨worker, session.calls.set number (.enqueue next)⟩
  /-- A flush goes on, or its caller gives up. -/
  | flushes {number : Nat} {seconds : Binary64} {flush next : Flush} {worker : Worker φ}
    {move : Move ρ} (by_call : move = .proceed number ∨ move = .giveUp number)
    (found : session.calls[number]? = some (.flush seconds flush))
    (rule : session.worker.FlushRule number flush worker next) :
    StepRule submitter session move ⟨worker, session.calls.set number (.flush seconds next)⟩
  /-- A shutdown goes on, or its caller gives up. -/
  | shuts {number : Nat} {seconds : Binary64} {shutdown next : Shutdown} {worker : Worker φ}
    {move : Move ρ} (by_call : move = .proceed number ∨ move = .giveUp number)
    (found : session.calls[number]? = some (.shutdown seconds shutdown))
    (rule : session.worker.ShutdownRule number shutdown worker next) :
    StepRule submitter session move ⟨worker, session.calls.set number (.shutdown seconds next)⟩
  /-- The thread takes a step. -/
  | work {worker : Worker φ} (worked : session.worker.work submitter = some worker) :
    StepRule submitter session .work { session with worker }
  /-- Something comes of what is on its way. -/
  | receive {worker : Worker φ} {reply : ρ}
    (received : session.worker.receive submitter reply = some worker) :
    StepRule submitter session (.receive reply) { session with worker }
  /-- The clocks go on. -/
  | tick (clock : Clock) :
    StepRule submitter session (.tick clock) (session.tend fun depot => { depot with clock })
  /-- The limits change. -/
  | relimit (limits : Limits Binary64) :
    StepRule submitter session (.relimit limits) (session.tend fun depot => { depot with limits })

theorem stepRule_of_step {move : Move ρ} (moved : session.step submitter move = some after) :
    session.StepRule submitter move after := by
  cases move with
  | enqueue envelope =>
    cases moved
    exact .enqueue envelope
  | flush seconds =>
    cases moved
    exact .flush seconds
  | shutdown seconds =>
    cases moved
    exact .shutdown seconds
  | proceed number =>
    obtain ⟨call, worker, next, found, stepped, rfl⟩ := proceed_eq_some moved
    cases call with
    | enqueue offer =>
      obtain ⟨⟨worker, next⟩, inner, same⟩ := Option.map_eq_some_iff.mp stepped
      cases same
      exact .offers found (Worker.offerRule_of_step inner)
    | flush seconds flush =>
      obtain ⟨⟨worker, next⟩, inner, same⟩ := Option.map_eq_some_iff.mp stepped
      cases same
      exact .flushes (.inl rfl) found (Worker.flushRule_of_proceed inner)
    | shutdown seconds shutdown =>
      obtain ⟨⟨worker, next⟩, inner, same⟩ := Option.map_eq_some_iff.mp stepped
      cases same
      exact .shuts (.inl rfl) found (Worker.shutdownRule_of_proceed inner)
  | giveUp number =>
    obtain ⟨call, worker, next, found, stepped, rfl⟩ := giveUp_eq_some moved
    cases call with
    | enqueue offer => cases stepped
    | flush seconds flush =>
      obtain ⟨⟨worker, next⟩, inner, same⟩ := Option.map_eq_some_iff.mp stepped
      cases same
      exact .flushes (.inr rfl) found (Worker.flushRule_of_giveUp inner)
    | shutdown seconds shutdown =>
      obtain ⟨⟨worker, next⟩, inner, same⟩ := Option.map_eq_some_iff.mp stepped
      cases same
      exact .shuts (.inr rfl) found (Worker.shutdownRule_of_giveUp inner)
  | work =>
    obtain ⟨worker, worked, same⟩ := Option.map_eq_some_iff.mp moved
    cases same
    exact .work worked
  | receive reply =>
    obtain ⟨worker, received, same⟩ := Option.map_eq_some_iff.mp moved
    cases same
    exact .receive received
  | tick clock =>
    cases moved
    exact .tick clock
  | relimit limits =>
    cases moved
    exact .relimit limits

/-- The thread moves by itself or by a reply, a call moves, or the depot is tended. -/
theorem step_cases {move : Move ρ} (moved : session.step submitter move = some after) :
    (move = .work ∧ session.worker.work submitter = some after.worker) ∨
      (∃ reply, move = .receive reply ∧
        session.worker.receive submitter reply = some after.worker) ∨
      (move ≠ .work ∧ ∃ entered, session.worker.CallRule entered after.worker) ∨
      (move ≠ .work ∧ ∃ depot, after.worker = { session.worker with depot }) := by
  have other {number : Nat} (by_call : move = .proceed number ∨ move = .giveUp number) :
      move ≠ .work := by
    rcases by_call with rfl | rfl
    · nofun
    · nofun
  cases stepRule_of_step moved with
  | enqueue envelope => exact .inr (.inr (.inl ⟨nofun, [], .same⟩))
  | flush seconds => exact .inr (.inr (.inl ⟨nofun, [], .same⟩))
  | shutdown seconds => exact .inr (.inr (.inl ⟨nofun, [], .same⟩))
  | offers found rule =>
    obtain ⟨entered, call, -⟩ := rule.call
    exact .inr (.inr (.inl ⟨nofun, entered, call⟩))
  | flushes by_call found rule => exact .inr (.inr (.inl ⟨other by_call, [], rule.call⟩))
  | shuts by_call found rule => exact .inr (.inr (.inl ⟨other by_call, [], rule.call⟩))
  | work worked => exact .inl ⟨rfl, worked⟩
  | receive received => exact .inr (.inl ⟨_, rfl, received⟩)
  | tick clock => exact .inr (.inr (.inr ⟨nofun, _, rfl⟩))
  | relimit limits => exact .inr (.inr (.inr ⟨nofun, _, rfl⟩))

theorem change_of_step {move : Move ρ} (moved : session.step submitter move = some after) :
    session.worker.Change submitter after.worker := by
  rcases step_cases moved with ⟨-, worked⟩ | ⟨reply, -, received⟩ | ⟨-, entered, rule⟩ | ⟨-, depot, same⟩
  · exact .turn (Worker.threadRule_of_work worked)
  · exact .turn (Worker.threadRule_of_receive received)
  · exact .call rule
  · rw [same]
    exact .tend depot

/-! ### Calls -/

theorem found_of_ask {call other : Call} {number : Nat}
    (found : (session.ask call).calls[number]? = some other) :
    session.calls[number]? = some other ∨ (number = session.calls.length ∧ other = call) := by
  unfold ask at found
  rw [List.getElem?_append] at found
  split at found
  · exact .inl found
  · rename_i beyond
    have last : number - session.calls.length = 0 := by
      by_contra later
      rw [List.getElem?_eq_none (by simp; omega)] at found
      cases found
    rw [last] at found
    cases found
    exact .inr ⟨by omega, rfl⟩

theorem found_of_set {calls : List Call} {call other : Call} {number place : Nat}
    (found : (calls.set number call)[place]? = some other) :
    calls[place]? = some other ∨ (place = number ∧ other = call) := by
  rw [List.getElem?_set] at found
  split at found
  · rename_i same
    split at found
    · cases found
      exact .inr ⟨same.symm, rfl⟩
    · cases found
  · exact .inl found

end Session

/-- What a step of the call with this number makes of the call and of the worker. -/
inductive Worker.CallStep {φ : Type} (number : Nat) (worker : Worker φ) :
    Call → Worker φ → Call → Prop
  | offer {offer next : Offer} {after : Worker φ} (rule : worker.OfferRule offer after next) :
    CallStep number worker (.enqueue offer) after (.enqueue next)
  | flush {seconds : Binary64} {flush next : Flush} {after : Worker φ}
    (rule : worker.FlushRule number flush after next) :
    CallStep number worker (.flush seconds flush) after (.flush seconds next)
  | shutdown {seconds : Binary64} {shutdown next : Shutdown} {after : Worker φ}
    (rule : worker.ShutdownRule number shutdown after next) :
    CallStep number worker (.shutdown seconds shutdown) after (.shutdown seconds next)

namespace Session

variable {φ ρ : Type} {submitter : Submitter φ ρ} {session after : Session φ}

/-- A call stays as it is, or takes a step. -/
theorem StepRule.call_kept {move : Move ρ} (rule : session.StepRule submitter move after)
    {number : Nat} {call : Call} (found : session.calls[number]? = some call) :
    ∃ next, after.calls[number]? = some next ∧
      (next = call ∨ session.worker.CallStep number call after.worker next) := by
  have inside := (List.getElem?_eq_some_iff.mp found).1
  have asked (other : Call) : (session.ask other).calls[number]? = some call := by
    unfold ask
    rw [List.getElem?_append_left inside, found]
  -- The call that moves is this one, or another one.
  have moves {other : Nat} {before next : Call} {worker : Worker φ}
      (there : session.calls[other]? = some before)
      (step : session.worker.CallStep other before worker next) :
      ∃ now, (session.calls.set other next)[number]? = some now ∧
        (now = call ∨ session.worker.CallStep number call worker now) := by
    by_cases same : other = number
    · subst same
      cases there.symm.trans found
      exact ⟨next, List.getElem?_set_self inside, .inr step⟩
    · refine ⟨call, ?_, .inl rfl⟩
      rw [List.getElem?_set_ne same, found]
  cases rule with
  | enqueue envelope => exact ⟨call, asked _, .inl rfl⟩
  | flush seconds => exact ⟨call, asked _, .inl rfl⟩
  | shutdown seconds => exact ⟨call, asked _, .inl rfl⟩
  | offers before rule => exact moves before (.offer rule)
  | flushes by_call before rule => exact moves before (.flush rule)
  | shuts by_call before rule => exact moves before (.shutdown rule)
  | work worked => exact ⟨call, found, .inl rfl⟩
  | receive received => exact ⟨call, found, .inl rfl⟩
  | tick clock => exact ⟨call, found, .inl rfl⟩
  | relimit limits => exact ⟨call, found, .inl rfl⟩

end Session

/-- What a call is asked for. -/
inductive Call.Kind
  | enqueue
  | flush
  | shutdown
  deriving DecidableEq

/-- What a call is asked for, however far it has come. -/
def Call.kind : Call → Kind
  | enqueue _ => .enqueue
  | flush _ _ => .flush
  | shutdown _ _ => .shutdown

/-- What the call is asked for that a move makes, if it makes one. -/
def Move.asks? {ρ : Type} : Move ρ → Option Call.Kind
  | enqueue _ => some .enqueue
  | flush _ => some .flush
  | shutdown _ => some .shutdown
  | _ => none

namespace Session

variable {φ ρ : Type} {submitter : Submitter φ ρ} {start session after : Session φ}
  {moves : List (Move ρ)}

/-- What the calls of a session are asked for, by their numbers. -/
def kinds (session : Session φ) : List Call.Kind :=
  session.calls.map Call.kind

theorem kinds_of_ask (call : Call) : (session.ask call).kinds = session.kinds ++ [call.kind] :=
  List.map_append

theorem kinds_of_set {number : Nat} {call next : Call} {worker : Worker φ}
    (found : session.calls[number]? = some call) (same : call.kind = next.kind) :
    (⟨worker, session.calls.set number next⟩ : Session φ).kinds = session.kinds := by
  have there : session.kinds[number]? = some next.kind := by
    unfold kinds
    rw [List.getElem?_map, found, ← same]
    rfl
  obtain ⟨inside, kind⟩ := List.getElem?_eq_some_iff.mp there
  unfold kinds at inside kind ⊢
  rw [List.map_set, ← kind, List.set_getElem_self]

/-- A call keeps its place and its kind. -/
theorem StepRule.kinds {move : Move ρ} (rule : session.StepRule submitter move after) :
    after.kinds = session.kinds ++ move.asks?.toList := by
  have aside {number : Nat} (by_call : move = .proceed number ∨ move = .giveUp number) :
      session.kinds = session.kinds ++ move.asks?.toList := by
    rcases by_call with rfl | rfl
    · exact (List.append_nil _).symm
    · exact (List.append_nil _).symm
  cases rule with
  | enqueue envelope => exact kinds_of_ask _
  | flush seconds => exact kinds_of_ask _
  | shutdown seconds => exact kinds_of_ask _
  | offers found rule => exact Eq.trans (kinds_of_set found rfl) (List.append_nil _).symm
  | flushes by_call found rule => exact Eq.trans (kinds_of_set found rfl) (aside by_call)
  | shuts by_call found rule => exact Eq.trans (kinds_of_set found rfl) (aside by_call)
  | work worked => exact (List.append_nil _).symm
  | receive received => exact (List.append_nil _).symm
  | tick clock => exact (List.append_nil _).symm
  | relimit limits => exact (List.append_nil _).symm

theorem kinds_of_run (ran : run submitter moves start = some session) :
    session.kinds = start.kinds ++ moves.filterMap Move.asks? := by
  refine run_induction (motive := fun moves session =>
    session.kinds = start.kinds ++ moves.filterMap Move.asks?) ?_ ?_ moves session ran
  · exact (List.append_nil _).symm
  · intro moves session move after ran moved ih
    have last : [move].filterMap Move.asks? = move.asks?.toList := by
      cases move <;> rfl
    rw [(stepRule_of_step moved).kinds, ih, List.filterMap_append, last, List.append_assoc]

theorem kind_of_run (ran : run submitter moves start = some session) {number : Nat}
    {call later : Call} (found : start.calls[number]? = some call)
    (still : session.calls[number]? = some later) : later.kind = call.kind := by
  have before : start.kinds[number]? = some call.kind := by
    unfold kinds
    rw [List.getElem?_map, found]
    rfl
  have after : session.kinds[number]? = some later.kind := by
    unfold kinds
    rw [List.getElem?_map, still]
    rfl
  rw [kinds_of_run ran,
    List.getElem?_append_left (List.getElem?_eq_some_iff.mp before).1, before] at after
  exact (Option.some.inj after).symm

/-- What holds of an offer when it is made, and is kept by its steps, holds of every offer of a run;
it may be told by the moments of the run, if the steps of others do not matter to it. -/
theorem offers_of_run {motive : List (Entry φ ρ) → Nat → Offer → Prop}
    (mono : ∀ moments entry number offer, entry.2 ≠ .proceed number →
      motive moments number offer → motive (moments ++ [entry]) number offer)
    (made : ∀ moves session envelope, run submitter moves start = some session →
      motive (timeline submitter moves start ++ [(session, .enqueue envelope)])
        session.calls.length (.made envelope))
    (step : ∀ moves session number offer worker next,
      run submitter moves start = some session →
      session.calls[number]? = some (.enqueue offer) →
      session.worker.OfferRule offer worker next →
      session.step submitter (.proceed number) =
        some ⟨worker, session.calls.set number (.enqueue next)⟩ →
      motive (timeline submitter moves start) number offer →
      motive (timeline submitter moves start ++ [(session, .proceed number)]) number next)
    (fresh : start.calls = []) (ran : run submitter moves start = some session)
    {number : Nat} {offer : Offer} (found : session.calls[number]? = some (.enqueue offer)) :
    motive (timeline submitter moves start) number offer := by
  refine run_induction (motive := fun moves session => ∀ number offer,
    session.calls[number]? = some (.enqueue offer) →
      motive (timeline submitter moves start) number offer) ?_ ?_ moves session ran number offer found
  · intro number offer found
    rw [fresh] at found
    cases found
  · intro moves session move after ran moved ih place other found
    rw [timeline_snoc ran moved]
    -- A call that is no offer is made, or takes the place of another one.
    have asked {call : Call} (apart : ∀ number, move ≠ .proceed number)
        (later : (session.ask call).calls[place]? = some (.enqueue other))
        (different : ∀ offer, call ≠ .enqueue offer) :
        motive (timeline submitter moves start ++ [(session, move)]) place other := by
      rcases found_of_ask later with old | ⟨-, new⟩
      · exact mono _ _ _ _ (apart _) (ih place other old)
      · exact absurd new.symm (different other)
    have aside {number : Nat} {before call : Call}
        (by_call : move = .proceed number ∨ move = .giveUp number)
        (there : session.calls[number]? = some before) (no_offer : ∀ offer, before ≠ .enqueue offer)
        (later : (session.calls.set number call)[place]? = some (.enqueue other))
        (different : ∀ offer, call ≠ .enqueue offer) :
        motive (timeline submitter moves start ++ [(session, move)]) place other := by
      rcases found_of_set later with old | ⟨-, new⟩
      · refine mono _ _ _ _ ?_ (ih place other old)
        rcases by_call with rfl | rfl
        · rintro ⟨⟩
          exact no_offer other (Option.some.inj (there.symm.trans old))
        · nofun
      · exact absurd new.symm (different other)
    cases stepRule_of_step moved with
    | enqueue envelope =>
      rcases found_of_ask found with old | ⟨rfl, new⟩
      · exact mono _ _ _ _ nofun (ih place other old)
      · cases new
        exact made moves session envelope ran
    | flush seconds => exact asked nofun found nofun
    | shutdown seconds => exact asked nofun found nofun
    | @offers number offer next worker before rule =>
      by_cases same : place = number
      · subst same
        rw [List.getElem?_set_self (List.getElem?_eq_some_iff.mp before).1] at found
        cases found
        exact step moves session place _ _ _ ran before rule moved (ih place _ before)
      · rw [List.getElem?_set_ne (Ne.symm same)] at found
        refine mono _ _ _ _ ?_ (ih place other found)
        rintro ⟨⟩
        exact same rfl
    | flushes by_call before rule => exact aside by_call before nofun found nofun
    | shuts by_call before rule => exact aside by_call before nofun found nofun
    | work worked => exact mono _ _ _ _ nofun (ih place other found)
    | receive received => exact mono _ _ _ _ nofun (ih place other found)
    | tick clock => exact mono _ _ _ _ nofun (ih place other found)
    | relimit limits => exact mono _ _ _ _ nofun (ih place other found)

end Session

end Courier
