/-
**Nothing is counted twice, and nothing is left out.**

Whatever is sent with a transport is counted once: when the offer refuses it, when it is dropped on
its way, or when a response comes. Until then it waits, or it is in the hands of the thread, or its
request is on its way. What is counted nowhere is a delivery out of which a failure was raised before
a response came. All of this holds as long as the names of the envelopes can be written, which is
what each drop reports.

* `Ledger.Adds`: what is counted in addition.
* `Delivery.begin_adds`, `Delivery.finish_adds`: a delivery counts one thing, unless it escapes.
* `Session.Squares.step`: a move keeps the books square.
* `Transport.sends_accounted`: the books of a whole run.
-/
import Courier.Proofs.WithinLimits
import Courier.Proofs.Unnamed
namespace Courier

/-! ### Ledgers -/

namespace Ledger

/-- What has been dropped or answered. -/
def booked (ledger : Ledger) : Nat :=
  ledger.dropped.total + ledger.responses.total

/-- So much more has been dropped or answered, and nothing has been accepted. -/
structure Adds (n : Nat) (before after : Ledger) : Prop where
  enqueued : after.enqueued = before.enqueued
  booked : after.booked = before.booked + n

variable {n m : Nat} {before middle after : Ledger}

theorem Adds.refl (ledger : Ledger) : Adds 0 ledger ledger :=
  ⟨rfl, rfl⟩

theorem Adds.trans (first : Adds n before middle) (second : Adds m middle after) :
    Adds (n + m) before after where
  enqueued := second.enqueued.trans first.enqueued
  booked := by rw [second.booked, first.booked, Nat.add_assoc]

theorem adds_drop (reason : DropReason) (ledger : Ledger) : Adds 1 ledger (ledger.drop reason) where
  enqueued := rfl
  booked := by
    unfold Ledger.booked
    rw [drop_total]
    show _ + 1 + ledger.responses.total = _
    omega

theorem adds_respond (status : Int) (ledger : Ledger) : Adds 1 ledger (ledger.respond status) where
  enqueued := rfl
  booked := by
    unfold Ledger.booked
    rw [respond_total]
    rfl

end Ledger

/-! ### Deliveries -/

namespace Depot

/-- To name an envelope counts nothing by itself. -/
theorem naming_ledger {envelope : Envelope} {depot : Depot} {next : Text → Depot → Outcome}
    (keeps : ∀ id, (next id depot).depot.ledger = depot.ledger) :
    (depot.naming envelope next).depot.ledger = depot.ledger := by
  unfold naming
  cases envelope.id with
  | ok id => exact keeps id
  | error fault => rfl

theorem apply_adds {signal : Signal} {depot after : Depot}
    (applied : depot.apply signal = .ok after) : Ledger.Adds 0 depot.ledger after.ledger := by
  cases signal with
  | limits header =>
    cases applied
    exact ⟨rfl, rfl⟩
  | retryAfter value =>
    unfold apply readRetryAfter at applied
    simp only at applied
    cases read : depot.limits.afterRetryAfter depot.clock.now depot.clock.wall value with
    | error fault =>
      rw [read] at applied
      cases applied
    | ok limits =>
      rw [read] at applied
      cases applied
      exact ⟨rfl, rfl⟩
  | tooManyRequests =>
    cases applied
    exact ⟨rfl, rfl⟩
  | none =>
    cases applied
    exact .refl _

end Depot

namespace Delivery

/-- The client yields a response: the server has answered, and does not lead astray. -/
def yields (flight : Flight) : Reply → Bool
  | .response response => (Redirect.refusal? flight.request response).isNone
  | .failure _ => false

/-- What comes of the request is a failure that is raised out of the delivery. -/
def escapes (flight : Flight) (reply : Reply) (depot : Depot) : Bool :=
  !yields flight reply && (finish flight reply depot).raised.isSome

variable {destination : Destination} {envelope : Envelope} {flight : Flight} {depot after : Depot}

/-- A delivery that is over at once has dropped the envelope, or raised a failure. -/
theorem begin_adds {outcome : Outcome}
    (begun : begin destination envelope depot = .ended outcome) :
    ∃ n, Ledger.Adds n depot.ledger outcome.depot.ledger ∧ n + outcome.raised.isSome.toNat = 1 := by
  unfold begin at begun
  split at begun
  · cases begun
    exact ⟨1, Ledger.adds_drop .serialization depot.ledger, rfl⟩
  · cases begun
    exact ⟨0, .refl _, rfl⟩
  · split at begun
    · cases begun
      exact ⟨0, ⟨rfl, rfl⟩, rfl⟩
    · cases begun

/-- A delivery whose request is on its way has counted nothing yet. -/
theorem depot_of_underWay (begun : begin destination envelope depot = .underWay flight after) :
    after = depot ∧ flight.envelope = envelope := by
  unfold begin at begun
  split at begun
  · cases begun
  · cases begun
  · split at begun
    · cases begun
    · cases begun
      exact ⟨rfl, rfl⟩

/-- A request that is not carried out is a drop, or its failure is raised further. -/
theorem fail_adds (named : envelope.IsNamed) (failure : Failure) (depot : Depot) :
    ∃ n, Ledger.Adds n depot.ledger (fail envelope failure depot).depot.ledger ∧
      n + (fail envelope failure depot).raised.isSome.toNat = 1 := by
  obtain ⟨id, text⟩ := named
  unfold fail
  split
  · unfold Depot.markOf
    rw [Depot.naming_of_named text]
    exact ⟨1, Ledger.adds_drop .transportError depot.ledger, rfl⟩
  · exact ⟨0, .refl _, rfl⟩

theorem reportRefusal_ledger (envelope : Envelope) (response : Response) (depot : Depot) :
    (reportRefusal envelope response depot).depot.ledger = depot.ledger := by
  unfold reportRefusal
  split
  · exact Depot.naming_ledger fun id => rfl
  · rfl

theorem readBody_ledger (envelope : Envelope) (response : Response) (depot : Depot) :
    (readBody envelope response depot).depot.ledger = depot.ledger := by
  unfold readBody
  split
  · refine Depot.naming_ledger fun id => ?_
    split
    · rfl
    · rfl
  · split
    · exact Depot.naming_ledger fun id => rfl
    · rfl

/-- A response is counted once, whatever is raised while it is taken in. -/
theorem takeIn_adds (envelope : Envelope) (response : Response) (depot : Depot) :
    Ledger.Adds 1 depot.ledger (takeIn envelope response depot).depot.ledger := by
  have counted := Ledger.adds_respond response.status depot.ledger
  unfold takeIn
  simp only
  split
  · exact counted
  · rename_i applied signal
    refine counted.trans (m := 0) ((Depot.apply_adds signal).trans (m := 0) ?_)
    have refused := reportRefusal_ledger envelope response applied
    unfold Outcome.andThen
    split
    · rw [readBody_ledger, refused]
      exact .refl _
    · rw [refused]
      exact .refl _

/-- A delivery that was under way counts one thing: a response, or a drop, unless it escapes. -/
theorem finish_adds (named : flight.envelope.IsNamed) (reply : Reply) (depot : Depot) :
    ∃ n, Ledger.Adds n depot.ledger (finish flight reply depot).depot.ledger ∧
      n + (escapes flight reply depot).toNat = 1 := by
  have settled : ∃ n, Ledger.Adds n depot.ledger (settle flight reply depot).depot.ledger ∧
      n + (!yields flight reply && (settle flight reply depot).raised.isSome).toNat = 1 := by
    cases reply with
    | failure failure => exact fail_adds named failure depot
    | response response =>
      unfold settle yields
      simp only
      cases Redirect.refusal? flight.request response with
      | some failure => exact fail_adds named failure depot
      | none => exact ⟨1, takeIn_adds flight.envelope response depot, rfl⟩
  obtain ⟨n, adds, one⟩ := settled
  exact ⟨n, ⟨adds.enqueued, adds.booked⟩, one⟩

end Delivery

/-! ### Workers -/

/-- A thread's step raises a failure out of a delivery before a response has come. -/
def Worker.escapes (destination : Destination) (worker : Worker Flight) : Move Reply → Bool
  | .work =>
    match worker.stage with
    | .filtered _ part =>
      match Delivery.begin destination part worker.depot with
      | .ended outcome => outcome.raised.isSome
      | .underWay .. => false
    | _ => false
  | .receive reply =>
    match worker.stage with
    | .submitting _ _ flight => Delivery.escapes flight reply worker.depot
    | _ => false
  | _ => false

namespace Worker

/-- What was accepted and has not been counted again yet: it waits, or the thread has it, or its
request is on its way. -/
def pending {φ : Type} (worker : Worker φ) : Nat :=
  worker.waiting.length + worker.stage.inHand.length + worker.stage.underWay.length

/-- Each envelope that a worker has can be named. -/
structure HasNamed (worker : Worker Flight) : Prop where
  has : ∀ envelope ∈ worker.stage.inHand ++ worker.waiting, envelope.IsNamed
  filtered : ∀ whole part, worker.stage = .filtered whole part → part.IsNamed
  submitting : ∀ whole part flight, worker.stage = .submitting whole part flight →
    flight.envelope.IsNamed

section

variable {φ : Type}

theorem close_adds {n : Nat} {outcome : Outcome} {before : Ledger} {worker : Worker φ}
    (adds : Ledger.Adds n before outcome.depot.ledger) :
    Ledger.Adds n before (worker.close outcome).depot.ledger := by
  unfold close
  cases outcome.raised with
  | none => exact ⟨adds.enqueued, adds.booked⟩
  | some failure => exact ⟨adds.enqueued, adds.booked⟩

theorem close_pending (outcome : Outcome) (worker : Worker φ) :
    (worker.close outcome).pending = worker.waiting.length := by
  unfold pending
  rw [close_waiting, close_inHand, close_underWay]
  rfl

theorem discard_pending (envelope : Envelope) (worker : Worker φ) :
    (worker.discard envelope).pending = worker.waiting.length :=
  close_pending _ _

theorem skip_pending (envelope : Envelope) (worker : Worker φ) :
    (worker.skip envelope).pending = worker.waiting.length :=
  close_pending _ _

theorem land_pending (part : Envelope) (outcome : Outcome) (worker : Worker φ) :
    (worker.land part outcome).pending = worker.waiting.length :=
  close_pending _ _

/-- An envelope with a name is counted when it is dropped. -/
theorem dropTaken_adds {envelope : Envelope} (named : envelope.IsNamed) (reason : DropReason)
    (message : Text → Text) (worker : Worker φ) :
    Ledger.Adds 1 worker.depot.ledger
      (worker.dropTaken envelope reason message).depot.ledger := by
  obtain ⟨id, text⟩ := named
  refine close_adds ?_
  unfold Depot.sayOf
  rw [Depot.naming_of_named text]
  exact Ledger.adds_drop reason worker.depot.ledger

/-- The report of a failed submission counts nothing. -/
theorem land_adds {n : Nat} {outcome : Outcome} {part : Envelope} {before : Ledger}
    {worker : Worker φ} (adds : Ledger.Adds n before outcome.depot.ledger) :
    Ledger.Adds n before (worker.land part outcome).depot.ledger := by
  have same : (contain part outcome).depot.ledger = outcome.depot.ledger := by
    unfold contain
    split
    · rfl
    · split
      · rfl
      · exact Depot.naming_ledger fun id => rfl
  refine close_adds ?_
  rw [same]
  exact adds

end

variable {destination : Destination} {worker after : Worker Flight}

/-- Only a thread that is about to submit an envelope lets a delivery escape by its own step. -/
theorem escapes_work_of_stage {stage : Stage Flight} (holds : worker.stage = stage)
    (other : ∀ whole part, stage ≠ .filtered whole part) :
    worker.escapes destination .work = false := by
  unfold escapes
  rw [holds]
  cases stage with
  | filtered whole part => exact absurd rfl (other whole part)
  | _ => rfl

theorem pending_of_stage {stage : Stage Flight} (holds : worker.stage = stage) :
    worker.pending =
      worker.waiting.length + stage.inHand.length + stage.underWay.length := by
  unfold pending
  rw [holds]

/-- **A step of the thread** counts what is no longer pending, unless a delivery escapes. -/
theorem work_adds (worked : worker.work (Delivery.submitter destination) = some after)
    (named : worker.HasNamed) :
    ∃ n, Ledger.Adds n worker.depot.ledger after.depot.ledger ∧
      worker.pending = after.pending + n + (worker.escapes destination .work).toNat := by
  -- Nothing escapes as long as no envelope is submitted.
  have quiet {stage : Stage Flight} {n : Nat} (holds : worker.stage = stage)
      (other : ∀ whole part, stage ≠ .filtered whole part)
      (adds : Ledger.Adds n worker.depot.ledger after.depot.ledger)
      (counts : worker.waiting.length + stage.inHand.length + stage.underWay.length =
        after.pending + n) :
      ∃ n, Ledger.Adds n worker.depot.ledger after.depot.ledger ∧
        worker.pending = after.pending + n + (worker.escapes destination .work).toNat := by
    refine ⟨n, adds, ?_⟩
    rw [escapes_work_of_stage holds other, pending_of_stage holds, counts]
    rfl
  have holding {stage : Stage Flight} (holds : worker.stage = stage) {envelope : Envelope}
      (member : envelope ∈ stage.inHand) : envelope.IsNamed := by
    refine named.has envelope (List.mem_append_left _ ?_)
    rw [holds]
    exact member
  cases threadRule_of_work worked with
  | @take task rest idle queue =>
    refine quiet idle nofun (.refl _) ?_
    unfold pending waiting
    rw [queue]
    cases task with
    | send envelope => rfl
    | marker call => rfl
  | starve idle empty => exact quiet idle nofun (.refl _) rfl
  | leave starved stopped => exact quiet starved nofun (.refl _) rfl
  | retry starved live => exact quiet starved nofun (.refl _) rfl
  | reach holds => exact quiet holds nofun ⟨rfl, rfl⟩ rfl
  | @discard envelope holds stopped =>
    have adds : Ledger.Adds 1 worker.depot.ledger (worker.discard envelope).depot.ledger :=
      dropTaken_adds (holding holds List.mem_cons_self) _ _ (worker.note _)
    refine quiet holds nofun adds ?_
    rw [discard_pending]
    rfl
  | clear holds live => exact quiet holds nofun (.refl _) rfl
  | @skip whole holds limited =>
    have adds : Ledger.Adds 1 worker.depot.ledger (worker.skip whole).depot.ledger :=
      dropTaken_adds (holding holds List.mem_cons_self) _ _ (worker.note _)
    refine quiet holds nofun adds ?_
    rw [skip_pending]
    rfl
  | sieve holds allowed => exact quiet holds nofun (.refl _) rfl
  | @fulfil whole part outcome holds begun =>
    obtain ⟨n, adds, one⟩ := Delivery.begin_adds begun
    refine ⟨n, land_adds adds, ?_⟩
    have escaped : worker.escapes destination .work = outcome.raised.isSome := by
      unfold escapes
      simp only [holds]
      rw [show Delivery.begin destination part worker.depot = .ended outcome from begun]
    rw [escaped, pending_of_stage holds, land_pending, Nat.add_assoc _ n, one]
    rfl
  | @depart whole part flight depot holds begun =>
    obtain ⟨rfl, -⟩ := Delivery.depot_of_underWay begun
    refine ⟨0, .refl _, ?_⟩
    have escaped : worker.escapes destination .work = false := by
      unfold escapes
      simp only [holds]
      rw [show Delivery.begin destination part worker.depot = .underWay flight worker.depot from
        begun]
    rw [escaped, pending_of_stage holds]
    rfl
  | land reply holds =>
    unfold work at worked
    rw [holds] at worked
    cases worked

/-- What comes of a request is counted, unless the delivery escapes. -/
theorem receive_adds {reply : Reply}
    (received : worker.receive (Delivery.submitter destination) reply = some after)
    (named : worker.HasNamed) :
    ∃ n, Ledger.Adds n worker.depot.ledger after.depot.ledger ∧
      worker.pending = after.pending + n + (worker.escapes destination (.receive reply)).toNat := by
  obtain ⟨whole, part, flight, holds, rfl⟩ := receive_eq_some received
  obtain ⟨n, adds, one⟩ :=
    Delivery.finish_adds (named.submitting whole part flight holds) reply worker.depot
  refine ⟨n, land_adds adds, ?_⟩
  have escaped : worker.escapes destination (.receive reply) =
      Delivery.escapes flight reply worker.depot := by
    unfold escapes
    simp only [holds]
  rw [escaped, pending_of_stage holds, land_pending, Nat.add_assoc _ n, one]
  rfl

/-! ### Names -/

theorem HasNamed.call {entered : List Envelope} (named : worker.HasNamed)
    (rule : worker.CallRule entered after) (origin : ∀ envelope ∈ entered, envelope.IsNamed) :
    after.HasNamed where
  has envelope member := by
    rw [rule.stage, rule.waiting, ← List.append_assoc] at member
    rcases List.mem_append.mp member with old | new
    · exact named.has envelope old
    · exact origin envelope new
  filtered whole part holds := by
    rw [rule.stage] at holds
    exact named.filtered whole part holds
  submitting whole part flight holds := by
    rw [rule.stage] at holds
    exact named.submitting whole part flight holds

/-- What is on its way has just been begun. -/
theorem ThreadRule.begun_of_submitting {φ ρ : Type} {submitter : Submitter φ ρ}
    {worker after : Worker φ} (rule : worker.ThreadRule submitter after) {whole part : Envelope}
    {flight : φ} (holds : after.stage = .submitting whole part flight) :
    worker.stage = .filtered whole part ∧
      ∃ depot, submitter.begin part worker.depot = .underWay flight depot := by
  have never {outcome : Outcome} {next : Worker φ} :
      (next.close outcome).stage ≠ .submitting whole part flight :=
    close_stage_ne (.submitting whole part flight) nofun nofun _ _
  cases rule with
  | take idle queue => cases holds
  | starve idle empty => cases holds
  | leave starved stopped => cases holds
  | retry starved live => cases holds
  | reach marker => cases holds
  | discard taken stopped => exact absurd holds never
  | clear taken live => cases holds
  | skip cleared limited => exact absurd holds never
  | sieve cleared allowed => cases holds
  | fulfil filtered begun => exact absurd holds never
  | depart filtered begun =>
    cases holds
    exact ⟨filtered, _, begun⟩
  | land reply submitting => exact absurd holds never

theorem HasNamed.turn (named : worker.HasNamed)
    (rule : worker.ThreadRule (Delivery.submitter destination) after) : after.HasNamed where
  has envelope member := by
    obtain ⟨news, -, same⟩ := rule.settles
    refine named.has envelope ?_
    rw [same]
    exact List.mem_append_right _ member
  filtered whole part holds := by
    obtain ⟨cleared, allowed, -⟩ := rule.sieve_of_filtered holds
    refine (isPartOf_of_allow allowed).isNamed_iff.mpr (named.has whole ?_)
    rw [cleared]
    exact List.mem_cons_self
  submitting whole part flight holds := by
    obtain ⟨filtered, depot, begun⟩ := rule.begun_of_submitting holds
    obtain ⟨-, same⟩ := Delivery.depot_of_underWay begun
    rw [same]
    exact named.filtered whole part filtered

end Worker

/-! ### Calls -/

namespace Call

/-- An offer that is over. -/
def isReturned : Call → Bool
  | enqueue (.ended _ _) => true
  | _ => false

/-- An offer that was accepted. -/
def isAccepted : Call → Bool
  | enqueue (.ended _ (.ok true)) => true
  | _ => false

/-- An offer counts as one call more than it did, once it is what the test asks for. -/
theorem countP_set {calls : List Call} {number : Nat} {call : Call} (test : Call → Bool)
    (found : calls[number]? = some call) (before : test call = false) (next : Call) :
    (calls.set number next).countP test = calls.countP test + (test next).toNat := by
  obtain ⟨inside, same⟩ := List.getElem?_eq_some_iff.mp found
  rw [List.countP_set inside, same, before]
  cases test next <;> rfl

end Call

/-- What is offered can be named, and no failure was raised out of the offer. -/
def Offer.IsSound : Offer → Prop
  | made envelope => envelope.IsNamed
  | received envelope => envelope.IsNamed
  | filtered _ part => part.IsNamed
  | ended _ result => ∃ accepted, result = .ok accepted

namespace Worker

variable {φ : Type} {worker after : Worker φ} {number : Nat}

/-- An envelope that is refused is counted as dropped. -/
theorem refuse_adds {envelope : Envelope} (named : envelope.IsNamed) (reason : DropReason)
    (level : Log.Level) (message : Text → Text) (worker : Worker φ) :
    (worker.refuse envelope reason level message).2 = .ok false ∧
      Ledger.Adds 1 worker.depot.ledger
        (worker.refuse envelope reason level message).1.depot.ledger := by
  obtain ⟨id, text⟩ := named
  unfold refuse Depot.sayOf
  rw [Depot.naming_of_named text]
  exact ⟨rfl, Ledger.adds_drop reason worker.depot.ledger⟩

/-- **A step of an offer** counts the offer once it is over: it is pending from then on, or it is
counted as dropped. -/
theorem OfferRule.adds {offer next : Offer} (rule : worker.OfferRule offer after next)
    (sound : offer.IsSound) :
    next.IsSound ∧
      after.pending + after.depot.ledger.booked =
        worker.pending + worker.depot.ledger.booked + (Call.enqueue next).isReturned.toNat ∧
      after.depot.ledger.enqueued =
        worker.depot.ledger.enqueued + (Call.enqueue next).isAccepted.toNat ∧
      after.accepted.length = worker.accepted.length + (Call.enqueue next).isAccepted.toNat := by
  -- A refusal leaves all that is pending where it is.
  have refused {whole envelope : Envelope} (named : envelope.IsNamed) (reason : DropReason)
      (level : Log.Level) (message : Text → Text) :
      (Offer.ended whole (worker.refuse envelope reason level message).2).IsSound ∧
        (worker.refuse envelope reason level message).1.pending +
          (worker.refuse envelope reason level message).1.depot.ledger.booked =
            worker.pending + worker.depot.ledger.booked + 1 ∧
        (worker.refuse envelope reason level message).1.depot.ledger.enqueued =
          worker.depot.ledger.enqueued + (Call.enqueue (.ended whole
            (worker.refuse envelope reason level message).2)).isAccepted.toNat ∧
        (worker.refuse envelope reason level message).1.accepted.length =
          worker.accepted.length + (Call.enqueue (.ended whole
            (worker.refuse envelope reason level message).2)).isAccepted.toNat := by
    obtain ⟨result, adds⟩ := refuse_adds named reason level message worker
    rw [result, adds.booked, adds.enqueued]
    exact ⟨⟨false, rfl⟩, rfl, rfl, rfl⟩
  cases rule with
  | look running => exact ⟨sound, rfl, rfl, rfl⟩
  | turnAway halted => exact refused sound _ _ _
  | sieve allowed => exact ⟨(isPartOf_of_allow allowed).isNamed_iff.mpr sound, rfl, rfl, rfl⟩
  | hold limited => exact refused sound _ _ _
  | @enter whole part running room =>
    have rule : worker.CallRule [part] (worker.enter whole part) :=
      .accept whole part running room
    refine ⟨⟨true, rfl⟩, ?_, rfl, ?_⟩
    · unfold pending
      rw [rule.waiting, rule.stage, List.length_append]
      show worker.waiting.length + 1 + _ + _ + worker.depot.ledger.booked = _ + 1
      omega
    · rw [rule.accepted, List.length_append]
      rfl
  | overflow running full => exact refused sound _ _ _
  | late halted => exact refused sound _ _ _

theorem FlushRule.ledger {flush next : Flush} (rule : worker.FlushRule number flush after next) :
    after.depot.ledger = worker.depot.ledger := by
  cases rule <;> rfl

theorem ShutdownRule.ledger {shutdown next : Shutdown}
    (rule : worker.ShutdownRule number shutdown after next) :
    after.depot.ledger = worker.depot.ledger := by
  cases rule with
  | flush rule => exact rule.ledger
  | _ => rfl

theorem CallRule.pending (rule : worker.CallRule [] after) : after.pending = worker.pending := by
  unfold Worker.pending
  rw [rule.waiting, rule.stage, List.append_nil]

end Worker

/-! ### Sessions -/

namespace Session

variable {destination : Destination} {session after : Session Flight} {move : Move Reply}
  {escaped : Nat}

/-- The books are square: whatever has been offered is pending, or is counted, or has escaped. -/
structure Squares (escaped : Nat) (session : Session Flight) : Prop where
  offers : ∀ (number : Nat) (offer : Offer), session.calls[number]? = some (.enqueue offer) →
    offer.IsSound
  named : session.worker.HasNamed
  returned : session.calls.countP Call.isReturned =
    session.worker.pending + session.worker.depot.ledger.booked + escaped
  accepted : session.calls.countP Call.isAccepted = session.worker.depot.ledger.enqueued
  entered : session.worker.accepted.length = session.worker.depot.ledger.enqueued

/-- A call that is no offer changes nothing that is counted. -/
theorem Squares.call {calls : List Call} {worker : Worker Flight} (squares : session.Squares escaped)
    (rule : session.worker.CallRule [] worker)
    (ledger : worker.depot.ledger = session.worker.depot.ledger)
    (offers : ∀ (number : Nat) (offer : Offer), calls[number]? = some (.enqueue offer) →
      offer.IsSound)
    (returned : calls.countP Call.isReturned = session.calls.countP Call.isReturned)
    (accepted : calls.countP Call.isAccepted = session.calls.countP Call.isAccepted) :
    Squares escaped ⟨worker, calls⟩ where
  offers := offers
  named := squares.named.call rule nofun
  returned := by
    show calls.countP Call.isReturned = worker.pending + worker.depot.ledger.booked + escaped
    rw [returned, rule.pending, ledger, squares.returned]
  accepted := by
    show calls.countP Call.isAccepted = worker.depot.ledger.enqueued
    rw [accepted, ledger, squares.accepted]
  entered := by
    show worker.accepted.length = worker.depot.ledger.enqueued
    rw [rule.accepted, ledger, List.append_nil, squares.entered]

theorem Squares.ask {call : Call} (squares : session.Squares escaped)
    (sound : ∀ offer, call = .enqueue offer → offer.IsSound) (returned : call.isReturned = false)
    (accepted : call.isAccepted = false) : (session.ask call).Squares escaped := by
  refine squares.call .same rfl (fun number offer found => ?_) ?_ ?_
  · rcases found_of_ask found with old | ⟨-, new⟩
    · exact squares.offers number offer old
    · exact sound offer new.symm
  · rw [List.countP_append, List.countP_singleton, returned]
    rfl
  · rw [List.countP_append, List.countP_singleton, accepted]
    rfl

/-- A flush or a shutdown takes a step. -/
theorem Squares.aside {number : Nat} {call next : Call} {worker : Worker Flight}
    (squares : session.Squares escaped) (found : session.calls[number]? = some call)
    (before : ∀ offer, call ≠ .enqueue offer) (later : ∀ offer, next ≠ .enqueue offer)
    (rule : session.worker.CallRule [] worker)
    (ledger : worker.depot.ledger = session.worker.depot.ledger) :
    Squares escaped ⟨worker, session.calls.set number next⟩ := by
  have plain {call : Call} (other : ∀ offer, call ≠ .enqueue offer) :
      call.isReturned = false ∧ call.isAccepted = false := by
    cases call with
    | enqueue offer => exact absurd rfl (other offer)
    | _ => exact ⟨rfl, rfl⟩
  refine squares.call rule ledger (fun place offer there => ?_) ?_ ?_
  · rcases found_of_set there with old | ⟨-, new⟩
    · exact squares.offers place offer old
    · exact absurd new.symm (later offer)
  · rw [Call.countP_set _ found (plain before).1, (plain later).1]
    rfl
  · rw [Call.countP_set _ found (plain before).2, (plain later).2]
    rfl

theorem Squares.offer {number : Nat} {offer next : Offer} {worker : Worker Flight}
    (squares : session.Squares escaped)
    (found : session.calls[number]? = some (.enqueue offer))
    (rule : session.worker.OfferRule offer worker next) :
    Squares escaped ⟨worker, session.calls.set number (.enqueue next)⟩ := by
  have sound := squares.offers number offer found
  obtain ⟨later, books, enqueued, entered⟩ := rule.adds sound
  obtain ⟨returned, accepted⟩ :
      (Call.enqueue offer).isReturned = false ∧ (Call.enqueue offer).isAccepted = false := by
    cases rule <;> exact ⟨rfl, rfl⟩
  refine ⟨fun place other there => ?_, ?_, ?_, ?_, ?_⟩
  · rcases found_of_set there with old | ⟨-, new⟩
    · exact squares.offers place other old
    · cases new
      exact later
  · obtain ⟨parts, call, filtered⟩ := rule.call
    refine squares.named.call call fun part member => ?_
    obtain ⟨whole, rfl⟩ := filtered part member
    exact sound
  · show (session.calls.set number (.enqueue next)).countP Call.isReturned =
      worker.pending + worker.depot.ledger.booked + escaped
    rw [Call.countP_set _ found returned, squares.returned, books]
    omega
  · show (session.calls.set number (.enqueue next)).countP Call.isAccepted =
      worker.depot.ledger.enqueued
    rw [Call.countP_set _ found accepted, squares.accepted, enqueued]
  · show worker.accepted.length = worker.depot.ledger.enqueued
    rw [entered, squares.entered, enqueued]

/-- The thread takes a step, and what is no longer pending is counted or escapes. -/
theorem Squares.turn {n extra : Nat} {worker : Worker Flight} (squares : session.Squares escaped)
    (rule : session.worker.ThreadRule (Delivery.submitter destination) worker)
    (adds : Ledger.Adds n session.worker.depot.ledger worker.depot.ledger)
    (counts : session.worker.pending = worker.pending + n + extra) :
    Squares (escaped + extra) { session with worker } where
  offers := squares.offers
  named := squares.named.turn rule
  returned := by
    show session.calls.countP Call.isReturned =
      worker.pending + worker.depot.ledger.booked + (escaped + extra)
    rw [squares.returned, adds.booked, counts]
    omega
  accepted := by
    show session.calls.countP Call.isAccepted = worker.depot.ledger.enqueued
    rw [squares.accepted, adds.enqueued]
  entered := by
    show worker.accepted.length = worker.depot.ledger.enqueued
    rw [rule.accepted, squares.entered, adds.enqueued]

/-- **A move keeps the books square.** -/
theorem Squares.step (squares : session.Squares escaped)
    (moved : session.step (Delivery.submitter destination) move = some after)
    (named : ∀ envelope, move = .enqueue envelope → envelope.IsNamed) :
    after.Squares (escaped + (session.worker.escapes destination move).toNat) := by
  have silent {number : Nat} (by_call : move = .proceed number ∨ move = .giveUp number) :
      session.worker.escapes destination move = false := by
    rcases by_call with rfl | rfl
    · rfl
    · rfl
  cases stepRule_of_step moved with
  | enqueue envelope =>
    refine squares.ask (fun offer same => ?_) rfl rfl
    cases same
    exact named envelope rfl
  | flush seconds => exact squares.ask nofun rfl rfl
  | shutdown seconds => exact squares.ask nofun rfl rfl
  | offers found rule => exact squares.offer found rule
  | flushes by_call found rule =>
    rw [silent by_call]
    exact squares.aside found nofun nofun rule.call rule.ledger
  | shuts by_call found rule =>
    rw [silent by_call]
    exact squares.aside found nofun nofun rule.call rule.ledger
  | work worked =>
    obtain ⟨n, adds, counts⟩ := Worker.work_adds worked squares.named
    exact squares.turn (Worker.threadRule_of_work worked) adds counts
  | receive received =>
    obtain ⟨n, adds, counts⟩ := Worker.receive_adds received squares.named
    exact squares.turn (Worker.threadRule_of_receive received) adds counts
  | tick clock => exact ⟨squares.offers, ⟨squares.named.has, squares.named.filtered,
      squares.named.submitting⟩, squares.returned, squares.accepted, squares.entered⟩
  | relimit limits => exact ⟨squares.offers, ⟨squares.named.has, squares.named.filtered,
      squares.named.submitting⟩, squares.returned, squares.accepted, squares.entered⟩

end Session

/-! ### Transports -/

namespace Transport

/-- The deliveries of a run out of which a failure was raised before a response came. -/
def escaped (transport : Transport) (moves : List (Move Reply)) : Nat :=
  (Session.timeline transport.submitter moves transport.session).countP fun entry =>
    entry.1.worker.escapes transport.destination entry.2

/-- The books of a transport after a run. -/
structure Accounts (transport : Transport) (moves : List (Move Reply)) (session : Session Flight) :
    Prop where
  /-- What has been sent waits, or is in the hands of the thread, or is on its way; or it has been
  counted as dropped, or as answered, or its delivery has escaped. -/
  returned : session.calls.countP Call.isReturned =
    session.worker.waiting.length + session.worker.stage.inHand.length +
      session.worker.stage.underWay.length + session.worker.depot.ledger.dropped.total +
      session.worker.depot.ledger.responses.total + transport.escaped moves
  /-- No call that has returned has raised a failure. -/
  failed : ∀ (number : Nat) (envelope : Envelope) (failure : Failure),
    session.calls[number]? ≠ some (.enqueue (.ended envelope (.error failure)))
  /-- What has entered the queue was counted. -/
  enqueued : session.worker.depot.ledger.enqueued = session.worker.accepted.length
  /-- So was every call that has returned well. -/
  accepted : session.worker.depot.ledger.enqueued = session.calls.countP Call.isAccepted

theorem opened_squares {settings : Settings} {given : Option Dsn} {clock : Clock}
    {transport : Transport} (opens : opened settings given clock = .ok transport) :
    transport.session.Squares 0 := by
  unfold opened at opens
  cases resolved : Destination.resolve settings given with
  | error fault =>
    rw [resolved] at opens
    cases opens
  | ok pair =>
    rw [resolved] at opens
    cases opens
    exact ⟨nofun, ⟨nofun, nofun, nofun⟩, rfl, rfl, rfl⟩

/-- **Nothing is counted twice, and nothing is left out.** In every run of a transport over envelopes
whose names can be written, its books are square. -/
theorem sends_accounted (settings : Settings) (given : Option Dsn) (clock : Clock)
    (transport : Transport) (opens : opened settings given clock = .ok transport)
    (moves : List (Move Reply)) (session : Session Flight)
    (ran : Session.run transport.submitter moves transport.session = some session)
    (named : ∀ envelope, .enqueue envelope ∈ moves → envelope.IsNamed) :
    transport.Accounts moves session := by
  have squares : session.Squares (transport.escaped moves) := by
    refine Session.run_induction (motive := fun moves session =>
      (∀ envelope, .enqueue envelope ∈ moves → envelope.IsNamed) →
        session.Squares (transport.escaped moves)) (fun _ => opened_squares opens) ?_ moves session
      ran named
    intro moves session move after ran moved ih named
    have before := ih fun envelope member => named envelope (List.mem_append_left _ member)
    unfold escaped
    rw [Session.timeline_snoc ran moved, List.countP_append, List.countP_singleton]
    have squares := before.step moved fun envelope same =>
      named envelope (List.mem_append_right _ (same ▸ List.mem_cons_self))
    cases escape : session.worker.escapes transport.destination move with
    | false =>
      rw [escape] at squares
      exact squares
    | true =>
      rw [escape] at squares
      exact squares
  refine ⟨?_, ?_, squares.entered.symm, squares.accepted.symm⟩
  · rw [squares.returned]
    unfold Worker.pending Ledger.booked
    omega
  · intro number envelope failure found
    obtain ⟨accepted, same⟩ := squares.offers number _ found
    cases same

/-- Three envelopes are sent: one is answered, the delivery of the next fails in a way that is no
failed transport, and the last one waits. -/
def answeredAndEscaped : List (Move Reply) :=
  [.enqueue (eventAndTransaction "first"), .proceed 0, .proceed 0, .proceed 0,
    .enqueue (eventAndTransaction "second"), .proceed 1, .proceed 1, .proceed 1,
    .enqueue (eventAndTransaction "third"), .proceed 2, .proceed 2, .proceed 2,
    .work, .work, .work, .work, .receive (.response noEvents),
    .work, .work, .work, .work, .receive (.failure ⟨"RuntimeError", none⟩)]

/-- Each of the three is in the books once. -/
theorem answered_and_escaped_accounted :
    ∃ transport session, opened {} (some plainDsn) ⟨1000, 0⟩ = .ok transport ∧
      Session.run transport.submitter answeredAndEscaped transport.session = some session ∧
      (∀ envelope, .enqueue envelope ∈ answeredAndEscaped → envelope.IsNamed) ∧
      session.calls.countP Call.isReturned = 3 ∧ session.worker.waiting.length = 1 ∧
      session.worker.depot.ledger.responses.total = 1 ∧
      transport.escaped answeredAndEscaped = 1 ∧ transport.Accounts answeredAndEscaped session := by
  obtain ⟨transport, opens, goes, one⟩ : ∃ transport,
      opened {} (some plainDsn) ⟨1000, 0⟩ = .ok transport ∧
      (Session.run transport.submitter answeredAndEscaped transport.session).map (fun session =>
        (session.calls.countP Call.isReturned, session.worker.waiting.length,
          session.worker.depot.ledger.responses.total)) = some (3, 1, 1) ∧
      transport.escaped answeredAndEscaped = 1 :=
    ⟨_, rfl, by decide +kernel, by decide +kernel⟩
  obtain ⟨session, ran, shape⟩ := Option.map_eq_some_iff.mp goes
  obtain ⟨three, rest⟩ := Prod.mk.inj shape
  obtain ⟨waits, answered⟩ := Prod.mk.inj rest
  have named : ∀ envelope, .enqueue envelope ∈ answeredAndEscaped → envelope.IsNamed := by
    intro envelope member
    simp only [answeredAndEscaped, List.mem_cons, Move.enqueue.injEq, reduceCtorEq, false_or,
      List.not_mem_nil, or_false] at member
    rcases member with rfl | rfl | rfl
    · exact Envelope.isNamed_of_text rfl
    · exact Envelope.isNamed_of_text rfl
    · exact Envelope.isNamed_of_text rfl
  exact ⟨transport, session, opens, ran, named, three, waits, answered, one,
    sends_accounted {} (some plainDsn) ⟨1000, 0⟩ transport opens answeredAndEscaped session ran named⟩

end Transport

end Courier
