/-
**Sending an envelope.**

To send an envelope never waits: whatever the worker is at, the offer of an envelope can go on, and
is over after three steps. By its last step the envelope enters the queue, or it is counted as
dropped for one reason and this is reported. The report names the envelope. Where its name cannot be
written the report raises a failure instead, out of the offer and before anything is counted.

* `Worker.Sends`: how the sending of an envelope ends.
* `Worker.OfferRule.sends`: what a step of an offer does.
* `Session.sends_answered`: how envelopes are sent in a run.
* `Session.send_unnamed_raises`: a failure is raised out of the sending of an envelope.
-/
import Courier.Proofs.Unnamed
namespace Courier

namespace Offer

/-- The envelope that is offered. -/
def whole : Offer → Envelope
  | made envelope => envelope
  | received envelope => envelope
  | filtered envelope _ => envelope
  | ended envelope _ => envelope

/-- What is left of the envelope is a part of it. -/
def LeavesPart : Offer → Prop
  | filtered whole part => part.IsPartOf whole
  | _ => True

/-- The offer is over. -/
def IsOver : Offer → Prop
  | ended _ _ => True
  | _ => False

end Offer

namespace Worker

variable {φ ρ : Type} {submitter : Submitter φ ρ} {worker after : Worker φ}

/-! ### How the sending of an envelope ends -/

/-- The worker refuses an envelope for this reason. -/
def Refuses (worker : Worker φ) (envelope : Envelope) : DropReason → Prop
  | .stopped => worker.phase ≠ .running
  | .rateLimited => worker.allow envelope = none
  | .queueFull => worker.phase = .running ∧ worker.hasRoom = false
  | _ => False

/-- How the sending of an envelope ends, and what it makes of the worker. -/
inductive Sends (worker : Worker φ) (whole : Envelope) : Worker φ → CallResult → Prop
  /-- What the limits leave of it enters the queue. -/
  | accepted {part : Envelope} (left : part.IsPartOf whole) (running : worker.phase = .running)
    (room : worker.hasRoom) : Sends worker whole (worker.enter whole part) (.ok true)
  /-- It is counted as dropped, once and for one reason, and this is reported. -/
  | refused {reason : DropReason} (why : worker.Refuses whole reason) (named : whole.IsNamed)
    (log : List Log.Entry) :
    Sends worker whole (worker.withBooks (worker.depot.ledger.drop reason) log) (.ok false)
  /-- Its name cannot be written: nothing is counted, and a failure is raised. -/
  | raised {reason : DropReason} (why : worker.Refuses whole reason) (unnamed : ¬ whole.IsNamed)
    (fault : TooManyDigits) : Sends worker whole worker (.error (.ofTooManyDigits fault))

theorem Sends.unnamed_of_error {whole : Envelope} {failure : Failure}
    (sent : worker.Sends whole after (.error failure)) : ¬ whole.IsNamed := by
  cases sent with
  | raised why unnamed fault => exact unnamed

/-- To refuse an envelope that has a name is to count it and to report it. -/
theorem refuse_of_named {envelope : Envelope} (named : envelope.IsNamed) (worker : Worker φ)
    (reason : DropReason) (level : Log.Level) (message : Text → Text) :
    ∃ log, worker.refuse envelope reason level message =
      (worker.withBooks (worker.depot.ledger.drop reason) log, .ok false) := by
  obtain ⟨id, text⟩ := named
  unfold refuse Depot.sayOf
  rw [Depot.naming_of_named text]
  exact ⟨_, rfl⟩

/-- A worker that refuses a part of an envelope ends the sending of the whole. -/
theorem sends_refuse {whole part : Envelope} (left : part.IsPartOf whole) {reason : DropReason}
    (why : worker.Refuses whole reason) (level : Log.Level) (message : Text → Text) :
    worker.Sends whole (worker.refuse part reason level message).1
      (worker.refuse part reason level message).2 := by
  cases text : part.id with
  | ok id =>
    have named : part.IsNamed := ⟨id, text⟩
    obtain ⟨log, same⟩ := refuse_of_named named worker reason level message
    rw [same]
    exact .refused why (left.isNamed_iff.mp named) log
  | error fault =>
    have unnamed : ¬ part.IsNamed := by
      rintro ⟨id, named⟩
      cases text.symm.trans named
    unfold refuse Depot.sayOf Depot.naming
    rw [text]
    exact .raised why (fun named => unnamed (left.isNamed_iff.mpr named)) fault

/-- A step of an offer leaves the worker alone, or ends the sending of its envelope. -/
theorem OfferRule.sends {offer next : Offer} (rule : worker.OfferRule offer after next)
    (left : offer.LeavesPart) :
    next.whole = offer.whole ∧ next.LeavesPart ∧
      ((after = worker ∧ ¬ next.IsOver) ∨
        ∃ result, next = .ended offer.whole result ∧ worker.Sends offer.whole after result) := by
  have itself (envelope : Envelope) : envelope.IsPartOf envelope := ⟨rfl, List.Sublist.refl _⟩
  cases rule with
  | look running => exact ⟨rfl, trivial, .inl ⟨rfl, id⟩⟩
  | @turnAway envelope halted =>
    have why : worker.Refuses envelope .stopped := halted
    exact ⟨rfl, trivial, .inr ⟨_, rfl, sends_refuse (itself _) why _ _⟩⟩
  | sieve allowed => exact ⟨rfl, isPartOf_of_allow allowed, .inl ⟨rfl, id⟩⟩
  | @hold envelope limited =>
    have why : worker.Refuses envelope .rateLimited := limited
    exact ⟨rfl, trivial, .inr ⟨_, rfl, sends_refuse (itself _) why _ _⟩⟩
  | enter running room => exact ⟨rfl, trivial, .inr ⟨_, rfl, .accepted left running room⟩⟩
  | @overflow whole part running full =>
    have why : worker.Refuses whole .queueFull := ⟨running, full⟩
    exact ⟨rfl, trivial, .inr ⟨_, rfl, sends_refuse left why _ _⟩⟩
  | @late whole part halted =>
    have why : worker.Refuses whole .stopped := halted
    exact ⟨rfl, trivial, .inr ⟨_, rfl, sends_refuse left why _ _⟩⟩

/-- An offer that is not over goes on, whatever the worker is at. -/
theorem proceedOffer_goes (worker : Worker φ) {offer : Offer} (under_way : ¬ offer.IsOver) :
    ∃ after next, worker.proceedOffer offer = some (after, next) ∧ next.ahead < offer.ahead := by
  cases offer with
  | made envelope =>
    unfold proceedOffer
    simp only
    split
    · exact ⟨_, _, rfl, Nat.lt_succ_self 2⟩
    · exact ⟨_, _, rfl, Nat.succ_pos 2⟩
  | received envelope =>
    unfold proceedOffer
    simp only
    split
    · exact ⟨_, _, rfl, Nat.succ_pos 1⟩
    · exact ⟨_, _, rfl, Nat.lt_succ_self 1⟩
  | filtered whole part =>
    unfold proceedOffer
    simp only
    split
    · split
      · exact ⟨_, _, rfl, Nat.succ_pos 0⟩
      · exact ⟨_, _, rfl, Nat.succ_pos 0⟩
    · exact ⟨_, _, rfl, Nat.succ_pos 0⟩
  | ended envelope result => exact absurd trivial under_way

end Worker

/-! ### The offers of a run -/

namespace Session

variable {φ ρ : Type} {submitter : Submitter φ ρ} {start session : Session φ}
  {moves : List (Move ρ)} {number : Nat} {offer : Offer}

/-- The offer ended by a step of its own at one of the moments. -/
def Ended (submitter : Submitter φ ρ) (moments : List (Entry φ ρ)) (number : Nat)
    (whole : Envelope) (result : CallResult) : Prop :=
  ∃ moment next, (moment, .proceed number) ∈ moments ∧
    moment.step submitter (.proceed number) = some next ∧
    next.calls[number]? = some (.enqueue (.ended whole result)) ∧
    moment.worker.Sends whole next.worker result

/-- Where an offer stands: it was made at one of the moments, and if it is over it has ended the
sending of its envelope at another one. -/
structure OfferStands (submitter : Submitter φ ρ) (moments : List (Entry φ ρ)) (number : Nat)
    (offer : Offer) : Prop where
  made : ∃ moment, (moment, .enqueue offer.whole) ∈ moments ∧ moment.calls.length = number
  left : offer.LeavesPart
  ended : ∀ whole result, offer = .ended whole result →
    Ended submitter moments number whole result

theorem OfferStands.mono {moments : List (Entry φ ρ)}
    (stands : OfferStands submitter moments number offer) (entry : Entry φ ρ) :
    OfferStands submitter (moments ++ [entry]) number offer where
  made := by
    obtain ⟨moment, member, place⟩ := stands.made
    exact ⟨moment, List.mem_append_left _ member, place⟩
  left := stands.left
  ended whole result past := by
    obtain ⟨moment, next, member, rest⟩ := stands.ended whole result past
    exact ⟨moment, next, List.mem_append_left _ member, rest⟩

theorem OfferStands.step {moments : List (Entry φ ρ)} {worker : Worker φ} {next : Offer}
    (stands : OfferStands submitter moments number offer)
    (found : session.calls[number]? = some (.enqueue offer))
    (rule : session.worker.OfferRule offer worker next)
    (moved : session.step submitter (.proceed number) =
      some ⟨worker, session.calls.set number (.enqueue next)⟩) :
    OfferStands submitter (moments ++ [(session, .proceed number)]) number next := by
  obtain ⟨same, left, sends⟩ := rule.sends stands.left
  refine ⟨?_, left, fun whole result past => ?_⟩
  · rw [same]
    exact (stands.mono _).made
  · subst past
    rcases sends with ⟨-, goes⟩ | ⟨answer, ends, sent⟩
    · exact absurd trivial goes
    · cases ends
      refine ⟨session, _, List.mem_append_right _ List.mem_cons_self, moved, ?_, sent⟩
      exact List.getElem?_set_self (List.getElem?_eq_some_iff.mp found).1

theorem offerStands_of_run (fresh : start.calls = [])
    (ran : run submitter moves start = some session)
    (found : session.calls[number]? = some (.enqueue offer)) :
    OfferStands submitter (timeline submitter moves start) number offer := by
  refine offers_of_run (motive := OfferStands submitter)
    (fun moments entry number offer _ stands => stands.mono entry) ?_ ?_ fresh ran found
  · intro moves session envelope ran
    exact ⟨⟨session, List.mem_append_right _ List.mem_cons_self, rfl⟩, trivial, nofun⟩
  · intro moves session number offer worker next ran found rule moved stands
    exact stands.step found rule moved

theorem goes_of_offer (submitter : Submitter φ ρ)
    (found : session.calls[number]? = some (.enqueue offer)) (under_way : ¬ offer.IsOver) :
    ∃ worker next, session.worker.OfferRule offer worker next ∧ next.ahead < offer.ahead ∧
      session.step submitter (.proceed number) =
        some ⟨worker, session.calls.set number (.enqueue next)⟩ := by
  obtain ⟨worker, next, stepped, nearer⟩ := session.worker.proceedOffer_goes under_way
  refine ⟨worker, next, Worker.offerRule_of_step stepped, nearer, ?_⟩
  refine proceed_of_stepOf submitter found ?_
  unfold stepOf
  simp only
  rw [stepped]
  rfl

/-- How envelopes are sent in a run. -/
structure AnswersSends (submitter : Submitter φ ρ) (moves : List (Move ρ))
    (start session : Session φ) : Prop where
  /-- To send never waits: an offer that is not over can take a step, and is nearer to its end by
  it. The step leaves the worker alone unless it is the last. -/
  goes : ∀ (number : Nat) (offer : Offer),
    session.calls[number]? = some (.enqueue offer) → ¬ offer.IsOver →
    ∃ worker next, session.step submitter (.proceed number) =
        some ⟨worker, session.calls.set number (.enqueue next)⟩ ∧
      next.ahead < offer.ahead ∧ (next.IsOver ∨ worker = session.worker)
  /-- An offer that is over was made with its envelope, and has ended the sending of it. -/
  ends : ∀ (number : Nat) (whole : Envelope) (result : CallResult),
    session.calls[number]? = some (.enqueue (.ended whole result)) →
    (∃ moment, (moment, .enqueue whole) ∈ timeline submitter moves start ∧
      moment.calls.length = number) ∧
    Ended submitter (timeline submitter moves start) number whole result
  /-- It has raised something only if its envelope has no name. -/
  raises : ∀ (number : Nat) (whole : Envelope) (failure : Failure),
    session.calls[number]? = some (.enqueue (.ended whole (.error failure))) → ¬ whole.IsNamed

/-- **Sending an envelope returns.** Whatever the worker, its queue and its limits are, the offer of
an envelope never waits; and where the envelope has a name nothing is raised, and it enters the
queue or is counted as dropped for one reason. -/
theorem sends_answered (submitter : Submitter φ ρ) (start : Session φ) (fresh : start.calls = [])
    (moves : List (Move ρ)) (session : Session φ)
    (ran : run submitter moves start = some session) :
    AnswersSends submitter moves start session where
  goes number offer found under_way := by
    obtain ⟨worker, next, rule, nearer, moved⟩ := goes_of_offer submitter found under_way
    obtain ⟨-, -, same | past⟩ := rule.sends (offerStands_of_run fresh ran found).left
    · exact ⟨worker, next, moved, nearer, .inr same.1⟩
    · obtain ⟨result, rfl, -⟩ := past
      exact ⟨worker, _, moved, nearer, .inl trivial⟩
  ends number whole result found := by
    have stands := offerStands_of_run fresh ran found
    exact ⟨stands.made, stands.ended whole result rfl⟩
  raises number whole failure found := by
    have stands := offerStands_of_run fresh ran found
    obtain ⟨moment, next, -, -, -, sent⟩ := stands.ended whole _ rfl
    exact sent.unnamed_of_error

/-- A session of a worker with one place in its queue. -/
def ofOne : Session Unit :=
  opened (.started 1 true (.opened ⟨1000, 0⟩))

/-- Two envelopes are sent, the second one named by the value. -/
def twoSends (id : Value) : List (Move Unit) :=
  [.enqueue (eventNamed (.text "first")), .proceed 0, .proceed 0, .proceed 0,
    .enqueue (eventNamed id), .proceed 1, .proceed 1, .proceed 1]

/-- The second envelope finds no place and is counted as dropped. -/
theorem two_sends_answered :
    ofOne.calls = [] ∧ ∃ session, run failing (twoSends (.text "second")) ofOne = some session ∧
      session.calls.map Call.result? = [some (.ok true), some (.ok false)] ∧
      session.worker.depot.ledger.dropped.total = 1 ∧
      AnswersSends failing (twoSends (.text "second")) ofOne session := by
  have goes : (run failing (twoSends (.text "second")) ofOne).map (fun session =>
      (session.calls.map Call.result?, session.worker.depot.ledger.dropped.total)) =
        some ([some (.ok true), some (.ok false)], 1) := by
    decide +kernel
  obtain ⟨session, ran, shape⟩ := Option.map_eq_some_iff.mp goes
  obtain ⟨results, dropped⟩ := Prod.mk.inj shape
  exact ⟨rfl, session, ran, results, dropped, sends_answered failing ofOne rfl _ session ran⟩

/-- If the second envelope is named by too large a number, a failure is raised out of the sending of
it, and nothing is counted. -/
theorem send_unnamed_raises :
    ∃ session, run failing (twoSends (.int (Int.ofNat (tenTo 5000)))) ofOne = some session ∧
      session.calls.map Call.result? =
        [some (.ok true), some (.error (.ofTooManyDigits ⟨⟩))] ∧
      session.worker.depot.ledger.dropped.total = 0 := by
  have goes : (run failing (twoSends (.int (Int.ofNat (tenTo 5000)))) ofOne).map (fun session =>
      (session.calls.map Call.result?, session.worker.depot.ledger.dropped.total)) =
        some ([some (.ok true), some (.error (.ofTooManyDigits ⟨⟩))], 0) := by
    decide +kernel
  obtain ⟨session, ran, shape⟩ := Option.map_eq_some_iff.mp goes
  obtain ⟨results, dropped⟩ := Prod.mk.inj shape
  exact ⟨session, ran, results, dropped⟩

end Session

end Courier
