/-
**Limits on the way of an envelope.**

An envelope is checked against the limits twice, when it is offered and when the thread has taken it.
Limits change only by what comes of submissions, and the thread makes none in between, so that what
passed the second check is not limited when it is submitted either. The way of an envelope is told
by moments of the timeline, in their order.

* `Worker.Carries`: each envelope a worker has comes from where it should.
* `Session.tracked_of_run`: so it is in every run.
* `Transport.submitted_within_limits`: what a transport submits, of what was sent.
-/
import Courier.Proofs.Accounting
import Courier.Proofs.ClockOrder
import Courier.Transport
namespace Courier

/-! ### Moments -/

/-- How an envelope was offered and checked. -/
structure Trail (φ : Type) where
  sent : Envelope
  /-- The call that offered it. -/
  number : Nat
  asked : Session φ
  checked : Session φ

namespace Trail

variable {φ ρ : Type}

/-- The moments of the offer and of the check. -/
def moments (trail : Trail φ) : List (Session.Entry φ ρ) :=
  [(trail.asked, .enqueue trail.sent), (trail.checked, .proceed trail.number)]

/-- The check left this envelope. -/
structure LeadsTo (trail : Trail φ) (mid : Envelope) : Prop where
  asked : trail.asked.calls.length = trail.number
  checked : trail.checked.calls[trail.number]? = some (.enqueue (.received trail.sent))
  headers : mid.headers = trail.sent.headers
  items : mid.items = trail.sent.items.filter trail.checked.worker.isFree

end Trail

namespace Session

variable {φ ρ : Type}

/-- The thread checks the envelope it has taken, and this part is left. -/
structure Sieves (taken : Session φ) (mid part : Envelope) : Prop where
  holds : taken.worker.stage = .cleared mid
  headers : part.headers = mid.headers
  items : part.items = mid.items.filter taken.worker.isFree

/-- The envelope is what the limits left of one that was offered. -/
def WasChecked (moments : List (Session.Entry φ ρ)) (mid : Envelope) : Prop :=
  ∃ trail : Trail φ, trail.moments.Sublist moments ∧ trail.LeadsTo mid

/-- The part is what the limits left of such an envelope when it was taken. -/
def WasTaken (moments : List (Session.Entry φ ρ)) (mid part : Envelope) : Prop :=
  ∃ (trail : Trail φ) (taken : Session φ),
    (trail.moments ++ [(taken, Move.work)]).Sublist moments ∧ trail.LeadsTo mid ∧
      taken.Sieves mid part

/-- The part was submitted then, and none of it was limited. -/
def WasIssued (moments : List (Session.Entry φ ρ)) (mid part : Envelope) : Prop :=
  ∃ (trail : Trail φ) (taken issued : Session φ),
    (trail.moments ++ [(taken, Move.work)] ++ [(issued, Move.work)]).Sublist moments ∧
      trail.LeadsTo mid ∧ taken.Sieves mid part ∧ issued.worker.stage = .filtered mid part ∧
      ∀ item ∈ part.items, issued.worker.isFree item

variable {moments later : List (Session.Entry φ ρ)} {mid part : Envelope}

theorem WasChecked.mono (was : WasChecked moments mid) (grows : moments.Sublist later) :
    WasChecked later mid := by
  obtain ⟨trail, passed, leads⟩ := was
  exact ⟨trail, passed.trans grows, leads⟩

theorem WasTaken.mono (was : WasTaken moments mid part) (grows : moments.Sublist later) :
    WasTaken later mid part := by
  obtain ⟨trail, taken, passed, rest⟩ := was
  exact ⟨trail, taken, passed.trans grows, rest⟩

theorem WasIssued.mono (was : WasIssued moments mid part) (grows : moments.Sublist later) :
    WasIssued later mid part := by
  obtain ⟨trail, taken, issued, passed, rest⟩ := was
  exact ⟨trail, taken, issued, passed.trans grows, rest⟩

end Session

/-! ### Workers -/

namespace Worker

variable {φ ρ : Type} {submitter : Submitter φ ρ} {worker after : Worker φ}
  {moments later : List (Session.Entry φ ρ)}

/-- Each envelope a worker has was checked, and what it submits or is about to submit of it was
taken. -/
structure Carries (moments : List (Session.Entry φ ρ)) (worker : Worker φ) : Prop where
  limited : worker.limited = true
  has : ∀ mid ∈ worker.stage.inHand ++ worker.waiting, Session.WasChecked moments mid
  sieved : ∀ mid part, worker.stage = .filtered mid part →
    Session.WasTaken moments mid part ∧ ∀ item ∈ part.items, worker.isFree item
  told : ∀ mid part, (mid, part) ∈ worker.submissions → Session.WasIssued moments mid part

theorem Carries.mono (carries : worker.Carries moments) (grows : moments.Sublist later) :
    worker.Carries later where
  limited := carries.limited
  has mid member := (carries.has mid member).mono grows
  sieved mid part holds :=
    ⟨(carries.sieved mid part holds).1.mono grows, (carries.sieved mid part holds).2⟩
  told mid part member := (carries.told mid part member).mono grows

/-- A call leaves the limits, the clock and the thread alone. -/
theorem Carries.call {entered : List Envelope} (carries : worker.Carries moments)
    (rule : worker.CallRule entered after)
    (origin : ∀ mid ∈ entered, Session.WasChecked moments mid) : after.Carries moments where
  limited := by
    have same : after.limited = worker.limited := by cases rule <;> rfl
    rw [same]
    exact carries.limited
  has mid member := by
    rw [rule.stage, rule.waiting, ← List.append_assoc] at member
    rcases List.mem_append.mp member with old | new
    · exact carries.has mid old
    · exact origin mid new
  sieved mid part holds := by
    have same : after.isFree = worker.isFree := by cases rule <;> rfl
    rw [rule.stage] at holds
    rw [same]
    exact carries.sieved mid part holds
  told mid part member := by
    rw [rule.submissions] at member
    exact carries.told mid part member

/-- As the clock goes on, no limit begins to hold. -/
theorem Carries.tick (carries : worker.Carries moments) {clock : Clock}
    (forward : worker.depot.clock.now ≤ clock.now) :
    ({ worker with depot := { worker.depot with clock } } : Worker φ).Carries moments where
  limited := carries.limited
  has := carries.has
  sieved mid part holds := by
    obtain ⟨was, free⟩ := carries.sieved mid part holds
    refine ⟨was, fun item member => ?_⟩
    have now := free item member
    unfold isFree at now ⊢
    rw [Bool.not_eq_true'] at now ⊢
    rw [← Bool.not_eq_true] at now ⊢
    exact fun later => now (Limits.isLimited_of_later forward later)
  told := carries.told

theorem ThreadRule.limited (rule : worker.ThreadRule submitter after) :
    after.limited = worker.limited := by
  cases rule with
  | discard holds stopped => exact close_limited ..
  | skip holds limited => exact close_limited ..
  | fulfil holds begun => exact close_limited ..
  | land reply holds => exact close_limited ..
  | _ => rfl

/-- The thread checks an envelope, or submits what it has checked. -/
theorem Carries.turn (carries : worker.Carries moments) (grows : moments.Sublist later)
    (rule : worker.ThreadRule submitter after)
    (sieves : ∀ mid part, worker.stage = .cleared mid → worker.allow mid = some part →
      Session.WasChecked moments mid → Session.WasTaken later mid part)
    (issues : ∀ mid part, worker.stage = .filtered mid part → Session.WasTaken moments mid part →
      (∀ item ∈ part.items, worker.isFree item) → Session.WasIssued later mid part) :
    after.Carries later where
  limited := rule.limited.trans carries.limited
  has mid member := by
    obtain ⟨news, -, same⟩ := rule.settles
    have before : mid ∈ worker.stage.inHand ++ worker.waiting := by
      rw [same]
      exact List.mem_append_right _ member
    exact (carries.has mid before).mono grows
  sieved mid part holds := by
    obtain ⟨cleared, allowed, same⟩ := rule.sieve_of_filtered holds
    have origin : mid ∈ worker.stage.inHand ++ worker.waiting := by
      rw [cleared]
      exact List.mem_cons_self
    refine ⟨sieves mid part cleared allowed (carries.has mid origin), fun item member => ?_⟩
    rw [items_of_allow carries.limited allowed] at member
    rw [same]
    exact (List.mem_filter.mp member).2
  told mid part member := by
    obtain ⟨news, told, arise⟩ := rule.journal
    have happened := mem_submissions_iff.mp member
    rw [told] at happened
    rcases List.mem_append.mp happened with old | new
    · exact (carries.told mid part (mem_submissions_iff.mpr old)).mono grows
    · have holds : worker.stage = .filtered mid part := arise _ new
      obtain ⟨was, free⟩ := carries.sieved mid part holds
      exact issues mid part holds was free

end Worker

/-! ### Sessions -/

/-- The move leaves the limits alone, and the clock does not go back by it. -/
def Move.IsCalm {φ ρ : Type} (session : Session φ) : Move ρ → Prop
  | tick clock => session.worker.depot.clock.now ≤ clock.now
  | relimit _ => False
  | _ => True

instance {φ ρ : Type} (session : Session φ) (move : Move ρ) : Decidable (move.IsCalm session) :=
  match move with
  | .tick clock => inferInstanceAs (Decidable (session.worker.depot.clock.now ≤ clock.now))
  | .relimit _ => inferInstanceAs (Decidable False)
  | .enqueue _ => inferInstanceAs (Decidable True)
  | .flush _ => inferInstanceAs (Decidable True)
  | .shutdown _ => inferInstanceAs (Decidable True)
  | .proceed _ => inferInstanceAs (Decidable True)
  | .giveUp _ => inferInstanceAs (Decidable True)
  | .work => inferInstanceAs (Decidable True)
  | .receive _ => inferInstanceAs (Decidable True)

/-- How the offer with this number came to where it is. -/
def Offer.IsTracked {φ ρ : Type} (moments : List (Session.Entry φ ρ)) (number : Nat) : Offer → Prop
  | made sent => ∃ asked, (asked, Move.enqueue sent) ∈ moments ∧ asked.calls.length = number
  | received sent => ∃ asked, (asked, Move.enqueue sent) ∈ moments ∧ asked.calls.length = number
  | filtered _ part => Session.WasChecked moments part
  | ended _ _ => True

theorem Offer.IsTracked.mono {φ ρ : Type} {moments later : List (Session.Entry φ ρ)} {number : Nat}
    {offer : Offer} (tracked : offer.IsTracked moments number) (grows : moments.Sublist later) :
    offer.IsTracked later number := by
  cases offer with
  | made sent =>
    obtain ⟨asked, made, place⟩ := tracked
    exact ⟨asked, grows.subset made, place⟩
  | received sent =>
    obtain ⟨asked, made, place⟩ := tracked
    exact ⟨asked, grows.subset made, place⟩
  | filtered whole part => exact Session.WasChecked.mono tracked grows
  | ended envelope result => trivial

namespace Session

variable {φ ρ : Type} {submitter : Submitter φ ρ} {session after : Session φ} {move : Move ρ}
  {moments : List (Session.Entry φ ρ)}

/-- All that is under way in a session came to where it is by the moments. -/
structure Tracked (moments : List (Session.Entry φ ρ)) (session : Session φ) : Prop where
  offers : ∀ (number : Nat) (offer : Offer), session.calls[number]? = some (.enqueue offer) →
    offer.IsTracked moments number
  carries : session.worker.Carries moments

/-- An offer takes a step: the moment of an offer or of a check is added to its way. -/
theorem Tracked.offer {number : Nat} {offer next : Offer} {worker : Worker φ}
    (tracked : session.Tracked moments) (found : session.calls[number]? = some (.enqueue offer))
    (rule : session.worker.OfferRule offer worker next) :
    next.IsTracked (moments ++ [(session, Move.proceed number)]) number ∧
      worker.Carries (moments ++ [(session, (Move.proceed number : Move ρ))]) := by
  have grows : moments.Sublist (moments ++ [(session, Move.proceed number)]) :=
    List.sublist_append_left _ _
  have way := tracked.offers number offer found
  have carries := tracked.carries.mono grows
  cases rule with
  | look running => exact ⟨way.mono grows, carries⟩
  | turnAway halted => exact ⟨trivial, carries.call (.refuse ..) nofun⟩
  | @sieve sent part allowed =>
    obtain ⟨asked, made, place⟩ := way
    refine ⟨⟨⟨sent, number, asked, session⟩, ?_, place, found, ?_, ?_⟩, carries⟩
    · exact (List.singleton_sublist.mpr made).append (List.Sublist.refl _)
    · exact (Worker.isPartOf_of_allow allowed).headers
    · exact Worker.items_of_allow tracked.carries.limited allowed
  | hold limited => exact ⟨trivial, carries.call (.refuse ..) nofun⟩
  | @enter whole part running room =>
    refine ⟨trivial, carries.call (.accept whole part running room) fun mid member => ?_⟩
    rw [List.mem_singleton.mp member]
    exact WasChecked.mono way grows
  | overflow running full => exact ⟨trivial, carries.call (.refuse ..) nofun⟩
  | late halted => exact ⟨trivial, carries.call (.refuse ..) nofun⟩

theorem Tracked.step (tracked : session.Tracked moments)
    (moved : session.step submitter move = some after) (calm : move.IsCalm session) :
    after.Tracked (moments ++ [(session, move)]) := by
  have grows : moments.Sublist (moments ++ [(session, move)]) := List.sublist_append_left _ _
  have carries := tracked.carries.mono grows
  have offers (number : Nat) (offer : Offer)
      (found : session.calls[number]? = some (.enqueue offer)) :
      offer.IsTracked (moments ++ [(session, move)]) number :=
    (tracked.offers number offer found).mono grows
  -- A call that is no offer is made, or takes the place of another one.
  have made {next : Call} (other : ∀ offer, next ≠ .enqueue offer) (place : Nat) (offer : Offer)
      (found : (session.ask next).calls[place]? = some (.enqueue offer)) :
      offer.IsTracked (moments ++ [(session, move)]) place := by
    rcases found_of_ask found with old | ⟨-, new⟩
    · exact offers place offer old
    · exact absurd new.symm (other offer)
  have aside {number : Nat} {next : Call} (other : ∀ offer, next ≠ .enqueue offer) (place : Nat)
      (offer : Offer) (found : (session.calls.set number next)[place]? = some (.enqueue offer)) :
      offer.IsTracked (moments ++ [(session, move)]) place := by
    rcases found_of_set found with old | ⟨-, new⟩
    · exact offers place offer old
    · exact absurd new.symm (other offer)
  cases stepRule_of_step moved with
  | enqueue sent =>
    refine ⟨fun number offer found => ?_, carries⟩
    rcases found_of_ask found with old | ⟨rfl, new⟩
    · exact offers number offer old
    · cases new
      exact ⟨session, List.mem_append_right _ List.mem_cons_self, rfl⟩
  | flush seconds => exact ⟨made nofun, carries⟩
  | shutdown seconds => exact ⟨made nofun, carries⟩
  | offers found rule =>
    obtain ⟨way, has⟩ := tracked.offer found rule
    refine ⟨fun place other found => ?_, has⟩
    rcases found_of_set found with old | ⟨rfl, new⟩
    · exact offers place other old
    · cases new
      exact way
  | flushes by_call found rule => exact ⟨aside nofun, carries.call rule.call nofun⟩
  | shuts by_call found rule => exact ⟨aside nofun, carries.call rule.call nofun⟩
  | work worked =>
    refine ⟨offers, tracked.carries.turn grows (Worker.threadRule_of_work worked) ?_ ?_⟩
    · rintro mid part cleared allowed ⟨trail, passed, leads⟩
      refine ⟨trail, session, passed.append (List.Sublist.refl _), leads, cleared, ?_, ?_⟩
      · exact (Worker.isPartOf_of_allow allowed).headers
      · exact Worker.items_of_allow tracked.carries.limited allowed
    · rintro mid part holds ⟨trail, taken, passed, leads, sieves⟩ free
      exact ⟨trail, taken, session, passed.append (List.Sublist.refl _), leads, sieves, holds, free⟩
  | receive received =>
    obtain ⟨whole, sent, flight, submits⟩ := Worker.stage_of_receive received
    refine ⟨offers, tracked.carries.turn grows (Worker.threadRule_of_receive received) ?_ ?_⟩
    · intro mid part cleared
      cases submits.symm.trans cleared
    · intro mid part holds
      cases submits.symm.trans holds
  | tick clock => exact ⟨offers, carries.tick calm⟩
  | relimit limits => exact absurd calm not_false

/-- In a calm run all that is under way came to where it is by moments of the run. -/
theorem tracked_of_run {start : Session φ} {moves : List (Move ρ)}
    (opening : start.Tracked ([] : List (Entry φ ρ)))
    (ran : run submitter moves start = some session)
    (calm : ∀ moment move, (moment, move) ∈ timeline submitter moves start → move.IsCalm moment) :
    session.Tracked (timeline submitter moves start) := by
  refine run_induction (motive := fun moves session =>
    (∀ moment move, (moment, move) ∈ timeline submitter moves start → move.IsCalm moment) →
      session.Tracked (timeline submitter moves start)) (fun _ => opening) ?_ moves session ran calm
  intro moves session move after ran moved ih calm
  rw [timeline_snoc ran moved] at calm ⊢
  have tracked := ih fun moment move made => calm moment move (List.mem_append_left _ made)
  exact tracked.step moved (calm session move (List.mem_append_right _ List.mem_cons_self))

end Session

/-! ### Transports -/

namespace Transport

/-- A transport starts with nothing under way, and observes the limits. -/
theorem opened_tracked {settings : Settings} {given : Option Dsn} {clock : Clock}
    {transport : Transport} (opens : opened settings given clock = .ok transport) :
    transport.session.Tracked ([] : List (Session.Entry Flight Reply)) := by
  unfold opened at opens
  cases resolved : Destination.resolve settings given with
  | error fault =>
    rw [resolved] at opens
    cases opens
  | ok pair =>
    rw [resolved] at opens
    cases opens
    exact ⟨nofun, rfl, nofun, nofun, nofun⟩

/-- The part of an envelope was submitted within the limits: an envelope was sent, checked, taken and
submitted, in this order; what was submitted has its headers, and those of its items that were free
both when it was checked and when it was taken; and all of them were free when the submitter was
begun with it. -/
def CameWithin (submitter : Submitter Flight Reply) (moments : List (Session.Entry Flight Reply))
    (mid part : Envelope) : Prop :=
  ∃ (sent : Envelope) (number : Nat) (asked checked taken issued after : Session Flight),
    [(asked, Move.enqueue sent), (checked, .proceed number), (taken, .work),
      (issued, .work)].Sublist moments ∧
    asked.calls.length = number ∧
    checked.calls[number]? = some (.enqueue (.received sent)) ∧
    taken.worker.stage = .cleared mid ∧ issued.worker.stage = .filtered mid part ∧
    part.headers = sent.headers ∧
    part.items = sent.items.filter (fun item =>
      checked.worker.isFree item && taken.worker.isFree item) ∧
    (∀ item ∈ part.items, issued.worker.isFree item) ∧
    issued.step submitter .work = some after ∧
    issued.worker.Begins submitter mid part after.worker

/-- Whatever a transport submits comes from what was sent, and within the limits. -/
theorem submitted_within_limits (settings : Settings) (given : Option Dsn) (clock : Clock)
    (transport : Transport) (opens : opened settings given clock = .ok transport)
    (moves : List (Move Reply)) (session : Session Flight)
    (ran : Session.run transport.submitter moves transport.session = some session)
    (calm : ∀ moment move,
      (moment, move) ∈ Session.timeline transport.submitter moves transport.session →
        move.IsCalm moment)
    (mid part : Envelope) (told : .submitted mid part ∈ session.worker.journal) :
    CameWithin transport.submitter (Session.timeline transport.submitter moves transport.session)
      mid part := by
  have tracked := Session.tracked_of_run (opened_tracked opens) ran calm
  obtain ⟨trail, taken, issued, passed, leads, sieves, holds, free⟩ :=
    tracked.carries.told mid part (Worker.mem_submissions_iff.mpr told)
  have made : (issued, Move.work) ∈
      Session.timeline transport.submitter moves transport.session :=
    passed.subset (List.mem_append_right _ List.mem_cons_self)
  have passes : Session.passed? (issued, (.work : Move Reply)) = some (mid, part) := by
    show issued.worker.stage.ready? = _
    rw [holds]
    rfl
  obtain ⟨after, moved, begins⟩ := Session.begins_of_timeline ran made passes
  refine ⟨trail.sent, trail.number, trail.asked, trail.checked, taken, issued, after, passed,
    leads.asked, leads.checked, sieves.holds, holds, ?_, ?_, free, moved, begins⟩
  · rw [sieves.headers, leads.headers]
  · rw [sieves.items, leads.items, List.filter_filter]
    refine List.filter_congr fun item _ => ?_
    exact Bool.and_comm ..

/-- A data source name. -/
def plainDsn : Dsn where
  scheme := .https
  publicKey := "public"
  host := "ingest.example.com"
  projectId := "42"
  port := none
  path := []
  secretKey := []

/-- An envelope of an event and a transaction. -/
def eventAndTransaction (name : Text) : Envelope :=
  ⟨[(Envelope.idHeader, .text name)], [⟨"event", [], []⟩, ⟨"transaction", [], []⟩]⟩

/-- A response that limits events for a minute. -/
def noEvents : Response :=
  let ascii (t : Text) : Bytes := t.map fun c => byte c.val
  ⟨200, [(ascii "x-sentry-rate-limits", ascii "60:error")], [], none⟩

/-- Two envelopes are sent, and what the server answers to the first limits a part of the second. -/
def limitedBetween : List (Move Reply) :=
  [.enqueue (eventAndTransaction "first"), .proceed 0, .proceed 0, .proceed 0,
    .enqueue (eventAndTransaction "second"), .proceed 1, .proceed 1, .proceed 1,
    .work, .work, .work, .work, .tick ⟨1001, 0⟩, .receive (.response noEvents),
    .work, .work, .work, .work]

/-- The second envelope is submitted without its event. -/
theorem limited_between_within_limits :
    ∃ transport session mid part, opened {} (some plainDsn) ⟨1000, 0⟩ = .ok transport ∧
      Session.run transport.submitter limitedBetween transport.session = some session ∧
      .submitted mid part ∈ session.worker.journal ∧ part.items.length = 1 ∧
      CameWithin transport.submitter
        (Session.timeline transport.submitter limitedBetween transport.session) mid part := by
  obtain ⟨transport, opens, goes, calms⟩ : ∃ transport,
      opened {} (some plainDsn) ⟨1000, 0⟩ = .ok transport ∧
      (Session.run transport.submitter limitedBetween transport.session).map (fun session =>
        session.worker.submissions.map (·.2.items.length)) = some [2, 1] ∧
      (Session.timeline transport.submitter limitedBetween transport.session).all (fun entry =>
        entry.2.IsCalm entry.1) = true :=
    ⟨_, rfl, by decide +kernel, by decide +kernel⟩
  obtain ⟨session, ran, lengths⟩ := Option.map_eq_some_iff.mp goes
  have one : 1 ∈ session.worker.submissions.map (·.2.items.length) := by
    rw [lengths]
    decide
  obtain ⟨⟨mid, part⟩, told, single⟩ := List.mem_map.mp one
  have happened := Worker.mem_submissions_iff.mp told
  have calm (moment : Session Flight) (move : Move Reply)
      (made : (moment, move) ∈ Session.timeline transport.submitter limitedBetween
        transport.session) : move.IsCalm moment := by
    have held := List.all_eq_true.mp calms (moment, move) made
    exact of_decide_eq_true held
  exact ⟨transport, session, mid, part, opens, ran, happened, single,
    submitted_within_limits {} (some plainDsn) ⟨1000, 0⟩ transport opens limitedBetween session ran
      calm mid part happened⟩

end Transport

end Courier
