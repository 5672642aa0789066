/-
**Envelopes without a name, over HTTP.**

What JSON can carry has a text. An envelope whose name has no text therefore cannot be written
either, and since the report of that needs the name again, its delivery raises a failure. So over
HTTP an envelope without a name always ends the thread that takes it, and is the last one that is
dealt with.

* `Value.shown_of_write`: what can be written as JSON has a text.
* `Delivery.begin_unnamed`: the delivery of an envelope without a name raises a failure.
* `Worker.ThreadRule.unnamed_ends`: a thread that holds such an envelope ends, or comes a step nearer
  to it.
* `Session.run_ends_at_unnamed`: what becomes of such an envelope, and of those behind it, in a run.
-/
import Courier.Proofs.Accounting
import Courier.Proofs.Survival
namespace Courier

namespace Value

variable {layout : Json.Layout}

/-! ### Texts of what can be written -/

theorem shown_of_writeInt {i : Int} {written : Text} (wrote : Json.writeInt i = .ok written) :
    ∃ text, (int i).shown = .ok text := by
  unfold Json.writeInt at wrote
  unfold shown
  cases digits : writeInt i with
  | ok t => exact ⟨t, rfl⟩
  | error fault =>
    rw [digits] at wrote
    cases wrote

theorem shown_of_keyText {key : Value} {name : Text} (wrote : Json.keyText key = .ok name) :
    ∃ text, key.shown = .ok text := by
  cases key with
  | null => exact ⟨_, rfl⟩
  | bool b => exact ⟨_, rfl⟩
  | float x => exact ⟨_, rfl⟩
  | text t => exact ⟨_, rfl⟩
  | int i => exact shown_of_writeInt wrote
  | bytes b => cases wrote
  | list elements => cases wrote
  | tuple elements => cases wrote
  | set elements => cases wrote
  | dict entries => cases wrote
  | object => cases wrote
  | cycle => cases wrote

mutual

/-- What can be written as JSON has a text. -/
theorem shown_of_write (value : Value) {line : Text} (wrote : Json.write layout value = .ok line) :
    ∃ text, value.shown = .ok text := by
  cases value with
  | null => exact ⟨_, rfl⟩
  | bool b => exact ⟨_, rfl⟩
  | float x => exact ⟨_, rfl⟩
  | text t => exact ⟨_, rfl⟩
  | int i =>
    unfold Json.write at wrote
    exact shown_of_writeInt wrote
  | list elements =>
    unfold Json.write at wrote
    obtain ⟨parts, each, -⟩ := bind_eq_ok wrote
    obtain ⟨texts, shows⟩ := shownEach_of_writeEach elements each
    unfold shown
    rw [shows]
    exact ⟨_, rfl⟩
  | tuple elements =>
    unfold Json.write at wrote
    obtain ⟨parts, each, -⟩ := bind_eq_ok wrote
    obtain ⟨texts, shows⟩ := shownEach_of_writeEach elements each
    unfold shown
    rw [shows]
    exact ⟨_, rfl⟩
  | dict entries =>
    unfold Json.write at wrote
    obtain ⟨parts, each, -⟩ := bind_eq_ok wrote
    obtain ⟨texts, shows⟩ := shownEntries_of_writeEntries entries each
    unfold shown
    rw [shows]
    exact ⟨_, rfl⟩
  | bytes b => cases wrote
  | set elements => cases wrote
  | object => cases wrote
  | cycle => cases wrote

theorem shownEach_of_writeEach (values : List Value) {parts : List Text}
    (wrote : Json.writeEach layout values = .ok parts) :
    ∃ texts, shownEach values = .ok texts := by
  cases values with
  | nil => exact ⟨_, rfl⟩
  | cons value rest =>
    unfold Json.writeEach at wrote
    obtain ⟨line, first, wrote⟩ := bind_eq_ok wrote
    obtain ⟨lines, others, -⟩ := bind_eq_ok wrote
    obtain ⟨text, shows⟩ := shown_of_write value first
    obtain ⟨texts, show_rest⟩ := shownEach_of_writeEach rest others
    unfold shownEach
    rw [shows, show_rest]
    exact ⟨_, rfl⟩

theorem shownEntries_of_writeEntries (entries : List (Value × Value)) {parts : List Text}
    (wrote : Json.writeEntries layout entries = .ok parts) :
    ∃ texts, shownEntries entries = .ok texts := by
  cases entries with
  | nil => exact ⟨_, rfl⟩
  | cons entry rest =>
    obtain ⟨key, value⟩ := entry
    unfold Json.writeEntries at wrote
    obtain ⟨name, first, wrote⟩ := bind_eq_ok wrote
    obtain ⟨line, second, wrote⟩ := bind_eq_ok wrote
    obtain ⟨lines, others, -⟩ := bind_eq_ok wrote
    obtain ⟨left, shows_key⟩ := shown_of_keyText first
    obtain ⟨right, shows_value⟩ := shown_of_write value second
    obtain ⟨texts, shows_rest⟩ := shownEntries_of_writeEntries rest others
    unfold shownEntries
    rw [shows_key, shows_value, shows_rest]
    exact ⟨_, rfl⟩

end

/-- Each value of a dictionary with a text has a text. -/
theorem shown_of_mem {entries : List (Value × Value)} {texts : List Text}
    (shows : shownEntries entries = .ok texts) {entry : Value × Value} (member : entry ∈ entries) :
    ∃ text, entry.2.shown = .ok text := by
  induction entries generalizing texts with
  | nil => cases member
  | cons first rest ih =>
    obtain ⟨key, value⟩ := first
    unfold shownEntries at shows
    obtain ⟨left, -, shows⟩ := bind_eq_ok shows
    obtain ⟨right, shows_value, shows⟩ := bind_eq_ok shows
    obtain ⟨others, shows_rest, -⟩ := bind_eq_ok shows
    rcases List.mem_cons.mp member with now | later
    · rw [now]
      exact ⟨right, shows_value⟩
    · exact ih shows_rest later

end Value

/-! ### Deliveries -/

namespace Envelope

/-- Headers that can be written have a name among them, or none is needed. -/
theorem isNamed_of_lineBytes {envelope : Envelope} {bytes : Bytes}
    (wrote : lineBytes envelope.headers = .ok bytes) : envelope.IsNamed := by
  have written : ∃ line, Json.write Json.compact (.dict envelope.headers) = .ok line := by
    unfold lineBytes at wrote
    cases line : Json.write Json.compact (.dict envelope.headers) with
    | error fault =>
      rw [line] at wrote
      cases wrote
    | ok text => exact ⟨text, rfl⟩
  obtain ⟨line, written⟩ := written
  unfold Json.write at written
  obtain ⟨parts, each, -⟩ := bind_eq_ok written
  obtain ⟨texts, shows⟩ := Value.shownEntries_of_writeEntries envelope.headers each
  unfold IsNamed id
  cases found : Value.get? idHeader envelope.headers with
  | none => exact ⟨_, rfl⟩
  | some value =>
    obtain ⟨entry, first, same⟩ := Option.map_eq_some_iff.mp found
    obtain ⟨text, shows_value⟩ := Value.shown_of_mem shows (List.mem_of_find?_eq_some first)
    rw [same] at shows_value
    cases value with
    | text t => exact ⟨t, rfl⟩
    | _ => exact ⟨text, shows_value⟩

theorem toBytes_of_unnamed {envelope : Envelope} (unnamed : ¬ envelope.IsNamed) :
    ∃ fault, envelope.toBytes = .error (.unnameable fault) := by
  unfold toBytes
  cases lines : envelope.linesBytes with
  | ok bytes =>
    obtain ⟨head, wrote, -⟩ := bind_eq_ok lines
    exact absurd (isNamed_of_lineBytes wrote) unnamed
  | error cause =>
    cases text : envelope.id with
    | ok id => exact absurd ⟨id, text⟩ unnamed
    | error fault => exact ⟨fault, rfl⟩

end Envelope

/-- The delivery of an envelope without a name raises a failure. -/
theorem Delivery.begin_unnamed (destination : Destination) {envelope : Envelope}
    (unnamed : ¬ envelope.IsNamed) (depot : Depot) :
    ∃ failure, begin destination envelope depot = .ended (.raise failure depot) := by
  obtain ⟨fault, unwritten⟩ := Envelope.toBytes_of_unnamed unnamed
  unfold begin
  rw [unwritten]
  exact ⟨_, rfl⟩

/-! ### Threads -/

/-- An envelope and what the limits leave of it have the same name. -/
theorem Envelope.IsPartOf.isNamed_iff {part whole : Envelope} (left : part.IsPartOf whole) :
    part.IsNamed ↔ whole.IsNamed := by
  unfold IsNamed id
  rw [left.headers]

/-- The thread is at an envelope without a name that it has not settled yet. -/
def Stage.HoldsUnnamed {φ : Type} (stage : Stage φ) : Prop :=
  ∃ envelope ∈ stage.inHand, ¬ envelope.IsNamed

namespace Worker

variable {destination : Destination} {worker after : Worker Flight}

/-- A thread that is at an envelope without a name ends, or comes a step nearer to it. -/
theorem ThreadRule.unnamed_ends (rule : worker.ThreadRule (Delivery.submitter destination) after)
    (held : worker.HoldsPart) (unnamed : worker.stage.HoldsUnnamed) :
    after.stage = .ended ∨
      (after.stage.HoldsUnnamed ∧ after.stage.ahead < worker.stage.ahead) := by
  obtain ⟨envelope, member, unnamed⟩ := unnamed
  -- The delivery of what is left of the envelope raises a failure, since that has no name either.
  have raises {whole part : Envelope} (holds : worker.stage = .filtered whole part)
      (unnamed : ¬ whole.IsNamed) : ¬ part.IsNamed ∧ ∃ failure,
        Delivery.begin destination part worker.depot = .ended (.raise failure worker.depot) := by
    have partly : ¬ part.IsNamed := by
      rw [(held whole part holds).isNamed_iff]
      exact unnamed
    exact ⟨partly, Delivery.begin_unnamed destination partly worker.depot⟩
  cases rule with
  | take holds queue | starve holds empty | retry holds live | reach holds | land reply holds
  | leave holds stopped =>
    rw [holds] at member
    cases member
  | discard holds stopped =>
    rw [holds] at member
    cases List.mem_singleton.mp member
    exact .inl (dropTaken_stage_of_unnamed unnamed _ _ _)
  | clear holds live =>
    rw [holds] at member ⊢
    exact .inr ⟨⟨envelope, member, unnamed⟩, Nat.lt_succ_self 2⟩
  | skip holds limited =>
    rw [holds] at member
    cases List.mem_singleton.mp member
    exact .inl (dropTaken_stage_of_unnamed unnamed _ _ _)
  | sieve holds allowed =>
    rw [holds] at member ⊢
    exact .inr ⟨⟨envelope, member, unnamed⟩, Nat.lt_succ_self 1⟩
  | @fulfil whole part outcome holds begun =>
    rw [holds] at member
    cases List.mem_singleton.mp member
    obtain ⟨partly, failure, fails⟩ := raises holds unnamed
    have same : outcome = .raise failure worker.depot :=
      Begun.ended.inj (begun.symm.trans fails)
    refine .inl ((land_ended_iff part outcome _).mpr ?_)
    rw [same]
    exact Happening.isFatal_landed.mpr ⟨failure, rfl, .inr partly⟩
  | depart holds begun =>
    rw [holds] at member
    cases List.mem_singleton.mp member
    obtain ⟨-, failure, fails⟩ := raises holds unnamed
    cases begun.symm.trans fails

/-- An envelope without a name is the last one that is settled, and the thread has ended then. -/
structure StopsAtUnnamed (worker : Worker Flight) : Prop where
  held : worker.HoldsPart
  before : ∀ entry ∈ worker.settled.dropLast, entry.1.IsNamed
  alive : worker.stage ≠ .ended → ∀ entry ∈ worker.settled, entry.1.IsNamed

theorem StopsAtUnnamed.turn (stops : worker.StopsAtUnnamed)
    (rule : worker.ThreadRule (Delivery.submitter destination) after) : after.StopsAtUnnamed := by
  have held : after.HoldsPart := (Change.turn rule).holdsPart stops.held
  -- A thread that takes a step has not ended, so all it has settled so far have names.
  have named := stops.alive fun ended => not_threadRule_of_ended ended rule
  rcases rule.settled_cases with same | ⟨entry, told, hand, free, -⟩
  · refine ⟨held, ?_, fun _ => ?_⟩
    · rw [same]
      exact stops.before
    · rw [same]
      exact named
  · refine ⟨held, ?_, fun goes other member => ?_⟩
    · rw [told, List.dropLast_concat]
      exact named
    rw [told] at member
    rcases List.mem_append.mp member with old | new
    · exact named other old
    · rw [List.mem_singleton.mp new]
      by_contra unnamed
      have holds : worker.stage.HoldsUnnamed := by
        refine ⟨entry.1, ?_, unnamed⟩
        rw [hand]
        exact List.mem_cons_self
      rcases rule.unnamed_ends stops.held holds with ended | ⟨⟨envelope, inside, -⟩, -⟩
      · exact goes ended
      · rw [free] at inside
        cases inside

theorem StopsAtUnnamed.change (stops : worker.StopsAtUnnamed)
    (change : worker.Change (Delivery.submitter destination) after) : after.StopsAtUnnamed := by
  have held := change.holdsPart stops.held
  cases change with
  | call rule =>
    refine ⟨held, ?_, ?_⟩
    · rw [rule.settled]
      exact stops.before
    · rw [rule.settled, rule.stage]
      exact stops.alive
  | turn rule => exact stops.turn rule
  | tend depot => exact ⟨held, stops.before, stops.alive⟩

end Worker

namespace Session

variable {destination : Destination} {session : Session Flight} {moves : List (Move Reply)}

/-- How a run over HTTP deals with envelopes without a name. -/
structure EndsAtUnnamed (destination : Destination) (session : Session Flight) : Prop where
  /-- Once one is settled the thread has ended, -/
  ends : ∀ entry ∈ session.worker.settled, ¬ entry.1.IsNamed → session.worker.stage = .ended
  /-- and so it is the last one that is. -/
  last : ∀ entry ∈ session.worker.settled.dropLast, entry.1.IsNamed
  /-- A thread that is at one can take a step, and ends by it or comes nearer to its end. -/
  nears : session.worker.stage.HoldsUnnamed → ∃ after,
    session.worker.work (Delivery.submitter destination) = some after ∧
      (after.stage = .ended ∨
        (after.stage.HoldsUnnamed ∧ after.stage.ahead < session.worker.stage.ahead))

/-- **Over HTTP the thread stops at the first envelope without a name**: it ends once it has taken it,
and settles nothing behind it. -/
theorem run_ends_at_unnamed (capacity : Int) (limited : Bool) (depot : Depot)
    (ran : run (Delivery.submitter destination) moves
      (opened (.started capacity limited depot)) = some session) :
    EndsAtUnnamed destination session := by
  have opening : (Worker.started capacity limited depot : Worker Flight).StopsAtUnnamed :=
    ⟨nofun, nofun, fun _ => nofun⟩
  have stops : session.worker.StopsAtUnnamed :=
    kept_of_run (fun worker after change stops => stops.change change) opening ran
  refine ⟨fun entry member unnamed => ?_, stops.before, fun unnamed => ?_⟩
  · by_contra goes
    exact unnamed (stops.alive goes entry member)
  · obtain ⟨envelope, member, -⟩ := id unnamed
    have alive : session.worker.isAlive := by
      refine Worker.isAlive_of_stage rfl fun ended => ?_
      rw [ended] at member
      cases member
    rcases Worker.work_of_isAlive (Delivery.submitter destination) alive with
      ⟨whole, part, flight, holds⟩ | ⟨after, worked⟩
    · rw [holds] at member
      cases member
    · exact ⟨after, worked, (Worker.threadRule_of_work worked).unnamed_ends stops.held unnamed⟩

end Session

end Courier
