/-
**A whole delivery.**

A delivery asks the client once, unless the envelope cannot be written. The client raises a failure
or yields a response, and this decides what is counted: at most one thing, whatever is raised later.
How long it took is noted once, also where a failure is raised out of the delivery; and the limits
change only by what a response says, whether or not its body can be read.

* `Request.family_of_make`: to make a request is no transport that could fail.
* `Delivery.deliver`: a whole delivery, with what the world makes of its request.
* `Delivery.Ending`: what a delivery comes to, what it counts and what it makes of the limits.
* `Delivery.settle_leaves`: what came of a request is counted, and heeded if it is a response.
* `Delivery.delivers_once`: the law.
-/
import Courier.Proofs.Flaws
import Courier.Proofs.Precedence
namespace Courier

/-! ### Failures before a request is sent -/

namespace Failure

theorem family_ne_transport {failure : Failure}
    (other : named transportNames failure.name = false) : failure.family ≠ .transport := by
  unfold family
  rw [other]
  simp only [Bool.false_eq_true, if_false]
  split
  · nofun
  split
  · nofun
  split <;> nofun

theorem ofUnencodable_family (fault : Unencodable) : (ofUnencodable fault).family ≠ .transport := by
  refine family_ne_transport ?_
  show named transportNames "UnicodeEncodeError" = false
  decide

theorem ofHostName_family (fault : Idna.Fault) : (ofHostName fault).family ≠ .transport := by
  refine family_ne_transport ?_
  show named transportNames (hostNameKind fault) = false
  unfold hostNameKind
  split <;> decide

end Failure

/-- What is raised while a request is made is no failed transport: nothing was sent. -/
theorem Request.family_of_make {endpoint auth : Text} {body : Bytes} {failure : Failure}
    (unmade : Request.make endpoint auth body = .error failure) : failure.family ≠ .transport := by
  unfold Request.make at unmade
  split at unmade
  · rename_i fault refused
    cases unmade
    cases fault with
    | invalid reason =>
      rw [Failure.ofUrl_invalid]
      nofun
    | unencodable reason => exact Failure.ofUnencodable_family reason
  split at unmade
  · cases unmade
    exact Failure.ofUnencodable_family _
  dsimp only at unmade
  split at unmade
  · rename_i raised
    cases unmade
    unfold Url.hostFault? at raised
    split at raised
    · cases raised
      exact Failure.ofHostName_family _
    split at raised
    · cases raised
      exact Failure.ofUnencodable_family _
    · cases raised
  · cases unmade

/-! ### What a response makes of the limits -/

namespace Depot

/-- The limits are told by a signal as they would be without a depot. -/
theorem limits_apply (signal : Signal) (depot : Depot) :
    depot.limits.apply depot.clock.now depot.clock.wall signal =
      (depot.apply signal).map Depot.limits := by
  cases signal with
  | limits header => rfl
  | retryAfter value =>
    unfold apply readRetryAfter Limits.apply
    simp only
    cases depot.limits.afterRetryAfter depot.clock.now depot.clock.wall value with
    | error fault => rfl
    | ok limits => rfl
  | tooManyRequests => rfl
  | none => rfl

theorem heed_limits (status : Int) (headers : ResponseHeaders) (depot : Depot) :
    (depot.heed status headers).depot.limits =
      match depot.limits.apply depot.clock.now depot.clock.wall (.ofResponse status headers) with
      | .ok after => after
      | .error _ => depot.limits := by
  unfold heed
  rw [limits_apply]
  cases depot.apply (.ofResponse status headers) with
  | ok after => rfl
  | error fault => rfl

end Depot

namespace Delivery

/-! ### The client and the world -/

/-- What the world makes of a request: what comes of it, and what the clocks show then. -/
abbrev World := Request → Reply × Clock

/-- What the client makes of what comes of a request: it raises a failure, or yields a response. -/
def yielded (request : Request) : Reply → Except Failure Response
  | .failure failure => .error failure
  | .response response =>
    match Redirect.refusal? request response with
    | some failure => .error failure
    | none => .ok response

/-- The client is asked once to send a body. -/
def stream (destination : Destination) (world : World) (body : Bytes) : Except Failure Response := do
  let request ← Request.make destination.endpoint destination.auth body
  yielded request (world request).1

/-- A whole delivery: what it leaves, and the requests that are made. -/
def deliver (destination : Destination) (world : World) (envelope : Envelope) (depot : Depot) :
    Outcome × List Request :=
  match begin destination envelope depot with
  | .ended outcome => (outcome, [])
  | .underWay flight during =>
    let (reply, clock) := world flight.request
    (finish flight reply { during with clock }, [flight.request])

/-- What a delivery comes to. -/
inductive Ending
  /-- The envelope cannot be written. -/
  | unwritten
  /-- The client raises a failure instead of yielding a response. -/
  | failed (failure : Failure)
  /-- A response comes. -/
  | answered (response : Response)

/-- What a delivery comes to by what the client does. -/
def Ending.ofClient : Except Failure Response → Ending
  | .error failure => failed failure
  | .ok response => answered response

/-- What the delivery of an envelope comes to. -/
def ending (destination : Destination) (world : World) (envelope : Envelope) : Ending :=
  match envelope.toBytes with
  | .error _ => .unwritten
  | .ok body => .ofClient (stream destination world body)

namespace Ending

/-- How often an envelope is dropped for a reason. -/
def drops (reason : DropReason) : Ending → Nat
  | unwritten => if reason = .serialization then 1 else 0
  | failed failure => if failure.family = .transport ∧ reason = .transportError then 1 else 0
  | answered _ => 0

/-- How often a response of a status is counted. -/
def answers (status : Int) : Ending → Nat
  | answered response => if status = response.status then 1 else 0
  | _ => 0

/-- What becomes of the limits: a response says it by its status and its headers, and if that is
refused they stay as they are. -/
def limits (clock : Clock) (before : Limits Binary64) : Ending → Limits Binary64
  | answered response =>
    match before.apply clock.now clock.wall (.ofResponse response.status response.fields) with
    | .ok after => after
    | .error _ => before
  | _ => before

/-- What an ending counts, and what it makes of the limits. -/
structure Leaves (ending : Ending) (before after : Depot) : Prop where
  dropped : ∀ reason, after.ledger.dropped.count reason =
    before.ledger.dropped.count reason + ending.drops reason
  responses : ∀ status, after.ledger.responses.count status =
    before.ledger.responses.count status + ending.answers status
  /-- One thing is counted at most. -/
  booked : after.ledger.booked ≤ before.ledger.booked + 1
  durations : after.ledger.durations = before.ledger.durations
  limits : after.limits = ending.limits before.clock before.limits

end Ending

variable {destination : Destination} {world : World} {envelope : Envelope} {depot : Depot}

theorem dropUnwritten_leaves (error : Envelope.WireError) (id : Text) (depot : Depot) :
    Ending.unwritten.Leaves depot (dropUnwritten error id depot) where
  dropped _ := Tally.count_add ..
  responses _ := rfl
  booked := Nat.le_of_eq (Ledger.adds_drop .serialization depot.ledger).booked
  durations := rfl
  limits := rfl

/-- A failure that is no failed transport counts nothing. -/
theorem raise_leaves {failure : Failure} (other : failure.family ≠ .transport) (depot : Depot) :
    (Ending.failed failure).Leaves depot (Outcome.raise failure depot).depot where
  dropped reason := by
    unfold Ending.drops
    simp only [other, false_and, if_false]
    rfl
  responses _ := rfl
  booked := Nat.le_succ _
  durations := rfl
  limits := rfl

theorem fail_leaves (named : envelope.IsNamed) (failure : Failure) (depot : Depot) :
    (Ending.failed failure).Leaves depot (fail envelope failure depot).depot := by
  obtain ⟨id, text⟩ := named
  unfold fail
  split
  · rename_i transport
    unfold Depot.markOf
    rw [Depot.naming_of_named text]
    refine ⟨fun reason => ?_, fun status => rfl, ?_, rfl, rfl⟩
    · unfold Ending.drops
      simp only [transport, true_and]
      exact Tally.count_add ..
    · exact Nat.le_of_eq (Ledger.adds_drop .transportError depot.ledger).booked
  · rename_i other
    exact raise_leaves other depot

/-- A response is counted and heeded, whatever is raised while it is taken in. -/
theorem takeIn_leaves (envelope : Envelope) (response : Response) (depot : Depot) :
    (Ending.answered response).Leaves depot (takeIn envelope response depot).depot := by
  obtain ⟨limits, ledger, -⟩ := takeIn_heeds envelope response depot
  have books : ∃ updates, (takeIn envelope response depot).depot.ledger =
      { depot.ledger.respond response.status with updates } := by
    rw [ledger]
    rcases (depot.count (Ledger.respond response.status)).heed_cases response.status
      response.fields with refused | ⟨after, applied, heeded⟩
    · rw [refused]
      exact ⟨_, rfl⟩
    · rw [heeded]
      exact ⟨_, Depot.apply_ledger applied⟩
  obtain ⟨updates, books⟩ := books
  refine ⟨fun reason => ?_, fun status => ?_, ?_, ?_, limits.trans (Depot.heed_limits ..)⟩
  · rw [books]
    rfl
  · rw [books]
    exact Tally.count_add ..
  · exact Nat.le_of_eq (takeIn_adds envelope response depot).booked
  · rw [books]
    rfl

/-- What came of a request is counted, and heeded if it is a response. -/
theorem settle_leaves (flight : Flight) (named : flight.envelope.IsNamed) (reply : Reply)
    (depot : Depot) :
    (Ending.ofClient (yielded flight.request reply)).Leaves depot
      (settle flight reply depot).depot := by
  cases reply with
  | failure failure => exact fail_leaves named failure depot
  | response response =>
    unfold settle yielded
    simp only
    cases Redirect.refusal? flight.request response with
    | some failure => exact fail_leaves named failure depot
    | none => exact takeIn_leaves flight.envelope response depot

/-! ### The delivery -/

section

variable (destination : Destination) (world : World) (depot : Depot)

/-- An envelope that cannot be written is dropped. -/
theorem deliver_of_unwritten {id : Text} (text : envelope.id = .ok id) {error : Envelope.WireError}
    (unwritten : envelope.toBytes = .error error) :
    deliver destination world envelope depot = (.done (dropUnwritten error id depot), []) ∧
      ending destination world envelope = .unwritten := by
  obtain ⟨cause, rfl⟩ := Envelope.unserializable_of_error text unwritten
  unfold deliver ending
  rw [begin_unserializable unwritten, unwritten]
  exact ⟨rfl, rfl⟩

/-- Where no request can be made the client raises this. -/
theorem deliver_of_unmade {body : Bytes} (written : envelope.toBytes = .ok body) {failure : Failure}
    (unmade : Request.make destination.endpoint destination.auth body = .error failure) :
    deliver destination world envelope depot =
        ((Outcome.raise failure depot).afterwards (observe depot.clock.now), []) ∧
      ending destination world envelope = .failed failure := by
  unfold deliver begin ending stream
  rw [written]
  simp only
  rw [unmade]
  exact ⟨rfl, rfl⟩

/-- The one request is sent, and what comes of it is taken in. -/
theorem deliver_of_made {body : Bytes} (written : envelope.toBytes = .ok body) {request : Request}
    (made : Request.make destination.endpoint destination.auth body = .ok request) :
    deliver destination world envelope depot =
        ((settle ⟨envelope, depot.clock.now, request⟩ (world request).1
          { depot with clock := (world request).2 }).afterwards (observe depot.clock.now),
          [request]) ∧
      ending destination world envelope = Ending.ofClient (yielded request (world request).1) := by
  unfold deliver begin ending stream
  rw [written]
  simp only
  rw [made]
  exact ⟨rfl, rfl⟩

end

/-- A whole delivery of an envelope, and the requests that it makes. -/
structure DeliversOnce (destination : Destination) (world : World) (envelope : Envelope)
    (depot : Depot) (outcome : Outcome) (requests : List Request) : Prop where
  /-- Where the envelope cannot be written no request is made, and no duration is noted. -/
  unwritten : ∀ error, envelope.toBytes = .error error →
    requests = [] ∧ outcome.depot.ledger.durations = depot.ledger.durations
  /-- Otherwise at most one request is made, with what the envelope is written as, and one duration
  is noted, whatever is raised. -/
  written : ∀ body, envelope.toBytes = .ok body →
    requests.length ≤ 1 ∧ (∀ request ∈ requests, request.body = body) ∧
      outcome.depot.ledger.durations = depot.ledger.durations ++
        [outcome.depot.clock.now - depot.clock.now]
  /-- Drops are counted by what the delivery comes to. -/
  dropped : ∀ reason, outcome.depot.ledger.dropped.count reason =
    depot.ledger.dropped.count reason + (ending destination world envelope).drops reason
  /-- So are responses. -/
  responses : ∀ status, outcome.depot.ledger.responses.count status =
    depot.ledger.responses.count status + (ending destination world envelope).answers status
  /-- One drop or one response is counted at most. -/
  booked : outcome.depot.ledger.booked ≤ depot.ledger.booked + 1
  /-- Without a response the limits stay as they are. -/
  silent : (∀ response, ending destination world envelope ≠ .answered response) →
    outcome.depot.limits = depot.limits
  /-- With a response they are what it makes of the earlier ones when it comes. -/
  heeded : ∀ response, ending destination world envelope = .answered response →
    ∃ request, requests = [request] ∧ outcome.depot.limits =
      (Ending.answered response).limits (world request).2 depot.limits

/-- What a delivery is where the envelope can be written: how long it took is noted last. -/
theorem DeliversOnce.of_written {body : Bytes} {settled : Outcome} {requests : List Request}
    (clock : Clock) (written : envelope.toBytes = .ok body)
    (leaves : (ending destination world envelope).Leaves { depot with clock } settled.depot)
    (few : requests.length ≤ 1) (carried : ∀ request ∈ requests, request.body = body)
    (asked : ∀ response, ending destination world envelope = .answered response →
      ∃ request, requests = [request] ∧ (world request).2 = clock) :
    DeliversOnce destination world envelope depot
      (settled.afterwards (observe depot.clock.now)) requests where
  unwritten error refused := by
    rw [written] at refused
    cases refused
  written other same := by
    rw [written] at same
    cases same
    refine ⟨few, carried, ?_⟩
    exact congrArg (fun durations => durations ++ [settled.depot.clock.now - depot.clock.now])
      leaves.durations
  dropped := leaves.dropped
  responses := leaves.responses
  booked := leaves.booked
  silent quiet := by
    refine leaves.limits.trans ?_
    cases ends : ending destination world envelope with
    | answered response => exact absurd ends (quiet response)
    | _ => rfl
  heeded response ends := by
    obtain ⟨request, only, shown⟩ := asked response ends
    refine ⟨request, only, ?_⟩
    rw [shown]
    have limits := leaves.limits
    rw [ends] at limits
    exact limits

/-- **A delivery counts one thing**, asks the client once, and heeds what it yields: whatever the
server does, at whatever point something fails, and whatever is raised. -/
theorem delivers_once (destination : Destination) (world : World) {envelope : Envelope}
    (named : envelope.IsNamed) (depot : Depot) :
    DeliversOnce destination world envelope depot (deliver destination world envelope depot).1
      (deliver destination world envelope depot).2 := by
  cases written : envelope.toBytes with
  | error error =>
    obtain ⟨id, text⟩ := named
    obtain ⟨delivered, ends⟩ := deliver_of_unwritten destination world depot text written
    have leaves := dropUnwritten_leaves error id depot
    rw [← ends] at leaves
    rw [delivered]
    refine ⟨fun _ _ => ⟨rfl, rfl⟩, fun body same => ?_, leaves.dropped, leaves.responses,
      leaves.booked, fun _ => rfl, fun response answered => ?_⟩
    · cases written.symm.trans same
    · cases ends.symm.trans answered
  | ok body =>
    cases made : Request.make destination.endpoint destination.auth body with
    | error failure =>
      obtain ⟨delivered, ends⟩ := deliver_of_unmade destination world depot written made
      have leaves := raise_leaves (Request.family_of_make made) depot
      rw [← ends] at leaves
      rw [delivered]
      refine .of_written depot.clock written leaves (Nat.zero_le 1) nofun ?_
      intro response answered
      cases ends.symm.trans answered
    | ok request =>
      obtain ⟨delivered, ends⟩ := deliver_of_made destination world depot written made
      have leaves := settle_leaves ⟨envelope, depot.clock.now, request⟩ named (world request).1
        { depot with clock := (world request).2 }
      rw [← ends] at leaves
      rw [delivered]
      refine .of_written (world request).2 written leaves (Nat.le_refl 1) ?_
        fun response _ => ⟨request, rfl, rfl⟩
      intro other member
      rw [List.mem_singleton.mp member]
      exact Request.make_body made

/-- Everything that is needed to reach the endpoint of the plain data source name. -/
def plainly : Destination :=
  .ofDsn {} Transport.plainDsn

/-- A server that limits events for a minute, and breaks off within the body. -/
def breakingOff : World :=
  fun _ => (.response { Transport.noEvents with broken := some ⟨"ReadError", none⟩ }, ⟨1001, 0⟩)

/-- The response is counted and events are limited, though its body cannot be read. -/
theorem broken_body_heeded :
    (Session.eventNamed (.text "first")).IsNamed ∧
      ∃ outcome requests, (outcome, requests) = deliver plainly breakingOff
          (Session.eventNamed (.text "first")) (.opened ⟨1000, 0⟩) ∧
        DeliversOnce plainly breakingOff (Session.eventNamed (.text "first")) (.opened ⟨1000, 0⟩)
          outcome requests ∧
        requests.length = 1 ∧ outcome.depot.ledger.responses.count 200 = 1 ∧
        outcome.depot.ledger.durations = [1] ∧
        outcome.depot.limits.isLimited outcome.depot.clock.now .error = true := by
  have named : (Session.eventNamed (.text "first")).IsNamed := ⟨"first", rfl⟩
  refine ⟨named, _, _, Prod.mk.eta, delivers_once plainly breakingOff named (.opened ⟨1000, 0⟩), ?_⟩
  decide +kernel

end Delivery

end Courier
