/-
**The strongest signal counts.**

Of what a response says about limits only the strongest part counts: the header that limits
categories, then the plain back-off header, then the status that refuses. Two responses that agree
on it leave the same behind, whatever else they say. Either a response is refused and leaves
everything as it was, or it is counted once, under its own source; and only the header that limits
categories touches any category but the wildcard.

* `Signal.ofResponse_of_carries`, `Signal.ofResponse_of_retryAfter`, `Signal.ofResponse_of_lacks`:
  the signal of a response, by what its headers carry.
* `Depot.heed`: what a response leaves behind.
* `Depot.strongest_signal_counts`: the law.
-/
import Courier.Proofs.BackOff
import Courier.Proofs.Conservation
import Courier.Proofs.HeaderNames
namespace Courier

/-! ### The signal of a response -/

namespace ResponseHeaders

variable {headers : ResponseHeaders} {name value : Text}

/-- No two names differ in letter case only. -/
def Apart (headers : ResponseHeaders) : Prop :=
  (headers.map fun header => header.1.toLower).Nodup

theorem Apart.value?_eq_some (apart : headers.Apart) (carries : headers.Carries name value) :
    headers.value? name = some value := by
  refine ResponseHeaders.value?_eq_some carries fun header listed named => ?_
  obtain ⟨other, member, called, rfl⟩ := carries
  rw [List.inj_on_of_nodup_map apart listed member (named.trans called.symm)]

theorem lacks_or_carries (headers : ResponseHeaders) (name : Text) :
    headers.Lacks name ∨ ∃ value, headers.Carries name value := by
  by_cases present : ∃ header ∈ headers, header.1.toLower = name
  · obtain ⟨header, listed, named⟩ := present
    exact .inr ⟨header.2, header, listed, named, rfl⟩
  · exact .inl fun header listed named => present ⟨header, listed, named⟩

end ResponseHeaders

namespace Signal

variable {status : Int} {headers : ResponseHeaders} {value : Text}

theorem ofResponse_of_carries (apart : headers.Apart)
    (carries : headers.Carries limitsHeader value) :
    ofResponse status headers = limits value :=
  ofResponse_limits (apart.value?_eq_some carries)

theorem ofResponse_of_retryAfter (apart : headers.Apart) (lacks : headers.Lacks limitsHeader)
    (carries : headers.Carries retryAfterHeader value) :
    ofResponse status headers = retryAfter value := by
  unfold ofResponse
  rw [ResponseHeaders.value?_eq_none_iff.mpr lacks, apart.value?_eq_some carries]

theorem ofResponse_of_lacks (lacks : headers.Lacks limitsHeader)
    (bare : headers.Lacks retryAfterHeader) :
    ofResponse status headers = if status = refusedStatus then tooManyRequests else none := by
  unfold ofResponse
  rw [ResponseHeaders.value?_eq_none_iff.mpr lacks, ResponseHeaders.value?_eq_none_iff.mpr bare]

/-- The source under which a response is counted, told by its headers and its status. -/
inductive Source (status : Int) (headers : ResponseHeaders) : String → Prop
  /-- The header that limits categories. -/
  | limits {value : Text} (carries : headers.Carries limitsHeader value) :
    Source status headers "sentry_header"
  /-- The plain back-off header, without the other one. -/
  | retryAfter {value : Text} (lacks : headers.Lacks limitsHeader)
    (carries : headers.Carries retryAfterHeader value) : Source status headers "retry_after"
  /-- The status that refuses, without either header. -/
  | refusal (lacks : headers.Lacks limitsHeader) (bare : headers.Lacks retryAfterHeader)
    (refused : status = refusedStatus) : Source status headers "too_many_requests"

/-- A response has the source that its signal is named for, and none if it has no signal. -/
theorem source_iff (apart : headers.Apart) (source : String) :
    Source status headers source ↔
      ofResponse status headers ≠ none ∧ source = (ofResponse status headers).name := by
  constructor
  · intro is
    cases is with
    | limits carries =>
      rw [ofResponse_of_carries apart carries]
      exact ⟨nofun, rfl⟩
    | retryAfter lacks carries =>
      rw [ofResponse_of_retryAfter apart lacks carries]
      exact ⟨nofun, rfl⟩
    | refusal lacks bare refused =>
      rw [ofResponse_of_lacks lacks bare, if_pos refused]
      exact ⟨nofun, rfl⟩
  · rintro ⟨some, rfl⟩
    rcases headers.lacks_or_carries limitsHeader with lacks | ⟨value, carries⟩
    · rcases headers.lacks_or_carries retryAfterHeader with bare | ⟨value, carries⟩
      · rw [ofResponse_of_lacks lacks bare] at some ⊢
        by_cases refused : status = refusedStatus
        · rw [if_pos refused]
          exact .refusal lacks bare refused
        · exact absurd (if_neg refused) some
      · rw [ofResponse_of_retryAfter apart lacks carries]
        exact .retryAfter lacks carries
    · rw [ofResponse_of_carries apart carries]
      exact .limits carries

end Signal

/-! ### What a response leaves behind -/

namespace Depot

variable {depot after : Depot} {signal : Signal}

/-- What a response leaves behind: everything as it was, and a failure, if its signal is refused. -/
def heed (status : Int) (headers : ResponseHeaders) (depot : Depot) : Outcome :=
  match depot.apply (.ofResponse status headers) with
  | .ok after => .done after
  | .error _ => .raise .tooLarge depot

/-- A signal changes no count but that of its source. -/
theorem apply_ledger (applied : depot.apply signal = .ok after) :
    after.ledger = { depot.ledger with updates := after.ledger.updates } := by
  cases signal with
  | limits header =>
    cases applied
    rfl
  | retryAfter value =>
    unfold apply readRetryAfter at applied
    simp only at applied
    cases reads : depot.limits.afterRetryAfter depot.clock.now depot.clock.wall value with
    | error fault =>
      rw [reads] at applied
      cases applied
    | ok limits =>
      rw [reads] at applied
      cases applied
      rfl
  | tooManyRequests =>
    cases applied
    rfl
  | none =>
    cases applied
    rfl

/-- A signal other than the header that limits categories touches the wildcard alone. -/
theorem apply_confined (applied : depot.apply signal = .ok after) {category : Category}
    (real : category ≠ .any)
    (changed : after.limits.reset? category ≠ depot.limits.reset? category) :
    ∃ header, signal = .limits header := by
  have same := apply_limits applied
  cases signal with
  | limits header => exact ⟨header, rfl⟩
  | retryAfter value =>
    unfold Limits.apply Limits.afterRetryAfter at same
    simp only at same
    cases reads : RetryAfter.read value with
    | error fault =>
      rw [reads] at same
      cases same
    | ok reading =>
      rw [reads] at same
      rw [← Except.ok.inj same, Limits.reset?_backOff, if_neg real] at changed
      exact absurd rfl changed
  | tooManyRequests =>
    have wildcard := Limits.reset?_backOff depot.clock.now RetryAfter.fallback depot.limits category
    rw [if_neg real] at wildcard
    rw [← Except.ok.inj same] at changed
    exact absurd wildcard changed
  | none =>
    rw [← Except.ok.inj same] at changed
    exact absurd rfl changed

variable {status : Int} {headers : ResponseHeaders}

/-- What is left behind depends on the signal alone. -/
theorem heed_congr {other : Int} {others : ResponseHeaders}
    (same : Signal.ofResponse status headers = Signal.ofResponse other others) (depot : Depot) :
    depot.heed status headers = depot.heed other others := by
  unfold heed
  rw [same]

/-- A response either raises and leaves everything as it was, or its signal is applied. -/
theorem heed_cases (status : Int) (headers : ResponseHeaders) (depot : Depot) :
    depot.heed status headers = .raise .tooLarge depot ∨
      ∃ after, depot.apply (.ofResponse status headers) = .ok after ∧
        depot.heed status headers = .done after := by
  unfold heed
  cases depot.apply (.ofResponse status headers) with
  | error fault => exact .inl rfl
  | ok after => exact .inr ⟨after, rfl, rfl⟩

theorem isBackedOff_announce (depot : Depot) (delay : Binary64) (name : String) :
    depot.IsBackedOff delay
      (announce name { depot with limits := depot.limits.backOff depot.clock.now delay }) :=
  fun category => Limits.reset?_backOff _ _ _ category

/-- Without any header the status alone counts: it limits everything for a minute if it refuses,
and does nothing otherwise. -/
theorem heed_of_lacks (lacks : headers.Lacks Signal.limitsHeader)
    (bare : headers.Lacks Signal.retryAfterHeader) (depot : Depot) :
    depot.heed status headers = .done (if status = Signal.refusedStatus
      then depot.refuse.announce "too_many_requests" else depot) := by
  unfold heed
  rw [Signal.ofResponse_of_lacks lacks bare]
  by_cases refused : status = Signal.refusedStatus
  · rw [if_pos refused, if_pos refused]
    rfl
  · rw [if_neg refused, if_neg refused]
    rfl

end Depot

namespace Delivery

/-- To report what a response says changes no limits. -/
theorem naming_limits {envelope : Envelope} {depot : Depot} {next : Text → Depot → Outcome}
    (keeps : ∀ id, (next id depot).depot.limits = depot.limits) :
    (depot.naming envelope next).depot.limits = depot.limits := by
  unfold Depot.naming
  cases envelope.id with
  | ok id => exact keeps id
  | error fault => rfl

theorem reportRefusal_limits (envelope : Envelope) (response : Response) (depot : Depot) :
    (reportRefusal envelope response depot).depot.limits = depot.limits := by
  unfold reportRefusal
  split
  · exact naming_limits fun id => rfl
  · rfl

theorem readBody_limits (envelope : Envelope) (response : Response) (depot : Depot) :
    (readBody envelope response depot).depot.limits = depot.limits := by
  unfold readBody
  split
  · refine naming_limits fun id => ?_
    split <;> rfl
  · split
    · exact naming_limits fun id => rfl
    · rfl

/-- A delivery takes a response in as the response alone would be heeded, once it is counted: with
the same limits and the same counts, and raising what that raises. -/
theorem takeIn_heeds (envelope : Envelope) (response : Response) (depot : Depot) :
    let heeded :=
      (depot.count (Ledger.respond response.status)).heed response.status response.fields
    (takeIn envelope response depot).depot.limits = heeded.depot.limits ∧
      (takeIn envelope response depot).depot.ledger = heeded.depot.ledger ∧
        (heeded.raised ≠ none → takeIn envelope response depot = heeded) := by
  unfold takeIn Depot.heed Response.signal
  simp only
  cases (depot.count (Ledger.respond response.status)).apply
    (.ofResponse response.status response.fields) with
  | error fault => exact ⟨rfl, rfl, fun _ => rfl⟩
  | ok applied =>
    -- What is reported after the signal was applied may raise a failure, but changes no limits.
    simp only
    unfold Outcome.andThen
    split
    · exact ⟨(readBody_limits ..).trans (reportRefusal_limits ..),
        (readBody_ledger ..).trans (reportRefusal_ledger ..), fun raises => absurd rfl raises⟩
    · exact ⟨reportRefusal_limits .., reportRefusal_ledger .., fun raises => absurd rfl raises⟩

end Delivery

namespace Depot

/-- How a response is weighed, by its status and its headers. -/
structure Weighs (depot : Depot) (status : Int) (headers : ResponseHeaders) : Prop where
  /-- Any response that limits categories by the same value leaves the same behind. -/
  limits : ∀ (value : Text) (other : Int) (others : ResponseHeaders), others.Apart →
    headers.Carries Signal.limitsHeader value → others.Carries Signal.limitsHeader value →
      depot.heed status headers = depot.heed other others
  /-- Where neither limits categories, any response with the same plain back-off header leaves the
  same behind. -/
  retryAfter : ∀ (value : Text) (other : Int) (others : ResponseHeaders), others.Apart →
    headers.Lacks Signal.limitsHeader → others.Lacks Signal.limitsHeader →
    headers.Carries Signal.retryAfterHeader value →
    others.Carries Signal.retryAfterHeader value →
      depot.heed status headers = depot.heed other others
  /-- Without either header status 429 limits everything for a minute, and nothing else. -/
  refused : headers.Lacks Signal.limitsHeader → headers.Lacks Signal.retryAfterHeader →
    status = 429 → (depot.heed status headers).raised = none ∧
      depot.IsBackedOff 60 (depot.heed status headers).depot
  /-- Without either header any other status does nothing at all. -/
  silent : headers.Lacks Signal.limitsHeader → headers.Lacks Signal.retryAfterHeader →
    status ≠ 429 → depot.heed status headers = .done depot
  /-- If a failure is raised, everything is as it was. -/
  raised : (depot.heed status headers).raised ≠ none → (depot.heed status headers).depot = depot
  /-- If none is raised, the source of the response is counted once more. -/
  counted : (depot.heed status headers).raised = none → ∀ source,
    Signal.Source status headers source →
      (depot.heed status headers).depot.ledger.updates.count source =
        depot.ledger.updates.count source + 1
  /-- Nothing that is not its source is counted. -/
  uncounted : ∀ source, ¬ Signal.Source status headers source →
    (depot.heed status headers).depot.ledger.updates.count source =
      depot.ledger.updates.count source
  /-- Nothing else is counted either. -/
  books : (depot.heed status headers).depot.ledger =
    { depot.ledger with updates := (depot.heed status headers).depot.ledger.updates }
  /-- Only the header that limits categories touches any category but the wildcard. -/
  confined : ∀ category, category ≠ .any →
    (depot.heed status headers).depot.limits.reset? category ≠ depot.limits.reset? category →
      ∃ value, headers.Carries Signal.limitsHeader value
  /-- A delivery takes a response in just like this, once the response is counted. -/
  taken : ∀ (envelope : Envelope) (response : Response) (before : Depot),
    response.status = status → response.fields = headers →
    before.count (Ledger.respond status) = depot →
      (Delivery.takeIn envelope response before).depot.limits =
          (depot.heed status headers).depot.limits ∧
        (Delivery.takeIn envelope response before).depot.ledger =
          (depot.heed status headers).depot.ledger ∧
        ((depot.heed status headers).raised ≠ none →
          Delivery.takeIn envelope response before = depot.heed status headers)

/-- **The strongest signal counts**, and is applied as a whole or not at all. -/
theorem strongest_signal_counts (depot : Depot) (status : Int) {headers : ResponseHeaders}
    (apart : headers.Apart) : depot.Weighs status headers where
  limits value other others clear carries carries_other := by
    refine heed_congr ?_ depot
    rw [Signal.ofResponse_of_carries apart carries,
      Signal.ofResponse_of_carries clear carries_other]
  retryAfter value other others clear lacks lacks_other carries carries_other := by
    refine heed_congr ?_ depot
    rw [Signal.ofResponse_of_retryAfter apart lacks carries,
      Signal.ofResponse_of_retryAfter clear lacks_other carries_other]
  refused lacks bare refusal := by
    rw [heed_of_lacks lacks bare, if_pos (show status = Signal.refusedStatus from refusal)]
    have minute : (60 : Binary64) = RetryAfter.fallback := rfl
    rw [minute]
    exact ⟨rfl, isBackedOff_announce depot RetryAfter.fallback _⟩
  silent lacks bare other := by
    rw [heed_of_lacks lacks bare, if_neg (show ¬ status = Signal.refusedStatus from other)]
  raised raises := by
    rcases depot.heed_cases status headers with refused | ⟨after, -, heeded⟩
    · rw [refused]
      rfl
    · rw [heeded] at raises
      exact absurd rfl raises
  counted quiet source is := by
    obtain ⟨some, rfl⟩ := (Signal.source_iff apart source).mp is
    rcases depot.heed_cases status headers with refused | ⟨after, applied, heeded⟩
    · rw [refused] at quiet
      cases quiet
    · rw [heeded]
      exact (apply_updates applied some _).trans (by rw [if_pos rfl])
  uncounted source other := by
    rw [Signal.source_iff apart] at other
    rcases depot.heed_cases status headers with refused | ⟨after, applied, heeded⟩
    · rw [refused]
      rfl
    by_cases some : Signal.ofResponse status headers = .none
    · rw [some] at applied
      cases applied
      rw [heeded]
      rfl
    · have apart_source : source ≠ (Signal.ofResponse status headers).name :=
        fun same => other ⟨some, same⟩
      rw [heeded]
      exact (apply_updates applied some source).trans (by rw [if_neg apart_source]; rfl)
  books := by
    rcases depot.heed_cases status headers with refused | ⟨after, applied, heeded⟩
    · rw [refused]
      rfl
    · rw [heeded]
      exact apply_ledger applied
  confined category real changed := by
    rcases depot.heed_cases status headers with refused | ⟨after, applied, heeded⟩
    · rw [refused] at changed
      exact absurd rfl changed
    rw [heeded] at changed
    obtain ⟨header, limits⟩ := apply_confined applied real changed
    rcases headers.lacks_or_carries Signal.limitsHeader with lacks | carries
    · have none := ResponseHeaders.value?_eq_none_iff.mpr lacks
      unfold Signal.ofResponse at limits
      rw [none] at limits
      grind
    · exact carries
  taken envelope response before status_eq fields_eq counts := by
    subst status_eq fields_eq counts
    exact Delivery.takeIn_heeds envelope response before

/-- Headers that limit errors for a minute, and order a back-off that is no duration. -/
def wordy : ResponseHeaders :=
  [("Retry-After", "soon"), ("X-Sentry-Rate-Limits", "60:error"), ("Server", "")]

/-- Headers that limit errors for a minute, and say nothing else. -/
def terse : ResponseHeaders :=
  [("x-sentry-rate-limits", "60:error")]

/-- Whatever else they say, a refusal and a success with the same limits leave the same behind, and
the limits alone are counted. -/
theorem wordy_counts_like_terse : wordy.Apart ∧ terse.Apart ∧
    inNovember.heed 429 wordy = inNovember.heed 200 terse ∧
      (inNovember.heed 429 wordy).depot.ledger.updates.count "sentry_header" = 1 ∧
        (inNovember.heed 429 wordy).depot.ledger.updates.count "retry_after" = 0 := by
  have apart : wordy.Apart := by
    unfold ResponseHeaders.Apart
    decide +kernel
  have clear : terse.Apart := List.nodup_singleton _
  have carries : wordy.Carries Signal.limitsHeader "60:error" := by
    unfold ResponseHeaders.Carries
    decide +kernel
  have carries_terse : terse.Carries Signal.limitsHeader "60:error" := by
    unfold ResponseHeaders.Carries
    decide +kernel
  have weighs := strongest_signal_counts inNovember 429 apart
  have quiet : (inNovember.heed 429 wordy).raised = none := by
    unfold heed
    rw [Signal.ofResponse_of_carries apart carries]
    rfl
  have other : ¬ Signal.Source 429 wordy "retry_after" := by
    rw [Signal.source_iff apart, Signal.ofResponse_of_carries apart carries]
    exact fun same => absurd same.2 (by decide)
  exact ⟨apart, clear, weighs.limits "60:error" 200 terse clear carries carries_terse,
    weighs.counted quiet _ (.limits carries), weighs.uncounted _ other⟩

end Depot

end Courier
