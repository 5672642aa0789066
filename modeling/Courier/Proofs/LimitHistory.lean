/-
**What the limits remember.**

The limits after any calls are told by the calls alone: for each category the last call that wrote it
decides, by what it wrote last. On the scale of exact times a category is limited as long as that
instant, or the wildcard's, is ahead. No call ever writes the unknown category.

* `Limits.lastWritten?`: what the calls wrote last, told without the table.
* `Limits.reset?_run`: the table after any calls.
* `Limits.history_decides`: what the limits say at a later time.
-/
import Courier.Limit.Update
import Mathlib.Data.List.Induction
import Mathlib.Order.Bounds.Basic
namespace Courier

/-! ### What a signal writes -/

/-- The categories that an entry writes, each with the seconds for which it is limited. -/
def Limits.Entry.spans : Limits.Entry → List (Category × Binary64)
  | limit seconds categories => categories.map (·, seconds)
  | malformed _ => []

/-- The categories that a signal writes, first to last, each with the seconds for which it is
limited; `wall` is the present, in microseconds from the first of January 1970. -/
def Signal.spans (wall : Int) : Signal → List (Category × Binary64)
  | limits header => (Limits.entries header).flatMap Limits.Entry.spans
  | retryAfter value =>
    match RetryAfter.read value with
    | .ok reading => [(.any, reading.delay RetryAfter.fallback wall)]
    | .error _ => []
  | tooManyRequests => [(.any, RetryAfter.fallback)]
  | none => []

theorem Limits.Entry.ofText_spans (raw : Text) :
    ∀ span ∈ (ofText raw).spans, span.1 ≠ .unknown := by
  intro span member
  cases reads : ofText raw with
  | limit seconds categories =>
    rw [reads] at member
    obtain ⟨category, named, rfl⟩ := List.mem_map.mp member
    rintro rfl
    exact ofText_known reads named
  | malformed text =>
    rw [reads] at member
    cases member

/-- No signal writes the unknown category. -/
theorem Signal.spans_known (wall : Int) (signal : Signal) :
    ∀ span ∈ signal.spans wall, span.1 ≠ .unknown := by
  cases signal with
  | limits header =>
    intro span member
    obtain ⟨entry, listed, inside⟩ := List.mem_flatMap.mp member
    obtain ⟨raw, -, rfl⟩ := List.mem_map.mp listed
    exact Limits.Entry.ofText_spans raw span inside
  | retryAfter value =>
    unfold spans
    simp only
    cases RetryAfter.read value with
    | ok reading => simp
    | error fault => simp
  | tooManyRequests => simp [spans]
  | none => simp [spans]

namespace Limits

/-! ### Calls -/

/-- What the limits are told by a call. -/
inductive Update
  /-- The header that limits categories. -/
  | header (header : Text)
  /-- The plain back-off header. -/
  | retryAfter (value : Text)
  /-- A refusal without a header. -/
  | refusal
  /-- What a response says. -/
  | apply (signal : Signal)

/-- The signal that says the same. -/
def Update.signal : Update → Signal
  | header text => .limits text
  | retryAfter value => .retryAfter value
  | refusal => .tooManyRequests
  | apply signal => signal

/-- A call: what the limits are told, and when. -/
structure Told (τ : Type) where
  /-- The reading of the clock. -/
  now : τ
  /-- The wall clock, in microseconds from the first of January 1970. -/
  wall : Int
  update : Update

variable {τ : Type}

/-! ### The table -/

/-- The limits after several writes. -/
def writeAll (writes : List (Category × τ)) (limits : Limits τ) : Limits τ :=
  writes.foldl (fun limits write => limits.write write.1 write.2) limits

theorem writeAll_append (first second : List (Category × τ)) (limits : Limits τ) :
    limits.writeAll (first ++ second) = (limits.writeAll first).writeAll second :=
  List.foldl_append

/-- The last write of a category decides; without one it keeps its instant. -/
theorem reset?_writeAll (writes : List (Category × τ)) (category : Category) (limits : Limits τ) :
    (limits.writeAll writes).reset? category =
      ((writes.filter fun write => write.1 = category).map Prod.snd).getLast?.or
        (limits.reset? category) := by
  induction writes using List.reverseRecOn with
  | nil => rfl
  | append_singleton writes write ih =>
    obtain ⟨written, instant⟩ := write
    rw [writeAll_append, List.filter_append, List.map_append]
    show ((limits.writeAll writes).write written instant).reset? category = _
    rw [reset?_write]
    by_cases same : category = written
    · subst same
      simp
    · simp [same, Ne.symm same, ih]

section

variable [TimeScale τ]

/-- The limits after a call, if it returns. -/
def perform (limits : Limits τ) (told : Told τ) : Except RetryAfter.TooLarge (Limits τ) :=
  match told.update with
  | .header header => .ok (limits.afterHeader told.now header)
  | .retryAfter value => limits.afterRetryAfter told.now told.wall value
  | .refusal => .ok (limits.afterRefusal told.now)
  | .apply signal => limits.apply told.now told.wall signal

/-- The limits after several calls, if each of them returns. -/
def run (history : List (Told τ)) (limits : Limits τ) : Except RetryAfter.TooLarge (Limits τ) :=
  history.foldlM perform limits

/-- The limits after a call; a call that is refused leaves them as they are. -/
def absorb (limits : Limits τ) (told : Told τ) : Limits τ :=
  match limits.perform told with
  | .ok after => after
  | .error _ => limits

/-- The limits after several calls, whether or not they are refused. -/
def absorbAll (history : List (Told τ)) (limits : Limits τ) : Limits τ :=
  history.foldl absorb limits

/-- What a call writes, first to last: each category with the instant at which its limit ends. -/
def Told.writes (told : Told τ) : List (Category × τ) :=
  (told.update.signal.spans told.wall).map fun span =>
    (span.1, told.now + TimeScale.ofSeconds span.2)

/-- The instant that a call writes for a category, by the last of its writes, if it writes it. -/
def Told.written? (category : Category) (told : Told τ) : Option τ :=
  ((told.writes.filter fun write => write.1 = category).map Prod.snd).getLast?

/-- The instant that the last call wrote for a category that wrote it at all. -/
def lastWritten? (category : Category) (history : List (Told τ)) : Option τ :=
  (history.filterMap (Told.written? category)).getLast?

theorem perform_eq_apply (limits : Limits τ) (told : Told τ) :
    limits.perform told = limits.apply told.now told.wall told.update.signal := by
  obtain ⟨now, wall, update⟩ := told
  cases update <;> rfl

/-- A call never writes the unknown category. -/
theorem Told.writes_known (told : Told τ) : ∀ write ∈ told.writes, write.1 ≠ .unknown := by
  intro write member
  obtain ⟨span, inside, rfl⟩ := List.mem_map.mp member
  exact Signal.spans_known told.wall told.update.signal span inside

theorem enter_eq_writeAll (now : τ) (limits : Limits τ) (entry : Entry) :
    limits.enter now entry = limits.writeAll
      (entry.spans.map fun span => (span.1, now + TimeScale.ofSeconds span.2)) := by
  cases entry with
  | limit seconds categories =>
    unfold enter limitAll writeAll Entry.spans
    rw [List.map_map, List.foldl_map]
    rfl
  | malformed raw => rfl

theorem afterHeader_eq_writeAll (now : τ) (header : Text) (limits : Limits τ) :
    limits.afterHeader now header = limits.writeAll
      (((entries header).flatMap Entry.spans).map fun span =>
        (span.1, now + TimeScale.ofSeconds span.2)) := by
  unfold afterHeader
  induction entries header generalizing limits with
  | nil => rfl
  | cons entry rest ih =>
    rw [List.foldl_cons, ih, enter_eq_writeAll, List.flatMap_cons, List.map_append,
      writeAll_append]

theorem apply_eq_writeAll {now : τ} {wall : Int} {signal : Signal} {limits after : Limits τ}
    (returned : limits.apply now wall signal = .ok after) :
    after = limits.writeAll
      ((signal.spans wall).map fun span => (span.1, now + TimeScale.ofSeconds span.2)) := by
  cases signal with
  | limits header =>
    cases returned
    exact afterHeader_eq_writeAll ..
  | retryAfter value =>
    unfold apply afterRetryAfter at returned
    unfold Signal.spans
    simp only at returned ⊢
    cases reads : RetryAfter.read value with
    | error fault =>
      rw [reads] at returned
      cases returned
    | ok reading =>
      rw [reads] at returned
      cases returned
      rfl
  | tooManyRequests =>
    cases returned
    rfl
  | none =>
    cases returned
    rfl

/-- A call that returns has written what it says, and nothing else. -/
theorem perform_eq_writeAll {limits after : Limits τ} {told : Told τ}
    (returned : limits.perform told = .ok after) : after = limits.writeAll told.writes := by
  rw [perform_eq_apply] at returned
  exact apply_eq_writeAll returned

/-- A call that is refused writes nothing. -/
theorem writes_of_refused {limits : Limits τ} {told : Told τ} {fault : RetryAfter.TooLarge}
    (refused : limits.perform told = .error fault) : told.writes = [] := by
  rw [perform_eq_apply] at refused
  unfold Told.writes
  cases signal : told.update.signal with
  | limits header =>
    rw [signal] at refused
    cases refused
  | retryAfter value =>
    rw [signal] at refused
    unfold apply afterRetryAfter at refused
    simp only at refused
    unfold Signal.spans
    simp only
    cases reads : RetryAfter.read value with
    | ok reading =>
      rw [reads] at refused
      cases refused
    | error fault => rfl
  | tooManyRequests =>
    rw [signal] at refused
    cases refused
  | none =>
    rw [signal] at refused
    cases refused

/-- A call writes what it says, refused or not. -/
theorem absorb_eq_writeAll (limits : Limits τ) (told : Told τ) :
    limits.absorb told = limits.writeAll told.writes := by
  unfold absorb
  cases performed : limits.perform told with
  | ok after => exact perform_eq_writeAll performed
  | error fault =>
    rw [writes_of_refused performed]
    rfl

theorem absorbAll_eq_writeAll (history : List (Told τ)) (limits : Limits τ) :
    absorbAll history limits = limits.writeAll (history.flatMap Told.writes) := by
  induction history generalizing limits with
  | nil => rfl
  | cons told rest ih =>
    rw [List.flatMap_cons, writeAll_append, ← absorb_eq_writeAll]
    exact ih (limits.absorb told)

/-- The limits after any calls hold what these wrote, one write after the other. -/
theorem run_eq_writeAll {history : List (Told τ)} {start limits : Limits τ}
    (returned : run history start = .ok limits) :
    limits = start.writeAll (history.flatMap Told.writes) := by
  induction history generalizing start with
  | nil =>
    cases returned
    rfl
  | cons told rest ih =>
    unfold run at returned
    rw [List.foldlM_cons] at returned
    obtain ⟨between, performed, later⟩ := bind_eq_ok returned
    rw [ih later, perform_eq_writeAll performed, List.flatMap_cons, writeAll_append]

/-- The last of all writes of a category is the last write of the last call that wrote it. -/
theorem lastWritten?_eq (category : Category) (history : List (Told τ)) :
    lastWritten? category history =
      (((history.flatMap Told.writes).filter fun write => write.1 = category).map
        Prod.snd).getLast? := by
  unfold lastWritten?
  rw [List.getLast?_filterMap, List.filter_flatMap, List.map_flatMap, List.getLast?_flatMap]
  rfl

theorem lastWritten?_unknown (history : List (Told τ)) : lastWritten? .unknown history = none := by
  have nothing : (history.flatMap Told.writes).filter (fun write => write.1 = .unknown) = [] := by
    refine List.filter_eq_nil_iff.mpr fun write member => ?_
    obtain ⟨told, -, inside⟩ := List.mem_flatMap.mp member
    simpa using told.writes_known write inside
  rw [lastWritten?_eq, nothing]
  rfl

/-- **The table after any calls** holds for each category what was written last. -/
theorem reset?_run {history : List (Told τ)} {start limits : Limits τ}
    (returned : run history start = .ok limits) (category : Category) :
    limits.reset? category = (lastWritten? category history).or (start.reset? category) := by
  rw [run_eq_writeAll returned, reset?_writeAll, lastWritten?_eq]

/-- The table after any calls, whether or not they are refused. -/
theorem reset?_absorbAll (history : List (Told τ)) (start : Limits τ) (category : Category) :
    (absorbAll history start).reset? category =
      (lastWritten? category history).or (start.reset? category) := by
  rw [absorbAll_eq_writeAll, reset?_writeAll, lastWritten?_eq]

/-- The instants that count for a category, told by the calls alone: what was written last for the
category itself, and what was written last for the wildcard. -/
def Counts (history : List (Told τ)) (category : Category) (instant : τ) : Prop :=
  lastWritten? category history = some instant ∨ lastWritten? .any history = some instant

end

/-! ### What the limits say -/

section

variable {history : List (Told Int)} {limits : Limits Int} {now : Int}

theorem limitedUntil_run (returned : run history empty = .ok limits) (category : Category) :
    limits.limitedUntil category =
      max ((lastWritten? category history).getD 0) ((lastWritten? .any history).getD 0) := by
  have table : ∀ category, limits.reset? category = lastWritten? category history := by
    intro category
    rw [reset?_run returned]
    exact Option.or_none
  unfold limitedUntil
  rw [table, table]
  exact (max_def_lt ..).symm

/-- A category is limited until no instant that counts is ahead. -/
theorem Counts.le_limitedUntil {category : Category} {instant : Int}
    (counts : Counts history category instant) (returned : run history empty = .ok limits) :
    instant ≤ limits.limitedUntil category := by
  rw [limitedUntil_run returned]
  rcases counts with own | any
  · rw [own]
    exact le_max_left ..
  · rw [any]
    exact le_max_right ..

theorem eq_some_of_getD_pos {written : Option Int} (after : 0 < written.getD 0) :
    written = some (written.getD 0) := by
  cases written with
  | none => exact absurd after (Int.lt_irrefl 0)
  | some instant => rfl

/-- A category is limited after the origin only by an instant that counts. -/
theorem counts_limitedUntil (returned : run history empty = .ok limits) {category : Category}
    (after : 0 < limits.limitedUntil category) :
    Counts history category (limits.limitedUntil category) := by
  rw [limitedUntil_run returned] at after ⊢
  rcases Int.le_total ((lastWritten? category history).getD 0)
    ((lastWritten? .any history).getD 0) with wildcard | own
  · rw [Int.max_eq_right wildcard] at after ⊢
    exact .inr (eq_some_of_getD_pos after)
  · rw [Int.max_eq_left own] at after ⊢
    exact .inl (eq_some_of_getD_pos after)

theorem isLimited_iff_lt (category : Category) (limits : Limits Int) :
    limits.isLimited now category ↔ now < limits.limitedUntil category := by
  rw [isLimited_iff]
  exact Int.sub_pos

/-- A category is limited as long as an instant that counts is ahead. -/
theorem isLimited_iff_counts (returned : run history empty = .ok limits) (bound : 0 ≤ now)
    (category : Category) :
    limits.isLimited now category ↔ ∃ instant, Counts history category instant ∧ now < instant := by
  rw [isLimited_iff_lt]
  constructor
  · intro ahead
    exact ⟨_, counts_limitedUntil returned (Int.lt_of_le_of_lt bound ahead), ahead⟩
  · rintro ⟨instant, counts, ahead⟩
    exact Int.lt_of_lt_of_le ahead (counts.le_limitedUntil returned)

/-- What remains for a category is the largest of what remains of the instants that count. -/
theorem remaining?_iff_greatest (returned : run history empty = .ok limits) (bound : 0 ≤ now)
    (category : Category) (span : Int) :
    limits.remaining? now category = some span ↔ 0 < span ∧
      IsGreatest {left | ∃ instant, Counts history category instant ∧ left = instant - now} span := by
  have greatest : now < limits.limitedUntil category →
      IsGreatest {left | ∃ instant, Counts history category instant ∧ left = instant - now}
        (limits.limitedUntil category - now) := by
    intro ahead
    refine ⟨⟨_, counts_limitedUntil returned (Int.lt_of_le_of_lt bound ahead), rfl⟩, ?_⟩
    rintro left ⟨instant, counts, rfl⟩
    exact Int.sub_le_sub_right (counts.le_limitedUntil returned) now
  have remains : limits.remaining? now category = some span ↔
      0 < span ∧ span = limits.limitedUntil category - now := by
    show (if 0 < limits.limitedUntil category - now then some (limits.limitedUntil category - now)
      else none) = some span ↔ _
    grind
  rw [remains]
  constructor
  · rintro ⟨positive, rfl⟩
    exact ⟨positive, greatest (Int.lt_of_sub_pos positive)⟩
  · rintro ⟨positive, most⟩
    obtain ⟨instant, counts, same⟩ := most.1
    have ahead : now < limits.limitedUntil category :=
      Int.lt_of_lt_of_le (by omega) (counts.le_limitedUntil returned)
    exact ⟨positive, most.unique (greatest ahead)⟩

/-- What the limits say at a time, told by the calls that were made. -/
structure Decides (history : List (Told Int)) (now : Int) (limits : Limits Int) : Prop where
  /-- The calls' writes were made, in order, and no others. -/
  written : limits = empty.writeAll (history.flatMap Told.writes)
  /-- A category is limited as long as its own instant or the wildcard's is ahead. -/
  limited : ∀ category, limits.isLimited now category ↔
    (∃ instant, lastWritten? category history = some instant ∧ now < instant) ∨
      ∃ instant, lastWritten? .any history = some instant ∧ now < instant
  /-- It is limited for the larger of the two times that remain. -/
  remaining : ∀ category span, limits.remaining? now category = some span ↔ 0 < span ∧
    IsGreatest {left | ∃ instant, Counts history category instant ∧ left = instant - now} span
  /-- No call ever wrote the unknown category. -/
  unknown : ∀ told ∈ history, ∀ write ∈ told.writes, write.1 ≠ .unknown
  /-- An item of an unknown type is limited by the wildcard only. -/
  wildcard : ∀ item : Item, item.category = .unknown →
    (limits.isLimited now item.category ↔
      ∃ instant, lastWritten? .any history = some instant ∧ now < instant)
  /-- Without further calls a category that is not limited is never limited later. -/
  lapse : ∀ category later, now ≤ later →
    limits.isLimited now category = false → limits.isLimited later category = false

/-- **On the scale of exact times**, what the limits say after any calls that return is decided by
what these wrote last. Nothing is asked of the readings of the clock, except that the limits are not
asked about a time before the origin. -/
theorem history_decides (returned : run history empty = .ok limits) (bound : 0 ≤ now) :
    Decides history now limits where
  written := run_eq_writeAll returned
  limited category := by
    rw [isLimited_iff_counts returned bound]
    simp only [Counts, or_and_right, exists_or]
  remaining := remaining?_iff_greatest returned bound
  unknown told _ := told.writes_known
  wildcard item same := by
    rw [same, isLimited_iff_counts returned bound]
    simp only [Counts, lastWritten?_unknown, reduceCtorEq, false_or]
  lapse category later forward free := by
    rw [Bool.eq_false_iff, ne_eq, isLimited_iff_lt] at free ⊢
    omega

/-- A number of seconds on the scale of exact times. -/
def exactSeconds (count : Nat) : Int :=
  TimeScale.ofSeconds (Binary64.ofInt count)

/-- Four calls, one of each kind, of which the last two take back most of what the first two said. -/
def takenBack : List (Told Int) :=
  [⟨0, 0, .header "60:error;transaction:organization, 120:attachment"⟩,
    ⟨exactSeconds 1, 1000000, .refusal⟩,
    ⟨exactSeconds 2, 2000000, .apply (.limits "1:error, 5")⟩,
    ⟨exactSeconds 3, 3000000, .retryAfter "1"⟩]

/-- Ten seconds after the calls errors are free again, and transactions are not. -/
theorem takenBack_decides :
    ∃ limits, run takenBack empty = .ok limits ∧ Decides takenBack (exactSeconds 10) limits ∧
      limits.isLimited (exactSeconds 10) .error = false ∧
        limits.isLimited (exactSeconds 10) .transaction = true := by
  have after : (run takenBack empty).map (fun limits =>
      (limits.isLimited (exactSeconds 10) .error, limits.isLimited (exactSeconds 10) .transaction)) =
        .ok (false, true) := by
    decide +kernel
  cases ran : run takenBack empty with
  | error fault =>
    rw [ran] at after
    cases after
  | ok limits =>
    rw [ran] at after
    have answers := Except.ok.inj after
    exact ⟨limits, rfl, history_decides ran (by decide +kernel), congrArg Prod.fst answers,
      congrArg Prod.snd answers⟩

end

end Limits

end Courier
