/-
**The ledger as text.**

The counts are published family by family: a line of help, a line with the type, then the samples.
A sample with labels stands in the order in which the labels were first used. Durations are
published as a histogram, whose buckets are cumulative.
-/
import Courier.Metrics.Ledger
import Courier.Number.Decimal
namespace Courier.Exposition

/-- What kind of number a family publishes. -/
inductive Kind
  | counter
  | gauge
  | histogram
  deriving DecidableEq

/-- The name of a kind. -/
def Kind.name : Kind → String
  | counter => "counter"
  | gauge => "gauge"
  | histogram => "histogram"

/-- A published number. -/
structure Sample where
  /-- What is added to the name of the family. -/
  suffix : String
  labels : List (String × Text)
  value : Binary64

/-- A family of numbers under one name. -/
structure Family where
  name : String
  help : String
  kind : Kind
  samples : List Sample

/-- A count as a number. -/
def ofCount (n : Nat) : Binary64 :=
  .ofInt n

/-- A sample under the name of the family itself. -/
def single (value : Binary64) : Sample :=
  ⟨"", [], value⟩

/-- The samples of a tally. -/
def ofTally {α : Type} (label : String) (text : α → Text) (tally : Tally α) : List Sample :=
  tally.counts.map fun (key, count) => ⟨"", [(label, text key)], ofCount count⟩

/-- The number `n / 100`. -/
def hundredths (n : Nat) : Binary64 :=
  .ofRatio false n 100

/-- The upper bounds of the buckets for durations, in seconds. -/
def bounds : List Binary64 :=
  [hundredths 1, hundredths 5, hundredths 10, hundredths 25, hundredths 50, 1, hundredths 250, 5,
    10, 30, .infinite false]

/-- A number, with the point moved to the first digit from `10 ^ 6` on. -/
def numberText (x : Binary64) : Text :=
  match x with
  | .infinite false => "+Inf"
  | .infinite true => "-Inf"
  | .nan => "NaN"
  | .finite .. =>
    let plain := x.toText
    match plain.cut '.' with
    | (whole, some fraction) =>
      if 0 < x && 6 < whole.length then
        let digits : Text := whole.take 1 ++ "." ++ whole.drop 1 ++ fraction
        Text.trimRight (fun c => c = '0' || c = '.') digits ++ "e+0" ++ Text.ofNat (whole.length - 1)
      else plain
    | (_, none) => plain

/-- How many durations do not exceed a bound. -/
def countUpTo (bound : Binary64) (durations : List Binary64) : Nat :=
  (durations.filter fun x => x ≤ bound).length

/-- The sum of durations, in order. -/
def sum (durations : List Binary64) : Binary64 :=
  durations.foldl (· + ·) 0

/-- The samples of a histogram. -/
def ofDurations (durations : List Binary64) : List Sample :=
  (bounds.map fun bound =>
    ⟨"_bucket", [("le", numberText bound)], ofCount (countUpTo bound durations)⟩) ++
  [⟨"_count", [], ofCount (countUpTo (.infinite false) durations)⟩, ⟨"_sum", [], sum durations⟩]

/-- Everything that is published. -/
def families (ledger : Ledger) : List Family :=
  [⟨"envelope_transport_info", "Envelope transport info", .gauge,
      [⟨"", [("name", "envelope_transport"), ("version", "0.1.0")], 1⟩]⟩,
    ⟨"envelopes_enqueued_total", "Envelopes accepted into the delivery queue", .counter,
      [single (ofCount ledger.enqueued)]⟩,
    ⟨"envelopes_dropped_total", "Envelopes dropped before or during delivery", .counter,
      ofTally "reason" (fun reason => Text.ofString reason.name) ledger.dropped⟩,
    ⟨"envelope_responses_total", "Responses received from the ingestion endpoint", .counter,
      ofTally "status" Text.ofInt ledger.responses⟩,
    ⟨"rate_limit_updates_total", "Rate limiter updates by signal source", .counter,
      ofTally "source" Text.ofString ledger.updates⟩,
    ⟨"envelope_delivery_duration_seconds", "Time spent submitting a single envelope", .histogram,
      ofDurations ledger.durations⟩,
    ⟨"envelope_queue_depth", "Envelopes waiting in the delivery queue", .gauge,
      [single (ofCount ledger.depth)]⟩]

/-- The labels of a sample between braces; nothing without labels. -/
def labelsText (labels : List (String × Text)) : Text :=
  if labels.isEmpty then ""
  else
    let parts := labels.map fun (name, value) => Text.ofString name ++ "=\"" ++ value ++ "\""
    "\x7b" ++ Text.join "," parts ++ "\x7d"

/-- The lines of a family. -/
def Family.lines (family : Family) : List Text :=
  let name : Text := family.name
  ["# HELP " ++ name ++ " " ++ family.help, "# TYPE " ++ name ++ " " ++ family.kind.name] ++
    family.samples.map fun sample =>
      name ++ sample.suffix ++ labelsText sample.labels ++ " " ++ numberText sample.value

/-- The lines of everything that is published. -/
def lines (ledger : Ledger) : List Text :=
  (families ledger).flatMap Family.lines

end Courier.Exposition
