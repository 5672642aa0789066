import Courier.Calendar.Date
import Courier.Calendar.HttpDate
import Courier.Calendar.Moment
import Courier.Category
import Courier.Delivery.Basic
import Courier.Delivery.ContentType
import Courier.Delivery.Redirect
import Courier.Delivery.Request
import Courier.Delivery.Response
import Courier.Depot
import Courier.Destination.Basic
import Courier.Destination.Attempt
import Courier.Destination.Proxy
import Courier.Dsn.Basic
import Courier.Dsn.Reading
import Courier.Envelope.Basic
import Courier.Envelope.Reading
import Courier.Envelope.Wire
import Courier.Failure
import Courier.Failure.Cause
import Courier.Idna.Combining
import Courier.Idna.Composition
import Courier.Idna.Direction
import Courier.Idna.HostName
import Courier.Idna.Label
import Courier.Idna.Permitted
import Courier.Idna.Punycode
import Courier.Idna.Script
import Courier.Json.Reader
import Courier.Json.Writer
import Courier.Keyed
import Courier.Limit.Basic
import Courier.Limit.Header
import Courier.Limit.RetryAfter
import Courier.Limit.Seconds
import Courier.Limit.Signal
import Courier.Limit.TimeScale
import Courier.Limit.Update
import Courier.Log.Entry
import Courier.Log.Format
import Courier.Log.Record
import Courier.Log.Setup
import Courier.Log.Template
import Courier.Metrics.Exposition
import Courier.Metrics.Ledger
import Courier.Metrics.Tally
import Courier.Number.Binary64
import Courier.Number.Decimal
import Courier.Number.Integer
import Courier.Number.Numeral
import Courier.Number.Power
import Courier.Number.Rounding
import Courier.Outcome
import Courier.Proofs.Journal
import Courier.Proofs.Rules
import Courier.Proofs.Timeline
import Courier.Rehearsal.Act
import Courier.Rehearsal.Basic
import Courier.Rehearsal.Cue
import Courier.Rehearsal.Server
import Courier.Settings.Basic
import Courier.Settings.Coercion
import Courier.Settings.EnvFile
import Courier.Settings.Reading
import Courier.Submission
import Courier.Text.Basic
import Courier.Text.Blank
import Courier.Text.ByteSet
import Courier.Text.Charset
import Courier.Text.CodePoint
import Courier.Text.Digit
import Courier.Text.LetterCase
import Courier.Text.Printable
import Courier.Text.Quoted
import Courier.Text.Utf8
import Courier.Transport
import Courier.Url.Address
import Courier.Url.Basic
import Courier.Url.Percent
import Courier.Value.Basic
import Courier.Value.Shown
import Courier.Worker.Basic
import Courier.Worker.Call
import Courier.Worker.Flush
import Courier.Worker.Offer
import Courier.Worker.Session
import Courier.Worker.Shutdown
import Courier.Worker.Thread
import Courier.Proofs.Moves
import Courier.Proofs.Survival
import Courier.Proofs.Unnamed
import Courier.Proofs.Accounting
import Courier.Proofs.ClockOrder
import Courier.Proofs.WithinLimits
import Courier.Proofs.BackOff
import Courier.Proofs.Conservation
import Courier.Proofs.Sending
import Courier.Proofs.Draining
import Courier.Proofs.Barrier
import Courier.Proofs.Lifecycle
import Courier.Proofs.LimitHistory
import Courier.Proofs.Dictionary
import Courier.Proofs.JsonTokens
import Courier.Proofs.JsonReading
import Courier.Proofs.JsonGrammar
import Courier.Proofs.JsonRoundTrip
import Courier.Proofs.WireReading
import Courier.Proofs.WireRoundTrip
import Courier.Proofs.Trimming
import Courier.Proofs.JsonAcceptance
import Courier.Proofs.HeaderEntries
import Courier.Proofs.HeaderNames
import Courier.Proofs.HeaderLines
import Courier.Proofs.Precedence
import Courier.Proofs.Flaws
import Courier.Proofs.TwoViews
import Courier.Proofs.PlainDelays
import Courier.Proofs.Results
import Courier.Proofs.PunycodeRoundTrip
import Courier.Proofs.HostNames
import Courier.Proofs.PercentCoding
import Courier.Proofs.UrlParts
import Courier.Proofs.DsnFaults
import Courier.Proofs.PathsAndPorts
import Courier.Proofs.UrlHosts
import Courier.Proofs.DsnParts
import Courier.Proofs.WebUrls
import Courier.Proofs.Endpoint
import Courier.Proofs.Capacity
import Courier.Proofs.Deliveries
import Courier.Proofs.AuthHeader
import Courier.Proofs.DsnRoundTrip
import Courier.Proofs.Ordinals
import Courier.Proofs.HttpDates
import Courier.Proofs.Markers
import Courier.Proofs.RepeatedAnswers
import Courier.Proofs.Stopping
import Courier.Proofs.StrictLines
import Courier.Proofs.ProxyFallback
import Courier.Proofs.SettingsCheck
import Courier.Proofs.LogLines
import Courier.Proofs.NearestDoubles
import Courier.Proofs.DurationText
import Courier.Proofs.PlainDecimals
import Courier.Proofs.LogSetup
