/-
**Failures.**

What a client or a submission raises: a kind, known by its name, and what it was raised with. The
kinds form families, and a family decides how far a failure reaches: a failed transport is a drop
like others, an interrupt ends the thread it meets.

* `Failure.family_interrupt`: only the named interrupts end a thread.
-/
import Courier.Text.Quoted
namespace Courier

/-- What was raised. -/
structure Failure where
  /-- The kind. -/
  name : Text
  /-- What it was raised with; nothing for a bare failure. -/
  argument : Option Text
  deriving DecidableEq

namespace Failure

/-- The families of failures. -/
inductive Family
  /-- The request was not carried out. -/
  | transport
  /-- The exchange with the server went wrong in another way. -/
  | exchange
  /-- The HTTP client was misused. -/
  | client
  /-- Not an error, but an order to end. -/
  | interrupt
  /-- Any other error. -/
  | general
  deriving DecidableEq

/-- The kinds of failed transport. -/
def transportNames : List String :=
  ["TransportError", "TimeoutException", "ConnectTimeout", "ReadTimeout", "WriteTimeout",
    "PoolTimeout", "NetworkError", "ConnectError", "ReadError", "WriteError", "CloseError",
    "ProtocolError", "LocalProtocolError", "RemoteProtocolError", "ProxyError",
    "UnsupportedProtocol"]

/-- The other kinds of failed exchange. -/
def exchangeNames : List String :=
  ["HTTPError", "RequestError", "DecodingError", "TooManyRedirects", "HTTPStatusError"]

/-- The kinds of misuse of the client. -/
def clientNames : List String :=
  ["InvalidURL", "CookieConflict", "StreamError", "StreamConsumed", "StreamClosed",
    "ResponseNotRead", "RequestNotRead"]

/-- The kinds of interrupt. -/
def interruptNames : List String :=
  ["BaseException", "SystemExit", "KeyboardInterrupt", "GeneratorExit"]

/-- The name is in the list. -/
def named (names : List String) (t : Text) : Bool :=
  names.any fun name => Text.ofString name == t

/-- The family of a failure. -/
def family (failure : Failure) : Family :=
  if named transportNames failure.name then .transport
  else if named exchangeNames failure.name then .exchange
  else if named clientNames failure.name then .client
  else if named interruptNames failure.name then .interrupt
  else .general

/-- Raised by the HTTP client, whatever the reason. -/
def isHttp (failure : Failure) : Bool :=
  match failure.family with
  | .transport | .exchange | .client => true
  | .interrupt | .general => false

/-- The message: what the failure was raised with; a missing key is quoted. -/
def message (failure : Failure) : Text :=
  match failure.argument with
  | none => []
  | some argument => if failure.name = "KeyError" then argument.quoted else argument

/-- The name with the library it comes from. -/
def fullName (failure : Failure) : Text :=
  if failure.isHttp then "httpx." ++ failure.name else failure.name

/-- Name and message; the name alone if the message is empty. -/
def line (failure : Failure) : Text :=
  if failure.message.isEmpty then failure.fullName
  else failure.fullName ++ ": " ++ failure.message

theorem family_interrupt {failure : Failure} (ends : failure.family = .interrupt) :
    named interruptNames failure.name = true := by
  unfold family at ends
  split at ends
  · cases ends
  split at ends
  · cases ends
  split at ends
  · cases ends
  split at ends
  · assumption
  · cases ends

end Failure

/-- A failure, and the failures that led to it. -/
inductive FailureChain
  /-- A failure with the one that caused it, and the one that was being handled when it arose. -/
  | link (failure : Failure) (cause handled : Option FailureChain)

namespace FailureChain

/-- What stands between a cause and its effect. -/
def causeBanner : Text :=
  "\n\nThe above exception was the direct cause of the following exception:\n\n"

/-- What stands between a failure and one that arose while it was handled. -/
def handledBanner : Text :=
  "\n\nDuring handling of the above exception, another exception occurred:\n\n"

/-- The failures in the order in which they arose; a cause hides what was being handled. -/
def text : FailureChain → Text
  | link failure (some cause) _ => text cause ++ causeBanner ++ failure.line
  | link failure none (some handled) => text handled ++ handledBanner ++ failure.line
  | link failure none none => failure.line

end FailureChain

end Courier
