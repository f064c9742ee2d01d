import Outbound.Message.Request
import Outbound.Throttle.Backoff
import Outbound.Trace.Stage

/-!
# Events

What a session leaves behind: the counters it moves, the spans it opens, what it logs, and what
reaches the transport.

* **times** — events that take part in the timing of a call carry their instant;
* **purposes** — a request that reaches the transport is a call of the user or a token request;
* **counting** — how often something happened is read off a list of events.
-/

namespace Outbound

open Outbound.Time

/-- What a request is sent for. -/
inductive Purpose
  | call
  | token
  deriving DecidableEq, Repr

/-- **Events.** `sent` carries the position before the request was sent. -/
inductive Event
  | opened (stage : Stage) (site : String)
  | counted (stage : Stage) (progress : Progress)
  | authenticating (time : Instant) (budget : Option RetryBudget)
  | sent (purpose : Purpose) (position : Position) (request : Request)
  | passedOver (name : HeaderName) (value : HeaderValue)
  | throttled (time : Instant) (interval : Duration) (remaining : Option Nat)
  | spent
  | entered (interceptor : String) (rest : List String)
  deriving DecidableEq, Repr

namespace Event

/-- Whether the transport received a request. -/
def isSend : Event → Bool
  | .sent .. => true
  | _ => false

/-- Whether the transport received a request of a purpose. -/
def isSendFor (purpose : Purpose) : Event → Bool
  | .sent p .. => p == purpose
  | _ => false

/-- When the transport received a request. -/
def sendTime? : Event → Option Instant
  | .sent _ p _ => some p.now
  | _ => none

/-- Whether credentials were asked for. -/
def isAuthenticating : Event → Bool
  | .authenticating .. => true
  | _ => false

/-- Whether a wait began. -/
def isThrottled : Event → Bool
  | .throttled .. => true
  | _ => false

/-- The events that a backoff leaves: a header that was passed over. -/
def ofBackoff (b : Backoff) : List Event :=
  b.ignored.toList.map fun (name, value) => .passedOver name value

end Event

/-! ## Log lines -/

/-- How much a log line matters. -/
inductive LogLevel
  | debug
  | warn
  deriving DecidableEq, Repr

/-- The label of a level. -/
def LogLevel.label : LogLevel → String
  | .debug => "debug"
  | .warn => "warn"

/-- **Log lines**: a message, and fields by name. -/
structure LogLine where
  level : LogLevel
  message : String
  fields : List (String × String)
  deriving DecidableEq, Repr

/-- **The log line of an event**, if it is logged as text. Intervals are in milliseconds, of which
64 bits are shown. -/
def Event.logLine? : Event → Option LogLine
  | .passedOver name value =>
    some ⟨.warn, "Ignoring unusable backoff header; using the default interval.",
      [("header", name.text), ("value", s!"Some({value.quoted})")]⟩
  | .throttled _ interval remaining =>
    some ⟨.debug, "Throttled; waiting before resending.",
      [("interval_ms", toString (interval.wholeMillis % (1 <<< 64))),
        ("remaining", RetryBudget.text ⟨remaining⟩)]⟩
  | .spent => some ⟨.debug, "Retry budget exhausted; returning the throttled response.", []⟩
  | _ => none

end Outbound
