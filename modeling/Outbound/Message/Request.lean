import Outbound.Failure
import Outbound.Message.Body
import Outbound.Message.Header
import Outbound.Message.Status
import Outbound.Throttle.Budget
import Outbound.Url.Parser

/-!
# Requests and responses

A request with the state of the call it belongs to, and a response.

* **call state** — a retry budget, once the call has been throttled or if the caller attached one,
  and a cancellation, if the caller wants to be able to give up waiting;
* **cancellation** — what makes it fire is part of its value, so whether it has fired is a question
  about the position in the session.
-/

namespace Outbound

open Outbound.Time

/-- **Positions** in a session: the time, the number of requests that were sent so far, and when the
last of them was sent. -/
structure Position where
  now : Instant
  sends : Nat
  lastSend : Option Instant
  deriving DecidableEq, Repr

/-- **Alarms**: the time for which one is set, and the number of requests that were sent before it
was set. -/
structure Alarm where
  time : Instant
  sends : Nat
  deriving DecidableEq, Repr

/-- **Whether an alarm has rung.** Who arrives at the very time of an alarm goes on first: then it
rings with the next request that is sent. -/
def Alarm.hasRung (a : Alarm) (p : Position) : Bool :=
  a.time < p.now || (a.time == p.now && p.lastSend == some p.now && a.sends < p.sends)

/-- **Cancellations**, by what makes them fire: that they have fired already, an alarm, or the
transport's having received a number of sends. The first of these counts. -/
structure Cancellation where
  fired : Bool
  alarm : Option Alarm
  send : Option Nat
  deriving DecidableEq, Repr

namespace Cancellation

/-- A cancellation that nothing makes fire yet. -/
def pending : Cancellation := ⟨false, none, none⟩

/-- A cancellation that has fired. -/
def already : Cancellation := ⟨true, none, none⟩

/-- **The cancellation of a call** that begins at a position: it may have fired before, fire some
time later, or with one of the sends of the call, which are counted from one. -/
def ofCall (p : Position) (before : Bool) (later : Option Duration) (send : Option Nat) :
    Cancellation :=
  ⟨before, later.map fun d => ⟨Instant.after p.now d, p.sends⟩,
    (send.filter (0 < ·)).map (p.sends + ·)⟩

/-- Whether a cancellation has fired. -/
def hasFired (c : Cancellation) (p : Position) : Bool :=
  c.fired || c.alarm.any (·.hasRung p) || c.send.any (· ≤ p.sends)

end Cancellation

/-- **Requests.** -/
structure Request where
  method : String
  url : Url
  headers : Headers
  body : Body
  budget : Option RetryBudget
  cancellation : Option Cancellation
  deriving DecidableEq, Repr

namespace Request

/-- A request without headers or body. -/
def new (method : String) (url : Url) : Request :=
  ⟨method, url, .empty, .empty, none, none⟩

/-- Sets a header, replacing the values it has. -/
def withHeader (r : Request) (name : HeaderName) (v : HeaderValue) : Request :=
  { r with headers := r.headers.insert name v }

/-- Replaces the body. -/
def withBody (r : Request) (body : Body) : Request := { r with body }

/-- Attaches a retry budget. -/
def withBudget (r : Request) (budget : RetryBudget) : Request := { r with budget := some budget }

/-- Sets the credentials, replacing any that are there, as a sensitive value. -/
def authorize (r : Request) (v : HeaderValue) : Request :=
  r.withHeader .authorization v.asSensitive

/-- **Compressing.** A request with bytes in its body and no encoding of its own gets a compressed
body, says so, and no longer states a length. Every other request stays as it is. -/
def compress (r : Request) : Request :=
  if r.headers.contains .contentEncoding then r
  else match r.body with
  | .bytes (b :: bs) =>
    { r with
      headers := (r.headers.insert .contentEncoding (.ofText "gzip")).erase .contentLength
      body := .gzip (b :: bs) }
  | _ => r

end Request

/-- **Responses.** -/
structure Response where
  status : Status
  headers : Headers
  body : List UInt8
  deriving DecidableEq, Repr, Inhabited

/-- **Successful or a failure.** A response outside the success range becomes a service failure. -/
def Response.successful (r : Response) : Except Failure Response :=
  if r.status.isSuccess then .ok r
  else .error (.service ⟨r.status.code, r.status.phrase, r.body⟩)

end Outbound
