import Outbound.Session.Basic

/-!
# Transports

A transport answers requests in the order in which it receives them: its replies are given by
number. A reply takes its time and is a response or a failure of the transport.

* **sending** — `send` hands a request over and lets the time of the reply pass;
* **waiting** — `wait` lets an interval pass, or ends at the instant at which the caller gives up;
* **scripts** — a transport whose replies are known beforehand, for rehearsing a session.
-/

namespace Outbound

open Outbound.Time

/-- **Replies.** -/
structure Reply where
  delay : Duration
  outcome : Except TransportFailure Response

/-- **Transports**, by the replies to the requests that they receive. -/
abbrev Transport := Nat → Reply

namespace Transport

/-- **Handing over a request.** Answers the reply that is now under way. -/
def dispatch (t : Transport) (purpose : Purpose) (r : Request) : Act Reply := do
  let s ← get
  Act.record (.sent purpose s.position r)
  return t s.sends

/-- **Sending a request** and awaiting the reply. -/
def send (t : Transport) (purpose : Purpose) (r : Request) : Act (Except Failure Response) := do
  let reply ← t.dispatch purpose r
  Act.pass reply.delay
  return reply.outcome.mapError .transport

end Transport

/-! ## Waiting -/

/-- **When a cancellation ends a wait** that begins at a position and would last `d`. At the very
end of the interval the wait is over first. Nothing is sent during a wait. -/
def Cancellation.during? (c : Cancellation) (d : Duration) (p : Position) : Option Instant :=
  if c.hasFired p then some p.now
  else (c.alarm.map (·.time)).filter (· < Instant.after p.now d)

/-- **Waiting**, unless the caller gives up. -/
def wait (d : Duration) (cancellation : Option Cancellation) : Act (Except Failure Unit) := do
  let s ← get
  match cancellation.bind (·.during? d s.position) with
  | some t => do
    set { s with now := t }
    return .error .cancelled
  | none => do
    Act.pass d
    return .ok ()

/-! ## Scripts -/

/-- **Scripts**: replies in order, and whether the last of them is given again and again. -/
structure Script where
  replies : List Reply
  repeatsLast : Bool

namespace Script

/-- The number of requests that a script answers. -/
def limit : Nat := 200

/-- A reply that comes at once and is a failure. -/
def failing (reason : String) : Reply := ⟨⟨0⟩, .error (.network reason)⟩

/-- The reply after the last one. It comes at once. -/
def afterwards (s : Script) : Reply :=
  match s.replies.getLast?, s.repeatsLast with
  | some reply, true => { reply with delay := ⟨0⟩ }
  | _, _ => failing "script exhausted"

/-- **The transport of a script.** -/
def transport (s : Script) : Transport := fun n =>
  if n < limit then s.replies[n]?.getD s.afterwards else failing "send limit"

end Script

end Outbound
