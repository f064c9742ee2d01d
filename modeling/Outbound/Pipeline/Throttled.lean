import Outbound.Authenticator.Basic
import Outbound.Pipeline.Interceptor
import Outbound.Throttle.Policy

/-!
# Throttled calls

A service that turns a call away because of its rate says when to come back. The call then waits,
gets fresh credentials, and is sent again, as long as its budget lasts.

* **budget** — a call without one gets one from the policy when it is first throttled; one that the
  caller attached is used as it is, whatever the policy says;
* **verdict** — after a throttled answer the call is delivered, given up, or sent again;
* **course** — the requests of a call that were handed on, in order, and its outcome. The number of
  rounds that are looked at is a parameter, since a call without a bound need not end.
-/

namespace Outbound

open Outbound.Time

/-- **What to do about throttled answers**, and with whose credentials to send again. -/
structure Throttle where
  authenticator : Authenticator
  policy : RetryPolicy

/-- **After a throttled answer**: the answer is the outcome, the call failed, or it is sent again.
-/
inductive Verdict
  | deliver
  | giveUp (f : Failure)
  | resend (r : Request)

/-- **The course of a call.** -/
structure Course where
  handed : List Request
  outcome : Outcome

namespace Throttle

variable (h : Throttle)

/-- **Taking an attempt** from the budget of a request, if it has one. Answers whether another send
is allowed. -/
def take (r : Request) : Bool × Request :=
  match r.budget with
  | none => (h.policy.maxRetries ≠ some 0, r)
  | some budget => (budget.consume.1, r.withBudget budget.consume.2)

/-- The request with the budget of the policy, unless it had one before the answer. -/
def equip (before r : Request) : Request :=
  if before.budget.isNone then r.withBudget ⟨h.policy.maxRetries⟩ else r

/-- **The wait** before a request is sent again, and what is recorded of it. -/
def pause (cancellation : Option Cancellation) (response : Response) (r : Request) :
    Act (Except Failure Unit) := do
  let backoff := response.headers.backoff h.policy.defaultInterval
  (Event.ofBackoff backoff).forM Act.record
  Act.record (.throttled (← Act.now) backoff.interval (r.budget.bind (·.remaining)))
  Act.record (.counted .rateLimitRetry .attempt)
  wait backoff.interval cancellation

/-- **Dealing with a throttled answer** to a request. -/
def resume (cancellation : Option Cancellation) (response : Response) (r : Request) :
    Act Verdict := do
  match h.take r with
  | (false, _) => do
    Act.record .spent
    Act.record (.counted .rateLimitRetry .failure)
    return .deliver
  | (true, left) => do
    match ← h.pause cancellation response left with
    | .error f => return .giveUp f
    | .ok () =>
      match ← h.authenticator.call (h.equip r left) with
      | (.ok (), r) => return .resend r
      | (.error f, _) => return .giveUp f

/-- **The course of a call**, in at most so many rounds. -/
def course (cancellation : Option Cancellation) (next : Next) : Nat → Request → Act Course
  | 0, _ => return ⟨[], .unfinished⟩
  | more + 1, r => do
    match ← next.run r with
    | .response response =>
      if response.status = .tooManyRequests then
        match ← h.resume cancellation response r with
        | .deliver => return ⟨[r], .response response⟩
        | .giveUp f => return ⟨[r], .failure f⟩
        | .resend r' => do
          let rest ← course cancellation next more r'
          return ⟨r :: rest.handed, rest.outcome⟩
      else return ⟨[r], .response response⟩
    | outcome => return ⟨[r], outcome⟩

/-- **The interceptor.** The cancellation is that of the request as it comes in. -/
def interceptor (rounds : Nat) : Interceptor where
  name := "rate_limit_retry"
  intercept r next := do
    Act.record (.opened .rateLimitRetry "intercept")
    return (← h.course r.cancellation next rounds r).outcome

/-- The interceptor as diagnostics show it. -/
def text : String :=
  s!"RateLimitRetryInterceptor \x7b authenticator: {h.authenticator.kind.identifier}, " ++
    s!"config: {h.policy.text} \x7d"

end Throttle

end Outbound
