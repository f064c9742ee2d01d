import Outbound.Session.Transport

/-!
# Interceptors

An interceptor stands between a request and the rest of its way. It is handed the request and what
comes next, and may run the latter as often as it likes.

* **outcomes** — a response, a failure, or that the call had not come to an end when it was last
  looked at;
* **chains** — `chain` puts interceptors in front of the transport, the first one outermost;
* **kinds** — interceptors that prepare the request, that amend the response, that answer by
  themselves, and that run the rest repeatedly.
-/

namespace Outbound

/-- **Outcomes of a call.** -/
inductive Outcome
  | response (r : Response)
  | failure (f : Failure)
  | unfinished

namespace Outcome

/-- The outcome that is a response or a failure. -/
def ofExcept : Except Failure Response → Outcome
  | .ok r => .response r
  | .error f => .failure f

/-- Applies a function to a response. -/
def map (f : Response → Response) : Outcome → Outcome
  | .response r => .response (f r)
  | o => o

/-- Asks more of a response. -/
def andThen (f : Response → Except Failure Response) : Outcome → Outcome
  | .response r => ofExcept (f r)
  | o => o

end Outcome

/-- **What comes next**: the interceptors that are left, by name, and running them. -/
structure Next where
  names : List String
  run : Request → Act Outcome

/-- The rest of the way as diagnostics show it. -/
def Next.text (names : List String) : String :=
  s!"Next \x7b interceptors: {Text.quoteList names} \x7d"

/-- **Interceptors.** -/
structure Interceptor where
  name : String
  intercept : Request → Next → Act Outcome

/-- The end of every way: the transport. -/
def Transport.next (t : Transport) : Next := ⟨[], fun r => Outcome.ofExcept <$> t.send .call r⟩

/-- **Chains of interceptors**, ending in the transport. -/
def chain (t : Transport) : List Interceptor → Next
  | [] => t.next
  | i :: rest => ⟨i.name :: (chain t rest).names, fun r => i.intercept r (chain t rest)⟩

namespace Interceptor

/-- The same interceptor, which records that it is entered. -/
def recorded (i : Interceptor) : Interceptor where
  name := i.name
  intercept r next := do
    Act.record (.entered i.name next.names)
    i.intercept r next

/-- **Preparing** the request. -/
def preparing (name : String) (f : Request → Request) : Interceptor :=
  ⟨name, fun r next => next.run (f r)⟩

/-- **Amending** the response. -/
def amending (name : String) (f : Response → Response) : Interceptor :=
  ⟨name, fun r next => Outcome.map f <$> next.run r⟩

/-- **Answering** without the rest of the way. -/
def answering (name : String) (response : Response) : Interceptor :=
  ⟨name, fun _ _ => return .response response⟩

/-- Runs the rest a number of times more, up to the first outcome that is no response. -/
def again (r : Request) (next : Next) : Nat → Outcome → Act Outcome
  | more + 1, .response _ => do again r next more (← next.run r)
  | _, outcome => return outcome

/-- **Repeating** the rest of the way; the last response counts. -/
def repeating (name : String) (times : Nat) : Interceptor :=
  ⟨name, fun r next => do again r next (times - 1) (← next.run r)⟩

/-- **Compressing** the body of the request. -/
def gzip : Interceptor := preparing "gzip" Request.compress

end Interceptor

end Outbound
