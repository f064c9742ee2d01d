import Outbound.Pipeline.Throttled
import Outbound.Proofs.Session.Past

/-!
# Milestones of a call

What can be told from the log about how a call went: when credentials were asked for, where the
user's request was sent, and when a wait began and for how long.

* **view** — `Session.milestones` reads them off the log, `Session.calls` only the sends among them;
* **answers** — `Transport.answer` is the outcome that a transport has for a send;
* **order** — `itinerary` is the order in which a call that ends with its last send passes them.
-/

namespace Outbound

open Outbound.Time

/-- **Milestones**: asking for credentials, sending the user's request, beginning to wait. -/
inductive Milestone
  | asked (time : Instant)
  | sent (position : Position)
  | waiting (time : Instant) (interval : Duration)
  deriving DecidableEq, Repr

/-- The milestone that an event is. A token request is none. -/
def Event.milestone? : Event → Option Milestone
  | .authenticating time _ => some (.asked time)
  | .sent .call position _ => some (.sent position)
  | .throttled time interval _ => some (.waiting time interval)
  | _ => none

/-- **Aside**: what is neither a milestone of a call nor a token request. -/
def Event.isAside (e : Event) : Prop := e.milestone? = none ∧ e.isSend = false

/-- Where a request of the user was sent. -/
def Milestone.position? : Milestone → Option Position
  | .sent position => some position
  | _ => none

namespace Session

variable (s : Session)

/-- **The view**: the milestones in the log, the first one in front. -/
def milestones : List Milestone := s.events.filterMap Event.milestone?

/-- The positions from which the user's requests were sent. -/
def calls : List Position := s.milestones.filterMap Milestone.position?

/-- **One more event** is at most one more milestone. -/
@[simp] theorem milestones_record (e : Event) :
    (s.record e).milestones = s.milestones ++ e.milestone?.toList :=
  s.filterMap_events_record Event.milestone? e

@[simp] theorem milestones_later (d : Duration) : (s.later d).milestones = s.milestones := rfl

@[simp] theorem milestones_keep (token : Option AccessToken) :
    (s.keep token).milestones = s.milestones := rfl

/-- Further sends are found among the further milestones. -/
theorem calls_of_milestones {s s' : Session} {ms : List Milestone}
    (h : s'.milestones = s.milestones ++ ms) :
    s'.calls = s.calls ++ ms.filterMap Milestone.position? := by
  rw [calls, h, List.filterMap_append]
  rfl

/-- **As long as no call is sent**, no more sends are found. -/
theorem Grows.calls_eq {s s' : Session} (h : s.Grows (fun e => e.isSendFor .call = false) s') :
    s'.calls = s.calls := by
  obtain ⟨new, hlog, hnew⟩ := h
  have hms : s'.milestones = s.milestones ++ new.reverse.filterMap Event.milestone? :=
    filterMap_events_of_log Event.milestone? hlog
  rw [calls_of_milestones hms, List.filterMap_filterMap, List.append_right_eq_self,
    List.filterMap_eq_nil_iff]
  intro e he
  have hcall := hnew e (List.mem_reverse.mp he)
  cases e with
  | sent purpose =>
    cases purpose with
    | call => cases hcall
    | token => rfl
  | _ => rfl

end Session

/-! ## What a transport answers -/

/-- The outcome of a request of the user that is sent from a position. -/
def Transport.answer (t : Transport) (p : Position) : Outcome :=
  .ofExcept ((t p.sends).outcome.mapError .transport)

/-- Whether an outcome is a throttled answer. -/
def Outcome.isThrottled : Outcome → Bool
  | .response r => r.status = .tooManyRequests
  | _ => false

/-- The wait that an outcome asks for. Only a response can ask for one. -/
def RetryPolicy.interval (policy : RetryPolicy) : Outcome → Duration
  | .response r => (r.headers.backoff policy.defaultInterval).interval
  | _ => policy.defaultInterval

/-- When the answer to a request arrives that was sent from a position. -/
def Transport.arrival (t : Transport) (p : Position) : Instant :=
  Instant.after p.now (t p.sends).delay

/-- A transport that turns every request away, without saying when to come back. -/
def Transport.throttling : Transport := fun _ => ⟨⟨0⟩, .ok ⟨.tooManyRequests, .empty, []⟩⟩

/-- A request for a list of items. -/
def Request.ofItems : Request :=
  .new "GET" ⟨"https", some ⟨"", "", .name "api.example.com", none⟩, .segments ["v1", "items"],
    none, none⟩

/-- A throttled answer is a response of that status. -/
theorem Outcome.exists_response_of_isThrottled {o : Outcome} (h : o.isThrottled = true) :
    ∃ r, o = .response r ∧ r.status = .tooManyRequests := by
  cases o with
  | response r => exact ⟨r, rfl, of_decide_eq_true h⟩
  | failure f => cases h
  | unfinished => cases h

/-- The session in which the answer to the user's request has arrived. -/
def Transport.delivered (t : Transport) (r : Request) (s : Session) : Session :=
  (s.record (.sent .call s.position r)).later (t s.sends).delay

/-- **The end of the way** answers for the position that the request is sent from. -/
theorem Transport.run_next (t : Transport) (r : Request) (s : Session) :
    (t.next.run r).run s = (t.answer s.position, t.delivered r s) := rfl

/-- A request that is sent is one milestone. -/
theorem Transport.milestones_delivered (t : Transport) (r : Request) (s : Session) :
    (t.delivered r s).milestones = s.milestones ++ [.sent s.position] :=
  s.milestones_record _

theorem Transport.now_delivered (t : Transport) (r : Request) (s : Session) :
    (t.delivered r s).now = t.arrival s.position := rfl

/-- **The order of a call** from its first send on: up to the last one, each answer is followed by
the wait that it asks for, and as soon as this is over credentials are asked for and the request is
sent again. -/
def itinerary (policy : RetryPolicy) (t : Transport) : List Position → List Milestone
  | [] => []
  | [p] => [.sent p]
  | p :: rest =>
    .sent p :: .waiting (t.arrival p) (policy.interval (t.answer p)) ::
      .asked (Instant.after (t.arrival p) (policy.interval (t.answer p))) ::
      itinerary policy t rest

/-- A call that goes on after a send waits and asks for credentials first. -/
theorem itinerary_cons {policy : RetryPolicy} {t : Transport} {p : Position}
    {rest : List Position} (h : rest ≠ []) :
    itinerary policy t (p :: rest) =
      [.sent p, .waiting (t.arrival p) (policy.interval (t.answer p)),
        .asked (Instant.after (t.arrival p) (policy.interval (t.answer p)))] ++
      itinerary policy t rest := by
  cases rest with
  | nil => exact absurd rfl h
  | cons q rest => rfl

end Outbound
