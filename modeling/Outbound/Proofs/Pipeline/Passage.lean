import Outbound.Proofs.Authenticator.Issuing
import Outbound.Proofs.Pipeline.Sending

/-!
# Passages

What a call passes on its way: the interceptors of the user and the transport.

* **view** — `Session.passages` reads off the log which interceptors were entered and which requests
  the transport received;
* **silence** — waits leave no passages, nor do authenticators that keep to their business
  (`Authenticator.Reticent`), as credentials do;
* **opening** — a call asks for its first credentials, and without them it passes nothing.
-/

namespace Outbound

open Outbound.Time

/-! ## Passages -/

/-- **Passages**: a request comes to an interceptor of the user, which has others behind it, or it
is received by the transport. -/
inductive Passage
  | entered (interceptor : String) (rest : List String)
  | sent (position : Position) (request : Request)
  deriving DecidableEq, Repr

namespace Passage

/-- Whether an interceptor is entered. -/
def isEntered : Passage → Bool
  | .entered .. => true
  | .sent .. => false

/-- Whether the transport receives a request. -/
def isSent (x : Passage) : Bool := !x.isEntered

end Passage

/-- The passage that an event is. A token request is none. -/
def Event.passage? : Event → Option Passage
  | .entered name rest => some (.entered name rest)
  | .sent .call position r => some (.sent position r)
  | _ => none

namespace Session

variable {s s' : Session}

/-- **The view**: the passages in the log, the first one in front. -/
def passages (s : Session) : List Passage := s.events.filterMap Event.passage?

/-- Further passages are found among the further events. -/
theorem passages_of_log {new : List Event} (h : s'.log = new ++ s.log) :
    s'.passages = s.passages ++ new.reverse.filterMap Event.passage? :=
  filterMap_events_of_log Event.passage? h

theorem passages_record (s : Session) (e : Event) :
    (s.record e).passages = s.passages ++ e.passage?.toList :=
  s.filterMap_events_record Event.passage? e

/-- **What is no passage** adds none. -/
theorem Grows.passages_eq (h : s.Grows (fun e => e.passage? = none) s') :
    s'.passages = s.passages :=
  h.filterMap_events_eq

end Session

/-- A request that is sent is one passage. -/
theorem Transport.passages_delivered (t : Transport) (r : Request) (s : Session) :
    (t.delivered r s).passages = s.passages ++ [.sent s.position r] :=
  s.passages_record _

/-- Every request that the transport receives is answered. -/
theorem Transport.answer_ne_unfinished (t : Transport) (p : Position) :
    t.answer p ≠ .unfinished := by
  rw [answer]
  rcases (t p.sends).outcome.mapError Failure.transport with _ | _ <;> exact nofun

/-- **A wait** leaves no passages, and no other failure than that it was given up. -/
theorem Throttle.passages_pause {h : Throttle} {cancellation : Option Cancellation}
    {response : Response} {r : Request} {s s' : Session} {waited : Except Failure Unit}
    (hp : (h.pause cancellation response r).run s = (waited, s')) :
    s'.passages = s.passages ∧ ∀ f, waited = .error f → f = .cancelled := by
  have hpausing : (h.pausing response r s).passages = s.passages :=
    Session.Grows.passages_eq (grows_pausing (fun _ _ => rfl) (fun _ _ _ => rfl) rfl)
  rw [run_pause, run_wait] at hp
  split at hp
  · cases hp
    refine ⟨hpausing, ?_⟩
    rintro f ⟨⟩
    rfl
  · cases hp
    exact ⟨hpausing, nofun⟩

/-! ## Authenticators -/

/-- **Reticent authenticators** enter none of the user's interceptors and send no calls. -/
def Authenticator.Reticent (a : Authenticator) : Prop :=
  ∀ (r : Request) (s : Session), ((a.authenticate r).run s).2.passages = s.passages

/-- Asking a reticent authenticator leaves no passages. -/
theorem Authenticator.Reticent.call {a : Authenticator} (ha : a.Reticent) (r : Request)
    (s : Session) :
    ((a.call r).run s).2.passages = s.passages := by
  rw [run_call, ha, Session.passages_record]
  exact List.append_nil _

/-- A look-up sends token requests at most. -/
theorem Issuer.passages_token (i : Issuer) (t : Transport) (s : Session) :
    ((i.token t).run s).2.passages = s.passages := by
  rcases hv : s.validToken? with _ | token
  · rw [i.run_token_miss t hv, Session.passages_of_log (i.log_exchanged t s)]
    exact List.append_nil _
  · rw [i.token_hit t hv]

/-- **Credentials are reticent.** -/
theorem Credential.reticent (c : Credential) (t : Transport) : (c.authenticator t).Reticent :=
  fun r s => c.leaves_authenticate t (P := (·.passages = s.passages)) r rfl
    fun i => i.passages_token t s

/-! ## Opening a call -/

namespace Pipeline

variable {p : Pipeline} {t : Transport} {r r₁ : Request} {s s₁ : Session}

/-- A call whose first credentials are refused fails at once. -/
theorem run_send_refused {f : Failure}
    (hopen : (p.authenticate (p.prepare r)).run s = ((.error f, r₁), s₁)) (rounds : Nat) :
    (p.send t rounds r).run s = (.failure f, s₁) := by
  rw [send, Act.run_bind, hopen]
  rfl

/-- With its first credentials it goes through the interceptors. -/
theorem run_send_opened (hopen : (p.authenticate (p.prepare r)).run s = ((.ok (), r₁), s₁))
    (rounds : Nat) :
    (p.send t rounds r).run s = ((chain t (p.interceptors rounds)).run r₁).run s₁ := by
  rw [send, Act.run_bind, hopen]

/-- The first credentials leave no passages. -/
theorem passages_authenticate (ha : p.authenticator.Reticent) (r : Request) (s : Session) :
    ((p.authenticate r).run s).2.passages = s.passages := by
  have hcall := ha.call r ((s.record (.opened .authenticate "pipeline_send")).record
    (.counted .authenticate .attempt))
  rw [run_authenticate]
  rcases hc : (p.authenticator.call r).run
    ((s.record (.opened .authenticate "pipeline_send")).record (.counted .authenticate .attempt))
    with ⟨⟨result, r'⟩, s'⟩
  rw [hc] at hcall
  refine (s'.passages_record _).trans ?_
  rw [hcall, Session.passages_record, Session.passages_record]
  simp [Event.passage?]

end Pipeline

end Outbound
