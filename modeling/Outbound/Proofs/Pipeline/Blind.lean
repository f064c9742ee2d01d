import Outbound.Proofs.Authenticator.Issuing

/-!
# Who does not look at cancellations

A request carries its cancellation all the way, but only a wait is meant to look at it. What an
action does without looking is the same whatever cancellations there are; this is said of two runs,
which are compared as somebody sees them to whom cancellations are invisible.

* **view** — `Request.bare`, `Event.bare` and `Session.bare` leave the cancellations out; what they
  leave alone is told by the lemmas `*_bare`;
* **runs** — `Agree` compares two runs, `Act.Alike` two actions from all sessions that look the
  same; actions that are alike can be sequenced (`Act.Alike.bind`);
* **parts** — authenticators, interceptors and the rest of the way are `Blind` if they answer alike
  to requests that look the same. Every credential is (`Credential.blind`), and so is every chain of
  blind interceptors (`blind_chain`).
-/

namespace Outbound

open Outbound.Time

/-! ## Leaving the cancellations out -/

/-- **A request by itself**, without the cancellation that it carries. -/
def Request.bare (r : Request) : Request := { r with cancellation := none }

/-- The request with a cancellation to carry. -/
def Request.carrying (r : Request) (c : Cancellation) : Request := { r with cancellation := some c }

/-- An event without the cancellation of the call. Token requests never had any. -/
def Event.bare : Event → Event
  | .sent .call p r => .sent .call p r.bare
  | e => e

/-- **A session by itself**: in its log no call carries a cancellation. -/
def Session.bare (s : Session) : Session := { s with log := s.log.map Event.bare }

namespace Request

variable (r : Request)

@[simp] theorem bare_carrying (c : Cancellation) : (r.carrying c).bare = r.bare := rfl

@[simp] theorem budget_bare : r.bare.budget = r.budget := rfl

end Request

namespace Event

variable (e : Event)

@[simp] theorem isSend_bare : e.bare.isSend = e.isSend := by
  cases e with
  | sent purpose => cases purpose <;> rfl
  | _ => rfl

@[simp] theorem sendTime?_bare : e.bare.sendTime? = e.sendTime? := by
  cases e with
  | sent purpose => cases purpose <;> rfl
  | _ => rfl

end Event

namespace Session

variable (s : Session)

@[simp] theorem now_bare : s.bare.now = s.now := rfl

@[simp] theorem validToken?_bare : s.bare.validToken? = s.validToken? := rfl

@[simp] theorem bare_record (e : Event) : (s.record e).bare = s.bare.record e.bare := rfl

@[simp] theorem bare_later (d : Duration) : (s.later d).bare = s.bare.later d := rfl

@[simp] theorem sends_bare : s.bare.sends = s.sends := by
  rw [sends, bare, List.countP_map]
  exact List.countP_congr fun e _ => by simp

@[simp] theorem lastSend_bare : s.bare.lastSend = s.lastSend := by
  rw [lastSend, bare, List.findSome?_map]
  congr 1
  funext e
  exact e.sendTime?_bare

/-- **The position** does not depend on cancellations. -/
@[simp] theorem position_bare : s.bare.position = s.position := by
  rw [position, position, now_bare, sends_bare, lastSend_bare]

variable {s} {s' : Session}

/-- Sessions that look the same have come to the same position. -/
theorem position_of_bare (h : s.bare = s'.bare) : s.position = s'.position := by
  rw [← s.position_bare, h, position_bare]

end Session

/-! ## Comparing two runs -/

section Agree

variable {α β γ δ : Type}

/-- **Two runs agree**: the answers have the same view, and the sessions look the same. -/
def Agree (view : α → β) (x y : α × Session) : Prop :=
  view x.1 = view y.1 ∧ x.2.bare = y.2.bare

/-- Runs that agree on all of the answer have the same one. -/
theorem Agree.exists_eq {x y : α × Session} (h : Agree id x y) :
    ∃ a s s', x = (a, s) ∧ y = (a, s') ∧ s.bare = s'.bare :=
  ⟨x.1, x.2, y.2, rfl, Prod.ext h.1.symm rfl, h.2⟩

/-- **Two actions are alike** if they agree from all sessions that look the same. -/
def Act.Alike (view : α → β) (x y : Act α) : Prop :=
  ∀ ⦃s s' : Session⦄, s.bare = s'.bare → Agree view (x.run s) (y.run s')

namespace Act.Alike

variable {view : α → β} {view' : γ → δ} {x y : Act α}

theorem pure {a b : α} (h : view a = view b) : Act.Alike view (pure a : Act α) (pure b) :=
  fun _ _ hs => ⟨h, hs⟩

/-- **Sequencing** actions that are alike. -/
theorem bind (h : Act.Alike view x y) {f g : α → Act γ}
    (hf : ∀ a b, view a = view b → Act.Alike view' (f a) (g b)) :
    Act.Alike view' (x >>= f) (y >>= g) := by
  intro s s' hs
  obtain ⟨ha, hs'⟩ := h hs
  exact hf _ _ ha hs'

theorem map (h : Act.Alike id x y) (f : α → γ) : Act.Alike id (f <$> x) (f <$> y) := by
  intro s s' hs
  obtain ⟨ha, hs'⟩ := h hs
  exact ⟨congrArg f ha, hs'⟩

/-- **Recording** one event, or two that look the same. -/
theorem record {e e' : Event} (h : e.bare = e'.bare) :
    Act.Alike id (Act.record e) (Act.record e') := by
  intro s s' hs
  refine ⟨rfl, ?_⟩
  rw [run_record, run_record, Session.bare_record, Session.bare_record, hs, h]

/-- An action that goes the same way when the cancellations have been left out before. -/
theorem of_run_bare (h : ∀ s : Session, x.run s.bare = Prod.map id Session.bare (x.run s)) :
    Act.Alike id x x := by
  intro s s' hs
  have hrun : Prod.map id Session.bare (x.run s) = Prod.map id Session.bare (x.run s') := by
    rw [← h s, hs, h s']
  exact Prod.ext_iff.mp hrun

end Act.Alike

end Agree

/-! ## Blind authenticators -/

/-- **Blind authenticators** do not look at cancellations. -/
def Authenticator.Blind (a : Authenticator) : Prop :=
  ∀ ⦃r r' : Request⦄, r.bare = r'.bare →
    Act.Alike (Prod.map id Request.bare) (a.authenticate r) (a.authenticate r')

/-- **Asking a blind authenticator**: only the budget is recorded. -/
theorem Authenticator.Blind.call {a : Authenticator} (ha : a.Blind) {r r' : Request}
    (hr : r.bare = r'.bare) :
    Act.Alike (Prod.map id Request.bare) (a.call r) (a.call r') := by
  intro s s' hs
  have hbudget : r.budget = r'.budget := by rw [← r.budget_bare, hr, Request.budget_bare]
  have hnow : s.now = s'.now := by rw [← s.now_bare, hs, Session.now_bare]
  rw [Authenticator.run_call, Authenticator.run_call, hbudget, hnow]
  refine ha hr ?_
  rw [Session.bare_record, Session.bare_record, hs]

namespace Issuer

variable (i : Issuer) (t : Transport) (s : Session)

theorem bare_asked : (i.asked s).bare = i.asked s.bare := by
  let before := (s.record (.opened .tokenRequest "iam_token")).record
    (.counted .tokenRequest .attempt)
  change before.bare.record (.sent .token before.position i.request) =
    before.bare.record (.sent .token before.bare.position i.request)
  rw [before.position_bare]

theorem bare_exchanged : (i.exchanged t s).bare = i.exchanged t s.bare := by
  rw [exchanged_eq, exchanged_eq, Session.sends_bare, Session.position_bare, ← bare_asked]
  cases t.tokenReply s.position <;> rfl

/-- **Looking up a token** takes no notice of calls. -/
theorem run_token_bare : (i.token t).run s.bare = Prod.map id Session.bare ((i.token t).run s) := by
  rcases hv : s.validToken? with _ | token
  · rw [i.run_token_miss t hv, i.run_token_miss t (s.validToken?_bare.trans hv),
      Session.position_bare, ← bare_exchanged]
    rfl
  · rw [i.token_hit t hv, i.token_hit t (s.validToken?_bare.trans hv)]
    rfl

end Issuer

namespace Credential

variable (c : Credential) (t : Transport)

theorem alike_header : Act.Alike id (c.header t) (c.header t) := by
  cases c with
  | basic value => exact .pure rfl
  | bearer token => exact .pure rfl
  | noAuth => exact .pure rfl
  | iam issuer =>
    refine (Act.Alike.of_run_bare (issuer.run_token_bare t)).bind fun a b hab => ?_
    obtain rfl : a = b := hab
    cases a <;> exact .pure rfl

/-- **Credentials are blind**: what is written does not depend on the request. -/
theorem blind : (c.authenticator t).Blind := by
  intro r r' hr
  refine (c.alike_header t).bind fun a b hab => ?_
  obtain rfl : a = b := hab
  rcases a with failure | _ | value
  · exact .pure (Prod.ext rfl hr)
  · exact .pure (Prod.ext rfl hr)
  · refine .pure (Prod.ext rfl ?_)
    exact congrArg (Request.authorize · value) hr

end Credential

/-! ## Blind interceptors -/

/-- **The rest of a way is blind** if it does not look at cancellations. -/
def Next.Blind (next : Next) : Prop :=
  ∀ ⦃r r' : Request⦄, r.bare = r'.bare → Act.Alike id (next.run r) (next.run r')

/-- **Blind interceptors** do not look at cancellations, as long as the rest of the way does not. -/
def Interceptor.Blind (i : Interceptor) : Prop :=
  ∀ ⦃next : Next⦄, next.Blind → ∀ ⦃r r' : Request⦄, r.bare = r'.bare →
    Act.Alike id (i.intercept r next) (i.intercept r' next)

/-- **The transport** answers by number. -/
theorem Transport.blind_next (t : Transport) : t.next.Blind := by
  intro r r' hr s s' hs
  have hp : s.position = s'.position := Session.position_of_bare hs
  rw [t.run_next, t.run_next, hp]
  refine ⟨rfl, ?_⟩
  have hsends : s.sends = s'.sends := congrArg Position.sends hp
  rw [delivered, delivered, hp, hsends, Session.bare_later, Session.bare_later,
    Session.bare_record, Session.bare_record, hs, Event.bare, Event.bare, hr]

/-- **A chain** of blind interceptors is blind. -/
theorem blind_chain (t : Transport) {is : List Interceptor} (h : ∀ i ∈ is, i.Blind) :
    (chain t is).Blind := by
  induction is with
  | nil => exact t.blind_next
  | cons i is ih =>
    rw [List.forall_mem_cons] at h
    exact h.1 (ih h.2)

namespace Interceptor

variable {i : Interceptor} {name : String}

theorem Blind.recorded (h : i.Blind) : i.recorded.Blind := fun _ hnext _ _ hr =>
  (Act.Alike.record rfl).bind fun _ _ _ => h hnext hr

/-- **Preparing** requests without looking at their cancellations. -/
theorem blind_preparing {f : Request → Request} (hf : ∀ r, (f r).bare = f r.bare) :
    (preparing name f).Blind := fun _ hnext r r' hr => hnext (by rw [hf, hr, hf])

theorem blind_amending (f : Response → Response) : (amending name f).Blind :=
  fun _ hnext _ _ hr => (hnext hr).map _

/-- **Repeating**, by induction on how often the rest is run yet. -/
theorem alike_again {next : Next} (hnext : next.Blind) {r r' : Request} (hr : r.bare = r'.bare)
    (more : Nat) (outcome : Outcome) :
    Act.Alike id (again r next more outcome) (again r' next more outcome) := by
  induction more generalizing outcome with
  | zero => cases outcome <;> exact .pure rfl
  | succ more ih =>
    cases outcome with
    | response _ =>
      refine (hnext hr).bind fun a b hab => ?_
      obtain rfl : a = b := hab
      exact ih a
    | failure _ => exact .pure rfl
    | unfinished => exact .pure rfl

theorem blind_repeating (times : Nat) : (repeating name times).Blind := by
  intro next hnext r r' hr
  refine (hnext hr).bind fun a b hab => ?_
  obtain rfl : a = b := hab
  exact alike_again hnext hr _ a

end Interceptor

end Outbound
