import Outbound.Proofs.Authenticator.Issuing
import Outbound.Proofs.Throttle.Round

/-!
# What a way adds to the log

Whatever a call comes to on its way, the log only grows. What is added there depends on who stands
on the way, and everybody answers only for themselves, as long as those behind them do.

* **ways** — `Next.Adds` and `Interceptor.Adds` say of which kind the events are that are added; a
  chain adds what its interceptors and the transport do (`adds_chain`);
* **kinds** — interceptors that prepare, amend or repeat add nothing themselves (`adds_preparing`,
  `adds_amending`, `adds_repeating`);
* **credentials** — `Credential.adds` goes by what an exchange leaves, and
  `Credential.filterMap_events_call` says what is read off the log then;
* **throttles** — a round, a course and a throttle on the way of another one only add
  (`Throttle.suffix_round`, `Throttle.suffix_course`, `Throttle.adds_interceptor`).
-/

namespace Outbound

open Outbound.Time

variable {p : Event → Prop}

/-! ## Ways -/

/-- **The rest of a way adds** events of a kind to the log, and takes none away. -/
def Next.Adds (p : Event → Prop) (next : Next) : Prop :=
  ∀ (r : Request) (s : Session), s.Grows p ((next.run r).run s).2

theorem Next.Adds.of_run {next : Next} (h : next.Adds p) {r : Request} {s s' : Session}
    {outcome : Outcome} (hn : (next.run r).run s = (outcome, s')) : s.Grows p s' := by
  have hgrows := h r s
  rw [hn] at hgrows
  exact hgrows

/-- **Interceptors that add** events of a kind, as long as the rest of the way does. -/
def Interceptor.Adds (p : Event → Prop) (i : Interceptor) : Prop :=
  ∀ ⦃next : Next⦄, next.Adds p → ∀ (r : Request) (s : Session),
    s.Grows p ((i.intercept r next).run s).2

/-- **Authenticators that add** events of a kind. -/
def Authenticator.Adds (p : Event → Prop) (a : Authenticator) : Prop :=
  ∀ (r : Request) (s : Session), s.Grows p ((a.authenticate r).run s).2

/-- **The transport** is sent the call. -/
theorem Transport.adds_next (t : Transport) (hsent : ∀ q r, p (.sent .call q r)) : t.next.Adds p :=
  fun r s => .record (.refl s) (hsent s.position r)

/-- **A chain** adds what its interceptors and the transport do. -/
theorem adds_chain (t : Transport) (hsent : ∀ q r, p (.sent .call q r)) {is : List Interceptor}
    (h : ∀ i ∈ is, i.Adds p) : (chain t is).Adds p := by
  induction is with
  | nil => exact t.adds_next hsent
  | cons i is ih =>
    rw [List.forall_mem_cons] at h
    exact h.1 (ih h.2)

/-! ## Kinds -/

namespace Interceptor

variable {i : Interceptor} {name : String}

theorem Adds.recorded (h : i.Adds p) (hentered : ∀ name rest, p (.entered name rest)) :
    i.recorded.Adds p := fun _ hnext r s =>
  .trans (.record (.refl s) (hentered _ _)) (h hnext r _)

theorem adds_preparing (f : Request → Request) : (preparing name f).Adds p :=
  fun _ hnext r s => hnext (f r) s

theorem adds_amending (f : Response → Response) : (amending name f).Adds p :=
  fun _ hnext r s => hnext r s

/-- **Repeating**, by induction on how often the rest is run yet. -/
theorem grows_again {next : Next} (hnext : next.Adds p) (r : Request) (more : Nat)
    (outcome : Outcome) (s : Session) : s.Grows p ((again r next more outcome).run s).2 := by
  induction more generalizing outcome s with
  | zero => cases outcome <;> exact .refl s
  | succ more ih =>
    cases outcome with
    | response _ => exact (hnext r s).trans (ih _ _)
    | failure _ => exact .refl s
    | unfinished => exact .refl s

theorem adds_repeating (times : Nat) : (repeating name times).Adds p := fun _ hnext r s =>
  (hnext r s).trans (grows_again hnext r _ _ _)

end Interceptor

/-! ## Credentials -/

/-- **Asking** is recorded before anything else is added. -/
theorem Authenticator.Adds.of_call {a : Authenticator} (ha : a.Adds p)
    (hasking : ∀ time budget, p (.authenticating time budget)) {r : Request} {s s' : Session}
    {answer : Except Failure Unit × Request} (hc : (a.call r).run s = (answer, s')) :
    s.Grows p s' := by
  rw [run_call] at hc
  have hgrows := ha r (s.record (.authenticating s.now r.budget))
  rw [hc] at hgrows
  exact .trans (.record (.refl s) (hasking _ _)) hgrows

/-- **Credentials** add what an exchange leaves, if there is one: the stage is opened and counted,
and a token request is sent. -/
theorem Credential.adds (c : Credential) (t : Transport)
    (hopened : ∀ site, p (.opened .tokenRequest site))
    (hcounted : ∀ progress, p (.counted .tokenRequest progress))
    (hsent : ∀ q r, p (.sent .token q r)) : (c.authenticator t).Adds p := by
  refine fun r s => c.leaves_authenticate t (P := (s.Grows p ·)) r (.refl s) fun i => ?_
  rcases hv : s.validToken? with _ | token
  · rw [i.run_token_miss t hv]
    refine ⟨_, i.log_exchanged t s, fun e he => ?_⟩
    simp only [Issuer.exchangeEvents, List.mem_cons, List.not_mem_nil, or_false] at he
    rcases he with rfl | rfl | rfl | rfl
    · exact hcounted _
    · exact hsent _ _
    · exact hcounted _
    · exact hopened _
  · rw [i.token_hit t hv]
    exact .refl s

/-- **What is read off a session** is read off it when credentials have been asked for, too, where
nothing is read of asking and of an exchange. -/
theorem Credential.filterMap_events_call {α : Type} {read : Event → Option α} {a : Authenticator}
    {c : Credential} {t : Transport} (ha : a = c.authenticator t)
    (hasking : ∀ time budget, read (.authenticating time budget) = none)
    (hopened : ∀ site, read (.opened .tokenRequest site) = none)
    (hcounted : ∀ progress, read (.counted .tokenRequest progress) = none)
    (hsent : ∀ q r, read (.sent .token q r) = none) {r : Request} {s s' : Session}
    {answer : Except Failure Unit × Request} (hcall : (a.call r).run s = (answer, s')) :
    s'.events.filterMap read = s.events.filterMap read := by
  subst ha
  exact ((c.adds t hopened hcounted hsent).of_call hasking hcall).filterMap_events_eq

/-! ## Throttles -/

namespace Throttle

variable {h : Throttle} {cancellation : Option Cancellation} {next : Next} {r : Request}
  {s s' : Session}

/-- **A round only adds** to the log. -/
theorem suffix_round (ha : h.authenticator.Adds fun _ => True) (hnext : next.Adds fun _ => True)
    {result : Outcome ⊕ Request} (hround : (h.round cancellation next r).run s = (result, s')) :
    s.log <:+ s'.log := by
  have hcalled {q : Request} {s₁ s₂ : Session} {answer : Except Failure Unit × Request}
      (hc : (h.authenticator.call q).run s₁ = (answer, s₂)) : s₁.log <:+ s₂.log :=
    (ha.of_call (fun _ _ => trivial) hc).suffix
  cases rounded_of_run hround with
  | settled hn => exact (hnext.of_run hn).suffix
  | spent hn => exact (hnext.of_run hn).suffix.trans ⟨[_, _], rfl⟩
  | givenUp hn _ _ hp => exact (hnext.of_run hn).suffix.trans (grows_pause hp).1.suffix
  | refused hn _ _ hp hc =>
    exact ((hnext.of_run hn).suffix.trans (grows_pause hp).1.suffix).trans (hcalled hc)
  | resent hn _ _ hp hc =>
    exact ((hnext.of_run hn).suffix.trans (grows_pause hp).1.suffix).trans (hcalled hc)

/-- **A course only adds** to the log. By induction on the rounds. -/
theorem suffix_course (ha : h.authenticator.Adds fun _ => True) (hnext : next.Adds fun _ => True)
    (rounds : Nat) (r : Request) (s : Session) :
    s.log <:+ ((h.course cancellation next rounds r).run s).2.log := by
  induction rounds generalizing r s with
  | zero => exact List.suffix_rfl
  | succ more ih =>
    rw [course_succ]
    rcases hround : (h.round cancellation next r).run s with ⟨outcome | r', s'⟩
    · exact suffix_round ha hnext hround
    · exact (suffix_round ha hnext hround).trans (ih r' s')

/-- **A throttle on the way** of another one only adds, too. -/
theorem adds_interceptor (ha : h.authenticator.Adds fun _ => True) (rounds : Nat) :
    (h.interceptor rounds).Adds fun _ => True := by
  intro next hnext r s
  let entered := s.record (.opened .rateLimitRetry "intercept")
  have hcourse : entered.log <:+ ((h.course r.cancellation next rounds r).run entered).2.log :=
    suffix_course ha hnext rounds r entered
  obtain ⟨new, hnew⟩ := hcourse
  refine ⟨new ++ [.opened .rateLimitRetry "intercept"], ?_, fun _ _ => trivial⟩
  rw [List.append_assoc]
  exact hnew.symm

end Throttle

end Outbound
