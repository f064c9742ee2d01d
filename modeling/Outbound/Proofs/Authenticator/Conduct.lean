import Outbound.Authenticator.Credential
import Outbound.Proofs.Throttle.Milestone
import Outbound.Proofs.Token.Exchange

/-!
# How authenticators behave

What calls may rely on when they ask for credentials.

* **discreet** — of a request only the headers change, and no milestone of a call is left behind;
* **obliging** — credentials are never refused;
* **credentials** — every credential writes at most the authorization header, and is discreet.
-/

namespace Outbound

open Outbound.Time

namespace Authenticator

/-- **Discreet authenticators** keep to their contract: they add or overwrite headers of the
request, and what they do besides is no milestone of the call. -/
structure Discreet (a : Authenticator) : Prop where
  request (r : Request) (s : Session) : ∃ headers : Headers,
    ((a.authenticate r).run s).1.2 = { r with headers }
  milestones (r : Request) (s : Session) :
    ((a.authenticate r).run s).2.milestones = s.milestones

/-- **Obliging authenticators** always succeed. -/
def Obliging (a : Authenticator) : Prop :=
  ∀ (r : Request) (s : Session), ((a.authenticate r).run s).1.1 = .ok ()

variable {a : Authenticator}

/-- **Asking** is recorded before anything else happens. -/
theorem run_call (r : Request) (s : Session) :
    (a.call r).run s =
      (a.authenticate r).run (s.record (.authenticating s.now r.budget)) := rfl

/-- Asking a discreet authenticator is one milestone. -/
theorem Discreet.milestones_call (ha : a.Discreet) (r : Request) (s : Session) :
    ((a.call r).run s).2.milestones = s.milestones ++ [.asked s.now] := by
  rw [run_call, ha.milestones, Session.milestones_record]
  rfl

/-- **Asking an obliging and discreet authenticator** answers the request with other headers. -/
theorem Discreet.run_call_of_obliging (ha : a.Discreet) (ho : a.Obliging) (r : Request)
    (s : Session) :
    ∃ (headers : Headers) (s' : Session),
      (a.call r).run s = ((.ok (), { r with headers }), s') ∧
        s'.milestones = s.milestones ++ [.asked s.now] := by
  obtain ⟨headers, hr⟩ := ha.request r (s.record (.authenticating s.now r.budget))
  have hok := ho r (s.record (.authenticating s.now r.budget))
  refine ⟨headers, ((a.call r).run s).2, ?_, ha.milestones_call r s⟩
  rw [run_call]
  exact Prod.ext (Prod.ext hok hr) rfl

end Authenticator

/-! ## Credentials -/

/-- A token request is no milestone of the call that needs the token. -/
theorem Issuer.milestones_token (i : Issuer) (t : Transport) (s : Session) :
    ((i.token t).run s).2.milestones = s.milestones := by
  rcases hv : s.validToken? with _ | token
  · rw [i.token_miss t hv, run_exchange, run_settle]
    unfold settled
    split <;> simp [asked, Event.milestone?]
  · rw [i.token_hit t hv]

namespace Credential

variable (c : Credential) (t : Transport)

/-- **Authenticating** passes on what the credential writes. -/
theorem run_authenticate (r : Request) (s : Session) :
    (c.authenticate t r).run s =
      match (c.header t).run s with
      | (.ok (some value), s') => ((.ok (), r.authorize value), s')
      | (.ok none, s') => ((.ok (), r), s')
      | (.error failure, s') => ((.error failure, r), s') := by
  rw [authenticate, Act.run_bind]
  rcases (c.header t).run s with ⟨_ | _ | _, s'⟩ <;> rfl

/-- **What credentials leave behind** is what a look-up for a token leaves, if anything. -/
theorem leaves_authenticate {P : Session → Prop} (r : Request) {s : Session} (hs : P s)
    (ht : ∀ i : Issuer, P ((i.token t).run s).2) : P ((c.authenticate t r).run s).2 := by
  rw [run_authenticate]
  cases c with
  | basic value => exact hs
  | bearer token =>
    rw [header]
    cases bearerValue token <;> exact hs
  | iam issuer =>
    have htoken := ht issuer
    rw [header, Act.run_bind]
    rcases hi : (issuer.token t).run s with ⟨f | token, s'⟩
    · rw [hi] at htoken
      exact htoken
    · rw [hi] at htoken
      simp only [Act.run_pure]
      cases bearerValue token <;> exact htoken
  | noAuth => exact hs

/-- **What credentials change**: at most the authorization of the request. -/
theorem request_authenticate (r : Request) (s : Session) :
    ((c.authenticate t r).run s).1.2 = r ∨
      ∃ value, ((c.authenticate t r).run s).1.2 = r.authorize value := by
  rw [run_authenticate]
  rcases (c.header t).run s with ⟨_ | _ | value, s'⟩
  · exact .inl rfl
  · exact .inl rfl
  · exact .inr ⟨value, rfl⟩

/-- **Credentials are discreet.** -/
theorem discreet : (c.authenticator t).Discreet where
  request r s := by
    rcases c.request_authenticate t r s with hr | ⟨value, hr⟩
    · exact ⟨r.headers, hr⟩
    · exact ⟨(r.authorize value).headers, hr⟩
  milestones r s := c.leaves_authenticate t (P := (·.milestones = s.milestones)) r rfl
    fun i => i.milestones_token t s

end Credential

end Outbound
