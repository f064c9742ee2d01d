import Outbound.Proofs.Authenticator.Conduct

/-!
# Credentials of an issuer

What happens when a request gets the token of an issuer: the kept one, while it is valid, or one
that is brought by a token request. All of it can be told from the log and from the replies of the
transport.

* **exchanges** — `Transport.tokenReply` is what a token request comes to, `Event.issued?` the token
  that it brings; `run_token_miss` says what a look-up does that finds nothing valid, and
  `log_exchanged`, `kept_exchanged` and `now_exchanged` what becomes of the session;
* **bearing** — `Request.bear` writes a token into the request, which then has no other value for
  its authorization (`values_bear`);
* **cases** — `call_iam_cases` is the inversion of asking for credentials: a hit, a token that is
  brought, a reply without one.
-/

namespace Outbound

open Outbound.Time

/-! ## Exchanges in the log -/

/-- **What a token request comes to** that is sent from a position, when its reply arrives. -/
def Transport.tokenReply (t : Transport) (p : Position) : Except Failure AccessToken :=
  Issuer.tokenOfOutcome (t p.sends).outcome (t.arrival p)

/-- **The token that an event brings**, if it is a token request and the reply holds one. -/
def Event.issued? (t : Transport) : Event → Option AccessToken
  | .sent .token p _ => (t.tokenReply p).toOption
  | _ => none

/-- The position and the request, if an event is a token request. -/
def Event.tokenRequest? : Event → Option (Position × Request)
  | .sent .token p r => some (p, r)
  | _ => none

/-- **The view**: the token requests in the log, the first one in front. -/
def Session.tokenRequests (s : Session) : List (Position × Request) :=
  s.events.filterMap Event.tokenRequest?

/-- Further token requests are found among the further events. -/
theorem Session.tokenRequests_of_log {s s' : Session} {new : List Event}
    (h : s'.log = new ++ s.log) :
    s'.tokenRequests = s.tokenRequests ++ new.reverse.filterMap Event.tokenRequest? :=
  filterMap_events_of_log Event.tokenRequest? h

namespace Issuer

variable (i : Issuer) (t : Transport) (s : Session)

/-- **The session after an exchange.** -/
def exchanged : Session := settled (t s.sends).outcome ((i.asked s).later (t s.sends).delay)

variable {s} in
/-- **A miss** answers what the request comes to that it sends. -/
theorem run_token_miss (h : s.validToken? = none) :
    (i.token t).run s = (t.tokenReply s.position, i.exchanged t s) := by
  rw [i.token_miss t h, run_exchange, run_settle]
  rfl

theorem exchanged_eq :
    i.exchanged t s =
      let arrived := (i.asked s).later (t s.sends).delay
      match t.tokenReply s.position with
      | .ok token => (arrived.record (.counted .tokenRequest .success)).keep (some token)
      | .error _ => arrived.record (.counted .tokenRequest .failure) := rfl

/-- **What an exchange leaves in the log** if the request is sent from a position. -/
def exchangeEvents (p : Position) : List Event :=
  [.counted .tokenRequest (.ofResult (t.tokenReply p)), .sent .token p i.request,
    .counted .tokenRequest .attempt, .opened .tokenRequest "iam_token"]

theorem log_exchanged : (i.exchanged t s).log = i.exchangeEvents t s.position ++ s.log := by
  rw [exchanged_eq, exchangeEvents]
  cases t.tokenReply s.position <;> rfl

/-- The token that an exchange brings is found in the log. -/
theorem findSome?_exchangeEvents (p : Position) :
    (i.exchangeEvents t p).findSome? (Event.issued? t) = (t.tokenReply p).toOption := by
  simp only [exchangeEvents, List.findSome?_cons, Event.issued?]
  cases (t.tokenReply p).toOption <;> rfl

/-- An exchange is no milestone of a call. -/
theorem milestone?_of_mem_exchangeEvents {p : Position} {e : Event}
    (h : e ∈ i.exchangeEvents t p) : e.milestone? = none := by
  simp only [exchangeEvents, List.mem_cons, List.not_mem_nil, or_false] at h
  rcases h with rfl | rfl | rfl | rfl <;> rfl

/-- **What is kept after an exchange**: the token that it brings, or else what was kept. -/
theorem kept_exchanged :
    (i.exchanged t s).kept = (t.tokenReply s.position).toOption.or s.kept := by
  rw [exchanged_eq]
  cases t.tokenReply s.position <;> rfl

/-- An exchange takes the time of its reply. -/
theorem now_exchanged : (i.exchanged t s).now = t.arrival s.position := now_settled _

end Issuer

/-! ## Bearing a token -/

/-- **A request that bears a token**, or the failure that the token cannot stand in a header. -/
def Request.bear (r : Request) (token : AccessToken) : Except Failure Unit × Request :=
  match bearerValue token with
  | .ok value => (.ok (), r.authorize value)
  | .error cause => (.error (.config cause), r)

/-- **What stands in the request**: the bearer scheme with the token, as a sensitive value. -/
def AccessToken.bearer (token : AccessToken) : HeaderValue :=
  ⟨Text.Utf8.bytes ("Bearer " ++ token.text), true⟩

/-- **One value**: a token takes the place of all that stood there for the authorization. -/
theorem Request.values_bear {r r' : Request} {token : AccessToken}
    (h : r.bear token = (.ok (), r')) : r'.headers.values .authorization = [token.bearer] := by
  rw [bear, bearerValue, authorizationValue, HeaderValue.ofString?, HeaderValue.parse?] at h
  by_cases hlegal : (Text.Utf8.bytes ("Bearer " ++ token.text)).all HeaderValue.isLegal
  · simp only [hlegal, if_true] at h
    obtain rfl := (Prod.mk.inj h).2
    exact Headers.values_insert_self
  · simp [hlegal] at h

namespace Credential

variable (i : Issuer) (t : Transport) (r : Request) (s : Session)

/-- **Authenticating** with an issuer writes the token that a look-up answers. -/
theorem run_authenticate_iam :
    ((Credential.iam i).authenticate t r).run s =
      match (i.token t).run s with
      | (.ok token, s') => (r.bear token, s')
      | (.error f, s') => ((.error f, r), s') := by
  rw [run_authenticate, header, Act.run_bind]
  rcases (i.token t).run s with ⟨f | token, s'⟩
  · rfl
  · simp only [Act.run_pure, Request.bear]
    cases bearerValue token <;> rfl

/-- **Authenticating** leaves the session as a look-up does. -/
theorem session_authenticate_iam :
    (((Credential.iam i).authenticate t r).run s).2 = ((i.token t).run s).2 := by
  rw [run_authenticate_iam]
  rcases (i.token t).run s with ⟨_ | _, s'⟩ <;> rfl

/-- **Asking an issuer for credentials.** The asking is recorded. Then a kept token is valid and is
written into the request; or a token request brings one, which is written; or it brings none. -/
theorem call_iam_cases :
    let s₀ := s.record (.authenticating s.now r.budget)
    let run := (((Credential.iam i).authenticator t).call r).run s
    (∃ token, s.kept = some token ∧ token.isValidAt s.now ∧ run = (r.bear token, s₀)) ∨
    (∃ token, t.tokenReply s₀.position = .ok token ∧ run = (r.bear token, i.exchanged t s₀)) ∨
    ∃ f, t.tokenReply s₀.position = .error f ∧ run = ((.error f, r), i.exchanged t s₀) := by
  intro s₀ run
  have hrun : run = _ := (Authenticator.run_call r s).trans (run_authenticate_iam i t r s₀)
  rcases hv : s₀.validToken? with _ | token
  · rw [i.run_token_miss t hv] at hrun
    rcases hreply : t.tokenReply s₀.position with f | token
    · rw [hreply] at hrun
      exact .inr (.inr ⟨f, rfl, hrun⟩)
    · rw [hreply] at hrun
      exact .inr (.inl ⟨token, rfl, hrun⟩)
  · rw [i.token_hit t hv] at hrun
    obtain ⟨hkept, hvalid⟩ := Session.validToken?_eq_some.mp hv
    exact .inl ⟨token, hkept, hvalid, hrun⟩

end Credential

end Outbound
