import Outbound.Proofs.Authenticator.Issuing
import Outbound.Proofs.Token.Sharing

/-!
# What credentials write

What a credential puts into a request, and when it refuses to.

* **offering** — the token that a credential has to offer (`Offers`): the caller's own, or the one
  that a look-up answers;
* **writing** — `Writes` says what stands for the authorization of a request that has been
  authorized; everything else is as it was (`authorized_of_authenticate`);
* **refusing** — a token can be offered that cannot stand in a header. Nothing looks at this before:
  neither the rule for tokens of the caller, nor the decoder of tokens that are brought. So it is
  the request that is refused, by a failure of configuration (`refuses_iff`).
-/

namespace Outbound

open Outbound.Text

/-! ## Tokens in headers -/

/-- Whether a token can stand in a header. -/
def AccessToken.isWritable (token : AccessToken) : Bool :=
  (Utf8.bytes token.text).all HeaderValue.isLegal

/-- The name of the scheme can, so it is up to the token. -/
theorem AccessToken.all_bearer (token : AccessToken) :
    token.bearer.bytes.all HeaderValue.isLegal = token.isWritable := by
  have hbytes : token.bearer.bytes = Utf8.bytes "Bearer " ++ Utf8.bytes token.text := by
    rw [bearer, Utf8.bytes, String.toList_append, Utf8.encode, List.flatMap_append]
    rfl
  have hscheme : (Utf8.bytes "Bearer ").all HeaderValue.isLegal = true := by decide
  rw [hbytes, List.all_append, hscheme, Bool.true_and, isWritable]

/-- **Bearing**: a token that can stand in a header is written, any other one is refused. -/
theorem Request.bear_eq (r : Request) (token : AccessToken) :
    r.bear token = if token.isWritable then (.ok (), r.authorize token.bearer)
      else (.error (.config .invalidHeaderValue), r) := by
  rw [← token.all_bearer, bear, bearerValue, authorizationValue, HeaderValue.ofString?,
    HeaderValue.parse?]
  by_cases hlegal : token.bearer.bytes.all HeaderValue.isLegal
  · rw [if_pos hlegal, if_pos (by exact hlegal)]
    rfl
  · rw [if_neg hlegal, if_neg (by exact hlegal)]

/-- Looking for a token never fails by configuration. -/
theorem Issuer.token_ne_config (i : Issuer) (t : Transport) (s : Session) (cause : ConfigFailure) :
    ((i.token t).run s).1 ≠ .error (.config cause) := by
  rcases hv : s.validToken? with _ | token
  · rw [i.run_token_miss t hv, Transport.tokenReply]
    rcases (t s.position.sends).outcome with f | response
    · exact nofun
    · simp only [tokenOfOutcome, tokenOf]
      split
      · split
        · rcases AccessToken.decode _ with _ | _ <;> exact nofun
        · exact nofun
      · exact nofun
  · rw [i.token_hit t hv]
    exact nofun

namespace Credential

/-- **Offering**: the token that a credential has for a request, if it is one with tokens. -/
inductive Offers (t : Transport) (s : Session) : Credential → AccessToken → Prop
  | bearer {token} : Offers t s (.bearer token) token
  | iam {i token} (found : ((i.token t).run s).1 = .ok token) : Offers t s (.iam i) token

/-- **Writing**: what a credential makes of the values that stood for the authorization. -/
inductive Writes (t : Transport) (s : Session) (before : List HeaderValue) :
    Credential → List HeaderValue → Prop
  | basic {value} : Writes t s before (.basic value) [value.asSensitive]
  | token {c token} (offers : c.Offers t s token) : Writes t s before c [token.bearer]
  | noAuth : Writes t s before .noAuth before

variable (t : Transport) (r : Request) (s : Session)

/-- **Authenticating** with a token of the caller. -/
theorem run_authenticate_bearer (token : AccessToken) :
    ((Credential.bearer token).authenticate t r).run s = (r.bear token, s) := by
  rw [run_authenticate, header, Request.bear]
  cases bearerValue token <;> rfl

variable {t r s}

/-! ## Writing -/

variable (t r s) in
/-- **An authorized request** has what the credential writes for its authorization; the rest of it
is as it was. -/
structure Authorized (c : Credential) (r₁ : Request) : Prop where
  rest : r₁ = { r with headers := r₁.headers }
  others (name : HeaderName) (hname : name ≠ .authorization) :
    r₁.headers.values name = r.headers.values name
  written : c.Writes t s (r.headers.values .authorization) (r₁.headers.values .authorization)

/-- It is enough to know what is written. -/
theorem Authorized.of_authorize {c : Credential} {value : HeaderValue}
    (h : c.Writes t s (r.headers.values .authorization) [value.asSensitive]) :
    c.Authorized t r s (r.authorize value) where
  rest := rfl
  others _ hname := Headers.values_insert_of_ne hname
  written := by
    rw [Request.authorize, Request.withHeader, Headers.values_insert_self]
    exact h

theorem Authorized.of_bear {c : Credential} {token : AccessToken} {r₁ : Request}
    (ho : c.Offers t s token) (h : r.bear token = (.ok (), r₁)) : c.Authorized t r s r₁ := by
  rw [Request.bear_eq] at h
  split at h
  · obtain rfl := (Prod.mk.inj h).2
    exact .of_authorize (.token ho)
  · cases h

/-- **Authenticating** authorizes the request, unless it fails. -/
theorem authorized_of_authenticate {c : Credential} {r₁ : Request} {s₁ : Session}
    (h : (c.authenticate t r).run s = ((.ok (), r₁), s₁)) : c.Authorized t r s r₁ := by
  cases c with
  | basic value =>
    cases h
    exact .of_authorize .basic
  | bearer token =>
    rw [run_authenticate_bearer] at h
    exact .of_bear .bearer (Prod.mk.inj h).1
  | iam i =>
    rw [run_authenticate_iam] at h
    rcases hi : (i.token t).run s with ⟨f | token, s'⟩
    · rw [hi] at h
      cases h
    · rw [hi] at h
      exact .of_bear (.iam (congrArg Prod.fst hi)) (Prod.mk.inj h).1
  | noAuth =>
    cases h
    exact ⟨rfl, fun _ _ => rfl, .noAuth⟩

/-! ## Refusing -/

/-- **Refusing.** A request is refused by a failure of configuration exactly if the token that is
offered for it cannot stand in a header. -/
theorem refuses_iff (c : Credential) (t : Transport) (r : Request) (s : Session)
    (cause : ConfigFailure) :
    (((c.authenticator t).authenticate r).run s).1.1 = .error (.config cause) ↔
      cause = .invalidHeaderValue ∧ ∃ token, c.Offers t s token ∧ ¬ token.isWritable := by
  have hbear (token : AccessToken) : (r.bear token).1 = .error (.config cause) ↔
      cause = .invalidHeaderValue ∧ ¬ token.isWritable := by
    rw [Request.bear_eq]
    by_cases hw : token.isWritable
    · rw [if_pos hw]
      refine iff_of_false ?_ fun h => h.2 hw
      rintro ⟨⟩
    · rw [if_neg hw]
      constructor
      · rintro ⟨⟩
        exact ⟨rfl, hw⟩
      · rintro ⟨rfl, -⟩
        rfl
  rw [authenticator]
  cases c with
  | basic value =>
    refine iff_of_false ?_ ?_
    · rintro ⟨⟩
    · rintro ⟨-, _, ⟨⟩, -⟩
  | bearer token =>
    rw [run_authenticate_bearer, hbear]
    refine and_congr_right fun _ => ⟨fun h => ⟨token, .bearer, h⟩, ?_⟩
    rintro ⟨_, ⟨⟩, h⟩
    exact h
  | iam i =>
    have hnever := i.token_ne_config t s cause
    rw [run_authenticate_iam]
    rcases hi : (i.token t).run s with ⟨f | token, s'⟩
    · rw [hi] at hnever
      refine iff_of_false (fun h => hnever (congrArg Except.error (Except.error.inj h))) ?_
      rintro ⟨-, token, hoffers, -⟩
      cases hoffers with
      | iam found =>
        rw [hi] at found
        cases found
    · refine (hbear token).trans (and_congr_right fun _ => ⟨fun h => ⟨token, ?_, h⟩, ?_⟩)
      · exact .iam (congrArg Prod.fst hi)
      · rintro ⟨token', hoffers, h⟩
        cases hoffers with
        | iam found =>
          rw [hi] at found
          cases found
          exact h
  | noAuth =>
    refine iff_of_false ?_ ?_
    · rintro ⟨⟩
    · rintro ⟨-, _, ⟨⟩, -⟩

end Credential

/-- A transport that answers every request with a token that ends in a line feed. -/
def Transport.issuingLines : Transport := fun _ =>
  ⟨.ofSeconds 1, .ok ⟨.ok, .empty, Utf8.bytes
    ("\x7b\"access_token\":\"" ++ AccessToken.ofHour.text ++
      "\\n\",\"token_type\":\"Bearer\"\x7d")⟩⟩

/-- **Refused all the same**: a token of the caller that is accepted when the credential is built,
and one that is accepted when an issuer brings it. -/
theorem Credential.refused_with_line_feed :
    (BearerConfig.credential ⟨⟨"a\nb"⟩⟩ = .ok (.bearer (.supplied "a\nb")) ∧
      (((Credential.bearer (.supplied "a\nb")).authenticator .issuingLines).authenticate .ofItems
        |>.run (.start 0)).1.1 = .error (.config .invalidHeaderValue)) ∧
    (((Issuer.ofKey.token .issuingLines).run (.start 0)).1 =
        .ok ⟨AccessToken.ofHour.text ++ "\n", 2880000⟩ ∧
      (((Credential.iam .ofKey).authenticator .issuingLines).authenticate .ofItems |>.run
        (.start 0)).1.1 = .error (.config .invalidHeaderValue)) := by
  have hfound : ((Issuer.ofKey.token .issuingLines).run (.start 0)).1.toOption =
      some ⟨AccessToken.ofHour.text ++ "\n", 2880000⟩ := by decide +kernel
  rcases hrun : (Issuer.ofKey.token .issuingLines).run (.start 0) with ⟨f | token, s'⟩
  · rw [hrun] at hfound
    cases hfound
  · rw [hrun] at hfound
    obtain rfl := Option.some.inj hfound
    refine ⟨⟨rfl, rfl⟩, rfl, ?_⟩
    rw [Credential.authenticator, run_authenticate_iam, hrun]
    refine congrArg Prod.fst (Request.bear_eq .ofItems _) |>.trans ?_
    rw [if_neg (by decide +kernel)]

end Outbound
