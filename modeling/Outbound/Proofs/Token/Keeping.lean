import Outbound.Proofs.Authenticator.Issuing
import Outbound.Proofs.Checks
import Outbound.Proofs.Token.Failing

/-!
# What an issuer keeps

The kept token is no more than a memory of what the token endpoint has answered: it can be told from
the log and from the replies of the transport.

* **origin** — a token that is brought stands in a successful answer as it is, and its deadline
  follows from its own claims (`tokenOfOutcome_eq_ok`, `AccessToken.decode_eq_ok`);
* **memory** — `Session.Remembers`: what is kept is the token that was brought last, or what was
  kept before; so it is after every use of an issuer but `invalidate` (`remembers_use`), and after
  any number of them (`remembers_after`);
* **together** — `Issuer.Mindful` says what can be relied on, `keeps_last_issued` that it can.
-/

namespace Outbound

open Outbound.Time

/-! ## Where a token comes from -/

namespace AccessToken

theorem need_eq_ok {claim : String} {value : Option Int} {n : Int} :
    need claim value = .ok n ↔ value = some n := by
  cases value <;> simp [need]

/-- **The deadline of an issued token** follows from the claims, which state both ends of its
lifetime. -/
theorem issued_eq_ok {text : String} {claims : Claims} {token : AccessToken} :
    issued text claims = .ok token ↔
      ∃ issuedAt expiresAt, claims.issuedAt = .ok (some issuedAt) ∧
        claims.expiresAt = .ok (some expiresAt) ∧ issuedAt ≤ expiresAt ∧
        0 ≤ deadlineMillis issuedAt expiresAt ∧
        token = ⟨text, deadlineMillis issuedAt expiresAt⟩ := by
  simp only [issued, bind_eq_ok, need_eq_ok]
  constructor
  · rintro ⟨_, hissued, issuedAt, rfl, _, hexpires, expiresAt, rfl, h⟩
    obtain ⟨hordered, h⟩ := ite_error_eq_ok.mp h
    obtain ⟨hdeadline, h⟩ := ite_error_eq_ok.mp h
    exact ⟨issuedAt, expiresAt, hissued, hexpires, Int.not_lt.mp hordered, Int.not_lt.mp hdeadline,
      (Except.ok.inj h).symm⟩
  · rintro ⟨issuedAt, expiresAt, hissued, hexpires, hle, hdeadline, rfl⟩
    refine ⟨_, hissued, issuedAt, rfl, _, hexpires, expiresAt, rfl, ?_⟩
    exact ite_error_eq_ok.mpr ⟨Int.not_lt.mpr hle,
      ite_error_eq_ok.mpr ⟨Int.not_lt.mpr hdeadline, rfl⟩⟩

/-- **Decoding** takes the text as it is, and the deadline from the claims that it holds. -/
theorem decode_eq_ok {text : String} {token : AccessToken} :
    decode text = .ok token ↔
      ∃ claims issuedAt expiresAt, Claims.decode text = .ok claims ∧
        claims.issuedAt = .ok (some issuedAt) ∧ claims.expiresAt = .ok (some expiresAt) ∧
        issuedAt ≤ expiresAt ∧ 0 ≤ deadlineMillis issuedAt expiresAt ∧
        token = ⟨text, deadlineMillis issuedAt expiresAt⟩ := by
  simp only [decode, bind_eq_ok, issued_eq_ok]
  constructor
  · rintro ⟨claims, hclaims, issuedAt, expiresAt, h⟩
    exact ⟨claims, issuedAt, expiresAt, hclaims, h⟩
  · rintro ⟨claims, issuedAt, expiresAt, hclaims, h⟩
    exact ⟨claims, hclaims, issuedAt, expiresAt, h⟩

/-- The text of a decoded token is the one that was decoded. -/
theorem text_of_decode {text : String} {token : AccessToken} (h : decode text = .ok token) :
    token.text = text := by
  obtain ⟨_, _, _, _, _, _, _, _, rfl⟩ := decode_eq_ok.mp h
  rfl

end AccessToken

/-- **What a response brings**: a token that stands in it as it is, if the response is successful.
The deadline of the token follows from when its own claims say that it was issued and that it
ends. -/
def Response.Brings (response : Response) (token : AccessToken) : Prop :=
  response.status.isSuccess ∧ TokenAnswer.token response.body = .ok token.text ∧
    ∃ claims issuedAt expiresAt, Claims.decode token.text = .ok claims ∧
      claims.issuedAt = .ok (some issuedAt) ∧ claims.expiresAt = .ok (some expiresAt) ∧
      issuedAt ≤ expiresAt ∧ 0 ≤ AccessToken.deadlineMillis issuedAt expiresAt ∧
      token.expiresAtMillis = AccessToken.deadlineMillis issuedAt expiresAt

theorem Response.brings_iff {response : Response} {token : AccessToken} :
    response.Brings token ↔
      response.status.isSuccess ∧ TokenAnswer.token response.body = .ok token.text ∧
        AccessToken.decode token.text = .ok token := by
  obtain ⟨text, deadline⟩ := token
  simp only [Brings, AccessToken.decode_eq_ok, AccessToken.mk.injEq, true_and]

namespace Issuer

theorem tokenOf_eq_ok {response : Response} {now : Instant} {token : AccessToken} :
    tokenOf response now = .ok token ↔ response.Brings token := by
  rw [Response.brings_iff, tokenOf]
  by_cases hs : response.status.isSuccess
  · rcases htext : TokenAnswer.token response.body with reason | text
    · simp [hs]
    · simp only [hs, if_true, true_and, Except.ok.injEq]
      constructor
      · intro h
        have hdecode : AccessToken.decode text = .ok token := by
          cases hd : AccessToken.decode text <;> rw [hd] at h <;> cases h
          rfl
        obtain rfl := AccessToken.text_of_decode hdecode
        exact ⟨rfl, hdecode⟩
      · rintro ⟨rfl, hdecode⟩
        rw [hdecode]
        rfl
  · simp [hs]

/-- **A reply holds a token** if it is a response that brings it. Every other reply is a failure. -/
theorem tokenOfOutcome_eq_ok {outcome : Except TransportFailure Response} {now : Instant}
    {token : AccessToken} :
    tokenOfOutcome outcome now = .ok token ↔
      ∃ response, outcome = .ok response ∧ response.Brings token := by
  rcases outcome with cause | response
  · exact ⟨nofun, nofun⟩
  · constructor
    · intro h
      exact ⟨response, rfl, tokenOf_eq_ok.mp h⟩
    · rintro ⟨_, ⟨⟩, h⟩
      exact tokenOf_eq_ok.mpr h

end Issuer

/-! ## Memory -/

/-- **Memory**: from one session to a later one the kept token has become the one that was brought
last in between. If none was, it is the one that was kept before. -/
def Session.Remembers (t : Transport) (s s' : Session) : Prop :=
  ∃ new, s'.log = new ++ s.log ∧ s'.kept = (new.findSome? (Event.issued? t)).or s.kept

namespace Session.Remembers

variable {t : Transport} {s s₁ s₂ : Session}

theorem refl (s : Session) : s.Remembers t s := ⟨[], rfl, rfl⟩

theorem trans (h₁ : s.Remembers t s₁) (h₂ : s₁.Remembers t s₂) : s.Remembers t s₂ := by
  obtain ⟨new₁, hlog₁, hkept₁⟩ := h₁
  obtain ⟨new₂, hlog₂, hkept₂⟩ := h₂
  refine ⟨new₂ ++ new₁, ?_, ?_⟩
  · exact Session.log_eq_append hlog₂ hlog₁
  · rw [hkept₂, hkept₁, List.findSome?_append, Option.or_assoc]

end Session.Remembers

namespace Issuer

variable (i : Issuer) (t : Transport) {s : Session}

/-- **An exchange** keeps the token that it brings. -/
theorem remembers_exchanged (s : Session) : s.Remembers t (i.exchanged t s) := by
  refine ⟨_, i.log_exchanged t s, ?_⟩
  rw [kept_exchanged, findSome?_exchangeEvents]

/-- **A look-up** remembers. -/
theorem remembers_token (s : Session) : s.Remembers t ((i.token t).run s).2 := by
  rcases hv : s.validToken? with _ | token
  · rw [i.run_token_miss t hv]
    exact i.remembers_exchanged t s
  · rw [i.token_hit t hv]
    exact .refl s

/-- **A miss sends one request.** -/
theorem tokenRequests_token_miss (h : s.validToken? = none) :
    ((i.token t).run s).2.tokenRequests = s.tokenRequests ++ [(s.position, i.request)] := by
  rw [i.run_token_miss t h, Session.tokenRequests_of_log (i.log_exchanged t s)]
  rfl

/-- **After a failure** what is kept is as it was, and nothing valid is. -/
theorem token_failed {f : Failure} (h : ((i.token t).run s).1 = .error f) :
    ((i.token t).run s).2.kept = s.kept ∧ ((i.token t).run s).2.validToken? = none := by
  rcases hv : s.validToken? with _ | token
  · rw [i.run_token_miss t hv] at h ⊢
    have hreply : t.tokenReply s.position = .error f := h
    have hkept : (i.exchanged t s).kept = s.kept := by
      rw [kept_exchanged, hreply]
      rfl
    refine ⟨hkept, ?_⟩
    rw [Session.validToken?, hkept, now_exchanged]
    exact Session.validToken?_later hv (t s.sends).delay
  · rw [i.token_hit t hv] at h
    cases h

/-! ## Uses of an issuer -/

/-- **What one can do with an issuer**: ask for a token, have a request authenticated, drop the kept
token, and let time pass. -/
inductive Use
  | token
  | authenticate (r : Request)
  | invalidate
  | pass (d : Duration)

/-- **One use.** -/
def use : Use → Act Unit
  | .token => discard (i.token t)
  | .authenticate r => discard ((Credential.iam i).authenticate t r)
  | .invalidate => Issuer.invalidate
  | .pass d => Act.pass d

/-- The session after uses in turn. -/
def after (uses : List Use) (s : Session) : Session :=
  uses.foldl (fun s u => ((i.use t u).run s).2) s

/-- **Every use but dropping** remembers. -/
theorem remembers_use {u : Use} (hu : u ≠ .invalidate) (s : Session) :
    s.Remembers t ((i.use t u).run s).2 := by
  cases u with
  | token => exact i.remembers_token t s
  | authenticate r =>
    have hsession : ((i.use t (.authenticate r)).run s).2 = _ :=
      Credential.session_authenticate_iam i t r s
    rw [hsession]
    exact i.remembers_token t s
  | invalidate => exact absurd rfl hu
  | pass d => exact .refl s

/-- **And so do any number of them.** -/
theorem remembers_after {uses : List Use} (huses : .invalidate ∉ uses) (s : Session) :
    s.Remembers t (i.after t uses s) := by
  induction uses generalizing s with
  | nil => exact .refl s
  | cons u uses ih =>
    rw [List.mem_cons, not_or] at huses
    exact (i.remembers_use t (Ne.symm huses.1) s).trans (ih huses.2 _)

/-- Nothing is kept once the kept token has been dropped. -/
theorem kept_after_invalidate {uses : List Use} (h : uses.getLast? = some .invalidate)
    (s : Session) : (i.after t uses s).kept = none := by
  obtain ⟨before, rfl⟩ := List.getLast?_eq_some_iff.mp h
  rw [after, List.foldl_append]
  rfl

/-! ## Together -/

/-- **What can be relied on** of what an issuer keeps. -/
structure Mindful (i : Issuer) (t : Transport) : Prop where
  /-- If nothing was kept at first, or since the kept token was dropped, what is kept is the token
  that was brought last since then. Nothing is kept if none was. -/
  kept : ∀ (s : Session) (before uses : List Use),
    (before = [] ∧ s.kept = none) ∨ before.getLast? = some .invalidate → .invalidate ∉ uses →
    ∃ since, (i.after t (before ++ uses) s).log = since ++ (i.after t before s).log ∧
      (i.after t (before ++ uses) s).kept = since.findSome? (Event.issued? t)
  /-- A token is brought by a successful response to a token request, in which it stands as it
  is. -/
  origin : ∀ p token, t.tokenReply p = .ok token ↔
    ∃ response, (t p.sends).outcome = .ok response ∧ response.Brings token
  /-- While nothing valid is kept, a look-up sends one request. -/
  asks : ∀ s, (∀ token, s.kept = some token → token.isValidAt s.now = false) →
    ((i.token t).run s).2.tokenRequests = s.tokenRequests ++ [(s.position, i.request)]
  /-- While a valid token is kept, a look-up answers it and does nothing else. -/
  rests : ∀ s token, s.kept = some token → token.isValidAt s.now →
    (i.token t).run s = (.ok token, s)
  /-- A look-up that fails, for whatever reason, leaves what is kept as it was, and the next one,
  however much later, sends a request again. -/
  retries : ∀ s f, ((i.token t).run s).1 = .error f →
    let s' := ((i.token t).run s).2
    s'.kept = s.kept ∧
      ∀ d, ((i.token t).run (s'.later d)).2.tokenRequests =
        s'.tokenRequests ++ [((s'.later d).position, i.request)]
  /-- Among callers who come and go as they like, what is kept changes only with a caller who takes
  a reply that brings a token, and when it is dropped. -/
  stays : ∀ (c e : Crowd) (move : Move), c.step? i t move = some e →
    e.session.kept ≠ c.session.kept →
    move = .invalidate ∨
      ∃ n token, move = .settle n ∧ e.result? n = some (.ok token) ∧ e.session.kept = some token
  /-- A caller whose reply brings none can take it. It leaves what is kept as it was and frees the
  guard, and whoever needs the guard can take it and sends a request again. -/
  releases : ∀ (s : Session) (c : Crowd) n outcome due f, Crowd.Reaches i t (.start s) c →
    c.phase n = .exchanging outcome due → due ≤ c.session.now →
    tokenOfOutcome outcome c.session.now = .error f →
    ∃ e, c.step? i t (.settle n) = some e ∧ e.result? n = some (.error f) ∧
      e.session.kept = c.session.kept ∧ e.holder = none ∧
      ∀ m, e.phase m = .needing →
        ∃ d d', e.step? i t (.acquire m) = some d ∧ d.step? i t (.recheck m) = some d' ∧
          (d'.phase m).isExchanging ∧ d'.session = i.asked e.session

/-- **What is kept** is the token that was brought last, by whatever uses of the issuer and with
whatever replies, and a failure changes nothing. -/
theorem keeps_last_issued (i : Issuer) (t : Transport) : i.Mindful t where
  kept s before uses hbefore huses := by
    obtain ⟨since, hlog, hkept⟩ := i.remembers_after t huses (i.after t before s)
    have hnone : (i.after t before s).kept = none := by
      rcases hbefore with ⟨rfl, hs⟩ | hlast
      · exact hs
      · exact i.kept_after_invalidate t hlast s
    have hafter : i.after t (before ++ uses) s = i.after t uses (i.after t before s) :=
      List.foldl_append
    refine ⟨since, ?_, ?_⟩
    · rw [hafter, hlog]
    · rw [hafter, hkept, hnone, Option.or_none]
  origin p token := tokenOfOutcome_eq_ok
  asks s hs := by
    refine i.tokenRequests_token_miss t (Option.eq_none_iff_forall_ne_some.mpr fun token h => ?_)
    obtain ⟨hkept, hvalid⟩ := Session.validToken?_eq_some.mp h
    rw [hs token hkept] at hvalid
    cases hvalid
  rests s token hkept hvalid := i.token_hit t (Session.validToken?_eq_some.mpr ⟨hkept, hvalid⟩)
  retries s f hf := by
    obtain ⟨hkept, hmiss⟩ := i.token_failed t hf
    exact ⟨hkept, fun d => i.tokenRequests_token_miss t (Session.validToken?_later hmiss d)⟩
  stays c e move hstep hkept := (Crowd.stepped_of_step? hstep).kept_changes hkept
  releases s c n outcome due f hreach hp hdue hf :=
    Crowd.settle_failed (Crowd.unserved_of_reaches (.start s) (fun _ hm => by cases hm) hreach)
      hp hdue hf

end Issuer

end Outbound
