import Outbound.Proofs.Session.Run
import Outbound.Token.Issuer

/-!
# Looking up and exchanging tokens

What it takes to get a token from an issuer, as equations on sessions.

* **validity** — ends once and for all (`AccessToken.isValidAt_of_le`);
* **hit** — a kept token that is valid is the answer, and nothing happens (`token_hit`);
* **miss** — without one there is an exchange (`token_miss`), which asks, lets the time of the reply
  pass, and settles (`run_exchange`);
* **keeping** — only a token that was obtained replaces the kept one (`kept_settled`).
-/

namespace Outbound

open Outbound.Time

/-! ## Validity -/

/-- **A token that is valid was valid before.** -/
theorem AccessToken.isValidAt_of_le {token : AccessToken} {early late : Instant}
    (h : token.isValidAt late) (hle : early ≤ late) : token.isValidAt early := by
  rw [isValidAt, Bool.and_eq_true, Bool.or_eq_true, decide_eq_true_eq] at h ⊢
  have hmillis : Instant.millis early ≤ Instant.millis late :=
    Int.tdiv_le_tdiv (by decide) hle
  exact ⟨h.1, h.2.imp_right (Int.le_trans hmillis)⟩

theorem Session.validToken?_eq_some {s : Session} {token : AccessToken} :
    s.validToken? = some token ↔ s.kept = some token ∧ token.isValidAt s.now := by
  rw [validToken?, Option.filter_eq_some_iff]

namespace Issuer

variable (i : Issuer) (t : Transport) (outcome : Except TransportFailure Response) (s : Session)

/-- The session in which a token request is under way. -/
def asked : Session :=
  let before := (s.record (.opened .tokenRequest "iam_token")).record
    (.counted .tokenRequest .attempt)
  before.record (.sent .token before.position i.request)

/-- The session in which a reply has been dealt with. -/
def settled : Session :=
  match tokenOfOutcome outcome s.now with
  | .ok token => (s.record (.counted .tokenRequest .success)).keep (some token)
  | .error _ => s.record (.counted .tokenRequest .failure)

/-! ## Equations -/

/-- **Settling** answers the token in the reply as it is seen at the time. -/
theorem run_settle :
    (settle outcome).run s = (tokenOfOutcome outcome s.now, settled outcome s) := by
  simp only [settle, settled, Act.run_bind, Act.run_now, Act.run_record]
  cases tokenOfOutcome outcome s.now <;> rfl

/-- **An exchange**: asking, the time of the reply, settling. -/
theorem run_exchange :
    (i.exchange t).run s =
      (settle (t s.sends).outcome).run ((i.asked s).later (t s.sends).delay) := rfl

variable {s}

/-- **Hit.** A kept token that is valid is answered; the session stays as it is. -/
theorem token_hit {token : AccessToken} (h : s.validToken? = some token) :
    (i.token t).run s = (.ok token, s) := by
  rw [Issuer.token, Act.run_bind, Act.run_get]
  simp only [h, Act.run_pure]

/-- **Miss.** Without a valid token there is an exchange. -/
theorem token_miss (h : s.validToken? = none) :
    (i.token t).run s = (i.exchange t).run s := by
  rw [Issuer.token, Act.run_bind, Act.run_get]
  simp only [h]

/-! ## What becomes of the session -/

@[simp] theorem now_asked : (i.asked s).now = s.now := rfl

@[simp] theorem kept_asked : (i.asked s).kept = s.kept := rfl

/-- One more request has been sent. -/
@[simp] theorem sends_asked : (i.asked s).sends = s.sends + 1 := by
  simp [asked, Event.isSend]

/-- **Settling takes no time.** -/
@[simp] theorem now_settled : (settled outcome s).now = s.now := by
  unfold settled
  split <;> rfl

/-- Settling sends nothing. -/
@[simp] theorem sends_settled : (settled outcome s).sends = s.sends := by
  unfold settled
  split <;> rfl

/-- **Keeping.** Only a token that was obtained replaces the kept one. -/
theorem kept_settled :
    (settled outcome s).kept =
      match tokenOfOutcome outcome s.now with
      | .ok token => some token
      | .error _ => s.kept := by
  unfold settled
  split <;> rfl

end Issuer

end Outbound
