import Outbound.Proofs.Token.Guard

/-!
# Exchanges that fail

A reply without a token leaves everything as it was before the request, but for the time and the
log.

* **changing** — only a token that has been obtained and `invalidate` change what is kept
  (`Stepped.kept_changes`);
* **invariant** — `Unserved`: while somebody awaits a reply, nothing valid is kept, so that a reply
  without a token leaves nothing valid either; every step preserves it (`unserved_of_stepped`), so
  it holds of all that is reached (`unserved_of_reaches`);
* **release** — who fails frees the guard, and whoever takes it next asks again (`settle_failed`).
-/

namespace Outbound

open Outbound.Time

/-- **What is not valid stays so.** -/
theorem Session.validToken?_later {s : Session} (h : s.validToken? = none) (d : Duration) :
    (s.later d).validToken? = none := by
  refine Option.eq_none_iff_forall_ne_some.mpr fun token htoken => ?_
  obtain ⟨hkept, hvalid⟩ := Session.validToken?_eq_some.mp htoken
  have hle : s.now ≤ (s.later d).now := Int.le_add_of_nonneg_right (Int.natCast_nonneg d.nanos)
  have hnow : s.validToken? = some token :=
    Session.validToken?_eq_some.mpr ⟨hkept, AccessToken.isValidAt_of_le hvalid hle⟩
  rw [h] at hnow
  cases hnow

namespace Crowd

variable {i : Issuer} {t : Transport} {c e : Crowd} {move : Move} {n : Nat}

/-! ## What changes the kept token -/

/-- **Changing.** What is kept changes when a caller takes a reply with a token, and when it is
dropped. -/
theorem Stepped.kept_changes (h : Stepped i t c move e) (hkept : e.session.kept ≠ c.session.kept) :
    move = .invalidate ∨
      ∃ n token, move = .settle n ∧ e.result? n = some (.ok token) ∧
        e.session.kept = some token := by
  cases h with
  | invalidate => exact .inl rfl
  | @settle n outcome due hp hdue =>
    refine .inr ⟨n, ?_⟩
    rw [session_guardedBy, session_around, Issuer.kept_settled] at hkept ⊢
    rcases hresult : Issuer.tokenOfOutcome outcome c.session.now with f | token
    · rw [hresult] at hkept
      exact absurd rfl hkept
    · refine ⟨token, rfl, ?_, rfl⟩
      simp [result?, Answer.result]
  | _ => exact absurd rfl hkept

/-! ## While a reply is awaited -/

/-- **Unserved**: as long as somebody awaits a reply, no kept token is valid. -/
def Unserved (c : Crowd) : Prop :=
  ∀ n, (c.phase n).isExchanging → c.session.validToken? = none

/-- A caller who comes to a phase without exchanging leaves it at that. -/
theorem Unserved.put {phase : Phase} (h : c.Unserved) (hphase : phase.isExchanging = false) :
    (c.put n phase).Unserved := by
  intro m hm
  by_cases hmn : m = n
  · rw [hmn, phase_put_self, hphase] at hm
    cases hm
  · rw [phase_put_of_ne hmn] at hm
    exact h m hm

/-- **Step.** Only the caller with the guard can take a reply, and then nobody else awaits one. -/
theorem unserved_of_stepped (hg : c.Guarded) (h : c.Unserved) (hstep : Stepped i t c move e) :
    e.Unserved := by
  cases hstep with
  | arriveHit _ _ => exact Unserved.put (c := c.note _) h rfl
  | arriveMiss _ _ => exact Unserved.put (c := c.note _) h rfl
  | acquire _ _ => exact h.put rfl
  | recheckHit _ _ => exact h.put rfl
  | recheckMiss _ hv => exact fun _ _ => hv
  | @settle n outcome due hp _ =>
    intro m hm
    by_cases hmn : m = n
    · rw [hmn, phase_guardedBy, phase_around, phase_put_self] at hm
      cases hm
    · rw [phase_guardedBy, phase_around, phase_put_of_ne hmn] at hm
      exact absurd (hg.exchanging_unique hm (by rw [hp]; rfl)) hmn
  | abandon _ => exact h.put rfl
  | invalidate => exact fun _ _ => rfl
  | @pass d => exact fun m hm => Session.validToken?_later (h m hm) d

/-- **Run.** Nobody who awaits a reply could be served in the meantime. -/
theorem unserved_of_reaches {o : Crowd} (hg : o.Guarded) (ho : o.Unserved) (h : Reaches i t o c) :
    c.Unserved := by
  induction h with
  | refl => exact ho
  | step hreach hstep ih =>
    exact unserved_of_stepped (guarded_of_reaches hg hreach) ih (stepped_of_step? hstep)

/-! ## Release -/

/-- **Asking again**: with a free guard and nothing valid kept, a caller who needs the guard can
take it and sends a request. -/
theorem asks_of_needing (hh : c.holder = none) (hv : c.session.validToken? = none)
    (hp : c.phase n = .needing) :
    ∃ d e, c.step? i t (.acquire n) = some d ∧ d.step? i t (.recheck n) = some e ∧
      (e.phase n).isExchanging ∧ e.session = i.asked c.session := by
  refine ⟨_, _, (step?_acquire i t).mpr ⟨hp, hh, rfl⟩,
    (step?_recheck i t).mpr ⟨phase_put_self, recheck_miss hv⟩, ?_, rfl⟩
  rw [phase_around, phase_put_self]
  rfl

/-- **Failing.** A caller whose reply holds no token is answered the failure. What is kept stays,
the guard is free, and whoever needs it can take it and asks again. -/
theorem settle_failed (hc : c.Unserved) {outcome : Except TransportFailure Response} {due : Instant}
    {f : Failure} (hp : c.phase n = .exchanging outcome due) (hdue : due ≤ c.session.now)
    (hf : Issuer.tokenOfOutcome outcome c.session.now = .error f) :
    ∃ e, c.step? i t (.settle n) = some e ∧ e.result? n = some (.error f) ∧
      e.session.kept = c.session.kept ∧ e.holder = none ∧
      ∀ m, e.phase m = .needing →
        ∃ d d', e.step? i t (.acquire m) = some d ∧ d.step? i t (.recheck m) = some d' ∧
          (d'.phase m).isExchanging ∧ d'.session = i.asked e.session := by
  have hkept : (Issuer.settled outcome c.session).kept = c.session.kept := by
    rw [Issuer.kept_settled, hf]
  have hmiss : (Issuer.settled outcome c.session).validToken? = none := by
    rw [Session.validToken?, hkept, Issuer.now_settled]
    exact hc n (by rw [hp]; rfl)
  refine ⟨_, (step?_settle i t).mpr ⟨outcome, due, hp, hdue, settle_eq outcome⟩, ?_, hkept, rfl,
    fun m hm => asks_of_needing rfl hmiss hm⟩
  simp [result?, Answer.result, hf]

end Crowd

end Outbound
