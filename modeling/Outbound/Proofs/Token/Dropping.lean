import Outbound.Proofs.Token.Failing
import Outbound.Proofs.Token.Sharing

/-!
# Dropping the kept token

What becomes of a token when it is dropped, and what callers get who come afterwards.

* **origin** — `BroughtSince`: a token was brought by a reply that was taken after the drop. The
  request was sent after it as well, unless the reply was awaited already when the token was
  dropped;
* **invariant** — `Renewed`: since a drop, whatever is kept, and whatever is answered to those who
  came since, is such a token (`renewed_of_step?`, `renewed_of_reaches`);
* **drops** — so it is for every drop (`brought_since_drop`). A reply that is awaited at that time
  is none the less stored when it comes, and answered to others (`served_across_drop`).
-/

namespace Outbound

open Outbound.Time

namespace Crowd

variable {i : Issuer} {t : Transport} {b c d e : Crowd} {move : Move} {m n : Nat}
  {token : AccessToken} {outcome : Except TransportFailure Response}

/-! ## Where tokens come from since a drop -/

/-- **Awaited since** `d`: the request was sent after `d`, or its reply was awaited then already. -/
def AwaitedSince (i : Issuer) (t : Transport) (d : Crowd) (m : Nat)
    (outcome : Except TransportFailure Response) (c : Crowd) : Prop :=
  AskedInCall i t d m outcome c ∨ ∃ due, d.phase m = .exchanging outcome due

/-- **Brought since** `d`: a caller has taken a reply that holds the token. -/
def BroughtSince (i : Issuer) (t : Transport) (d : Crowd) (token : AccessToken)
    (c : Crowd) : Prop :=
  ∃ m b outcome, Reaches i t d b ∧ AwaitedSince i t d m outcome b ∧ After i t (.settle m) b c ∧
    Issuer.tokenOfOutcome outcome b.session.now = .ok token

theorem AwaitedSince.step (h : AwaitedSince i t d m outcome c) (hstep : c.step? i t move = some e) :
    AwaitedSince i t d m outcome e :=
  h.imp_left fun hasked => hasked.step hstep

theorem BroughtSince.step (h : BroughtSince i t d token c) (hstep : c.step? i t move = some e) :
    BroughtSince i t d token e := by
  obtain ⟨m, b, outcome, hreach, hawaited, hafter, htoken⟩ := h
  exact ⟨m, b, outcome, hreach, hawaited, hafter.step hstep, htoken⟩

/-! ## The invariant -/

/-- **Renewed** since `d`: what is kept, and what was answered to callers who had not come then, was
brought since; and who awaits a reply, awaits it since. -/
structure Renewed (i : Issuer) (t : Transport) (d c : Crowd) : Prop where
  kept : ∀ token, c.session.kept = some token → BroughtSince i t d token c
  awaited : ∀ m outcome due, c.phase m = .exchanging outcome due → AwaitedSince i t d m outcome c
  answered : ∀ n token, d.phase n = .away → c.result? n = some (.ok token) →
    BroughtSince i t d token c

/-- When nothing is kept, everything is still to be brought. -/
theorem renewed_of_dropped (hd : d.session.kept = none) : Renewed i t d d where
  kept token htoken := by
    rw [hd] at htoken
    cases htoken
  awaited m outcome due hphase := .inr ⟨due, hphase⟩
  answered n token haway hresult := by
    rw [result?, haway] at hresult
    cases hresult

/-- What is read from the session was brought since. -/
theorem Renewed.broughtSince_of_valid (h : Renewed i t d c)
    (hv : c.session.validToken? = some token) : BroughtSince i t d token c :=
  h.kept token (Session.validToken?_eq_some.mp hv).1

/-- **Taking a reply** with a token brings it. -/
theorem Renewed.broughtSince_of_settle (h : Renewed i t d c) (hd : Reaches i t d c)
    (hstep : c.step? i t (.settle m) = some e) (hresult : e.result? m = some (.ok token)) :
    BroughtSince i t d token e := by
  obtain ⟨outcome, due, hphase, -, rfl⟩ := (step?_settle i t).mp hstep
  refine ⟨m, c, outcome, hd, h.awaited m outcome due hphase, .of_step? hstep, ?_⟩
  simpa [settle_eq, result?, Answer.result] using hresult

/-- **Keeping**: what is kept was kept before, or a reply brings it. -/
theorem Renewed.kept_of_step? (h : Renewed i t d c) (hd : Reaches i t d c)
    (hstep : c.step? i t move = some e) (hkept : e.session.kept = some token) :
    BroughtSince i t d token e := by
  by_cases hsame : e.session.kept = c.session.kept
  · exact (h.kept token (hsame ▸ hkept)).step hstep
  · rcases (stepped_of_step? hstep).kept_changes hsame with rfl | ⟨m, token', rfl, hresult, htoken⟩
    · obtain rfl := (step?_invalidate i t).mp hstep
      cases hkept
    · obtain rfl := Option.some.inj (htoken.symm.trans hkept)
      exact h.broughtSince_of_settle hd hstep hresult

/-- **Awaiting**: a reply that is awaited was awaited before, or the request for it is sent. -/
theorem Renewed.awaited_of_step? {due : Instant} (h : Renewed i t d c) (hd : Reaches i t d c)
    (hstep : c.step? i t move = some e) (hphase : e.phase m = .exchanging outcome due) :
    AwaitedSince i t d m outcome e := by
  have hcases := stepped_of_step? hstep
  by_cases hmover : move.caller? = some m
  · cases hcases with
    | recheckMiss _ hv =>
      obtain rfl := Option.some.inj hmover
      rw [phase_around, phase_put_self] at hphase
      cases hphase
      exact .inl ⟨c, hd, hv, rfl, .of_step? hstep⟩
    | invalidate => cases hmover
    | pass => cases hmover
    | _ =>
      obtain rfl := Option.some.inj hmover
      simp [Crowd.abandon] at hphase
  · rw [hcases.phase_eq hmover] at hphase
    exact (h.awaited m outcome due hphase).step hstep

/-- **Answering**: a caller reads what is kept, or takes a reply. -/
theorem Renewed.answered_of_step? (h : Renewed i t d c) (hd : Reaches i t d c)
    (hstep : c.step? i t move = some e) (haway : d.phase n = .away)
    (hresult : e.result? n = some (.ok token)) : BroughtSince i t d token e := by
  have hcases := stepped_of_step? hstep
  by_cases hmover : move.caller? = some n
  · cases hcases with
    | arriveHit _ hv =>
      obtain rfl := Option.some.inj hmover
      rw [result?, phase_put_self] at hresult
      cases hresult
      exact (h.broughtSince_of_valid hv).step hstep
    | recheckHit _ hv =>
      obtain rfl := Option.some.inj hmover
      rw [result?, phase_guardedBy, phase_put_self] at hresult
      cases hresult
      exact (h.broughtSince_of_valid hv).step hstep
    | settle =>
      obtain rfl := Option.some.inj hmover
      exact h.broughtSince_of_settle hd hstep hresult
    | invalidate => cases hmover
    | pass => cases hmover
    | _ =>
      obtain rfl := Option.some.inj hmover
      simp [Crowd.abandon, result?] at hresult
  · rw [result?, hcases.phase_eq hmover] at hresult
    exact (h.answered n token haway hresult).step hstep

/-- **Step.** Every step leaves a crowd renewed. -/
theorem renewed_of_step? (hd : Reaches i t d c) (h : Renewed i t d c)
    (hstep : c.step? i t move = some e) : Renewed i t d e where
  kept _ hkept := h.kept_of_step? hd hstep hkept
  awaited _ _ _ hphase := h.awaited_of_step? hd hstep hphase
  answered _ _ haway hresult := h.answered_of_step? hd hstep haway hresult

/-- **Run.** So it is however long ago the drop is. -/
theorem renewed_of_reaches (hd : d.session.kept = none) (h : Reaches i t d c) :
    Renewed i t d c := by
  induction h with
  | refl => exact renewed_of_dropped hd
  | step hreach hstep ih => exact renewed_of_step? hreach ih hstep

/-! ## Drops -/

/-- **Brought since the drop.** Who comes after the kept token has been dropped, and is answered a
token, is answered one that a reply has brought since. The request for it was sent since then, too,
unless the reply was awaited at the time of the drop. -/
theorem brought_since_drop (hdrop : b.step? i t .invalidate = some d) (haway : d.phase n = .away)
    (h : Reaches i t d c) (hresult : c.result? n = some (.ok token)) :
    BroughtSince i t d token c := by
  obtain rfl := (step?_invalidate i t).mp hdrop
  exact (renewed_of_reaches rfl h).answered n token haway hresult

/-- A drop while a reply is awaited, and a caller who comes when that has been taken. -/
theorem run?_across_drop :
    ∃ b d c, (start (.start 0)).run? .ofKey .issuing [.arrive 0, .acquire 0, .recheck 0] = some b ∧
      b.step? .ofKey .issuing .invalidate = some d ∧ d.phase 1 = .away ∧
      d.run? .ofKey .issuing [.pass (.ofSeconds 1), .settle 0, .arrive 1] = some c ∧
      c.result? 1 = some (.ok .ofHour) ∧ b.session.sends = 1 ∧ c.session.sends = 1 := by
  have hseen : (((start (.start 0)).run? .ofKey .issuing [.arrive 0, .acquire 0, .recheck 0]).bind
      fun b => (b.step? .ofKey .issuing .invalidate).bind fun d =>
        (d.run? .ofKey .issuing [.pass (.ofSeconds 1), .settle 0, .arrive 1]).map fun c =>
          ((d.step? .ofKey .issuing (.arrive 1)).isSome, (c.result? 1).bind Except.toOption,
            b.session.sends, c.session.sends)) = some (true, some .ofHour, 1, 1) := by
    decide +kernel
  obtain ⟨b, hb, hseen⟩ := Option.bind_eq_some_iff.mp hseen
  obtain ⟨d, hd, hseen⟩ := Option.bind_eq_some_iff.mp hseen
  obtain ⟨c, hc, hseen⟩ := Option.map_eq_some_iff.mp hseen
  simp only [Prod.mk.injEq] at hseen
  obtain ⟨harrives, hresult, hbefore, hafter⟩ := hseen
  obtain ⟨_, harrives⟩ := Option.isSome_iff_exists.mp harrives
  obtain ⟨result, hresult, hok⟩ := Option.bind_eq_some_iff.mp hresult
  obtain rfl : result = .ok .ofHour := by
    cases result with
    | ok token => exact congrArg Except.ok (Option.some.inj hok)
    | error failure => cases hok
  exact ⟨b, d, c, hb, hd, ((step?_arrive _ _).mp harrives).1, hc, hresult, hbefore, hafter⟩

/-- There the token was brought by the reply that was awaited. -/
theorem brought_since_drop_in_flight :
    ∃ b d c, (start (.start 0)).run? .ofKey .issuing [.arrive 0, .acquire 0, .recheck 0] = some b ∧
      b.step? .ofKey .issuing .invalidate = some d ∧ d.phase 1 = .away ∧
      c.result? 1 = some (.ok .ofHour) ∧ BroughtSince .ofKey .issuing d .ofHour c := by
  obtain ⟨b, d, c, hb, hd, haway, hc, hresult, -, -⟩ := run?_across_drop
  have hreach : Reaches .ofKey .issuing d c := reaches_of_run? (.refl d) hc
  exact ⟨b, d, c, hb, hd, haway, hresult, brought_since_drop hd haway hreach hresult⟩

/-- **Served across a drop**: a caller who comes after the token was dropped is answered one whose
request was sent before. Nothing has been sent since. -/
theorem served_across_drop :
    ∃ b d c n token, Reaches .ofKey .issuing (start (.start 0)) b ∧
      b.step? .ofKey .issuing .invalidate = some d ∧ d.phase n = .away ∧
      Reaches .ofKey .issuing d c ∧ c.result? n = some (.ok token) ∧
      c.session.sends = b.session.sends := by
  obtain ⟨b, d, c, hb, hd, haway, hc, hresult, hbefore, hafter⟩ := run?_across_drop
  exact ⟨b, d, c, 1, .ofHour, reaches_of_run? (.refl _) hb, hd, haway, reaches_of_run? (.refl d) hc,
    hresult, hafter.trans hbefore.symm⟩

end Crowd

end Outbound
