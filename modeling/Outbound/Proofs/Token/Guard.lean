import Outbound.Proofs.Token.Steps

/-!
# The guard of an issuer

In whatever order callers arrive, wait, get their replies and give up, the guard is with one of them
at a time, and only who has it sends a request.

* **invariant** — `Guarded`: the guard is with whoever is in a phase that needs it, and with nobody
  else; every step preserves it (`guarded_of_stepped`), so it holds of all that is reached
  (`guarded_of_reaches`);
* **exclusion** — at most one caller awaits a reply (`Guarded.exchanging_unique`);
* **beginning** — a caller who begins an exchange has the guard, and no kept token is valid
  (`Guarded.begins`); nobody else sends (`Stepped.begins_of_sends_ne`).
-/

namespace Outbound

open Outbound.Time

namespace Phase

/-- **With the guard**: the phases of a caller who has it. -/
def hasGuard : Phase → Bool
  | .guarding | .exchanging .. => true
  | _ => false

/-- **Exchanging**: a request has been sent and the reply is awaited. -/
def isExchanging : Phase → Bool
  | .exchanging .. => true
  | _ => false

theorem hasGuard_of_isExchanging {p : Phase} (h : p.isExchanging) : p.hasGuard := by
  cases p <;> first | rfl | cases h

end Phase

namespace Crowd

variable {i : Issuer} {t : Transport} {c e : Crowd} {move : Move} {m n : Nat} {phase : Phase}
  {s : Session}

/-! ## The invariant -/

/-- **The guard is where it is needed**: with the caller whose phase says so, with nobody else. -/
def Guarded (c : Crowd) : Prop := ∀ n, c.holder = some n ↔ (c.phase n).hasGuard

namespace Guarded

theorem start (s : Session) : (Crowd.start s).Guarded := by
  intro n
  simp [Crowd.start, Phase.hasGuard]

theorem note (h : c.Guarded) : (c.note n).Guarded := h

/-- A caller may change between phases with the guard, or between phases without it. -/
theorem put (h : c.Guarded) (hphase : phase.hasGuard = (c.phase n).hasGuard) :
    (c.put n phase).Guarded := by
  intro k
  by_cases hk : k = n
  · rw [hk, phase_put_self, hphase]
    exact h n
  · rw [phase_put_of_ne hk]
    exact h k

/-- **Taking the guard** while it is free. -/
theorem taken (h : c.Guarded) (hh : c.holder = none) (hphase : phase.hasGuard) :
    ((c.put n phase).guardedBy (some n)).Guarded := by
  intro k
  by_cases hk : k = n
  · simp [hk, hphase]
  · have hfree := h k
    rw [hh] at hfree
    simpa [phase_put_of_ne hk, Ne.symm hk] using hfree

/-- **Freeing the guard** by its holder. -/
theorem freed (h : c.Guarded) (hn : (c.phase n).hasGuard) (hphase : phase.hasGuard = false) :
    ((c.put n phase).guardedBy none).Guarded := by
  intro k
  by_cases hk : k = n
  · simp [hk, hphase]
  · have hother := h k
    rw [(h n).mpr hn] at hother
    simpa [phase_put_of_ne hk, Ne.symm hk] using hother

end Guarded

/-- **Step.** Every step leaves the guard where it is needed. -/
theorem guarded_of_stepped (h : c.Guarded) (hstep : Stepped i t c move e) : e.Guarded := by
  cases hstep with
  | arriveHit hp _ => exact h.note.put (by rw [phase_note, hp]; rfl)
  | arriveMiss hp _ => exact h.note.put (by rw [phase_note, hp]; rfl)
  | acquire _ hh => exact h.taken hh rfl
  | recheckHit hp _ => exact h.freed (by rw [hp]; rfl) rfl
  | recheckMiss hp _ => exact h.put (by rw [hp]; rfl)
  | settle hp _ => exact h.freed (by rw [hp]; rfl) rfl
  | @abandon n hp =>
    -- who gives up while waiting for the guard leaves it with its holder
    rcases hg : (c.phase n).hasGuard with _ | _
    · have hne : c.holder ≠ some n := fun hh => by
        rw [(h n).mp hh] at hg
        cases hg
      have hput : (c.put n .gone).Guarded := h.put hg.symm
      rw [Crowd.abandon, if_neg hne]
      exact hput
    · rw [Crowd.abandon, if_pos ((h n).mpr hg)]
      exact h.freed hg rfl
  | invalidate => exact h
  | pass => exact h

/-- **Run.** Whatever is reached, the guard is where it is needed. -/
theorem guarded_of_reaches {o : Crowd} (ho : o.Guarded) (h : Reaches i t o c) : c.Guarded := by
  induction h with
  | refl => exact ho
  | step _ hstep ih => exact guarded_of_stepped ih (stepped_of_step? hstep)

/-! ## Exclusion -/

/-- **At most one caller has the guard.** -/
theorem Guarded.unique (h : c.Guarded) (hm : (c.phase m).hasGuard) (hn : (c.phase n).hasGuard) :
    m = n := by
  have hholder := (h m).mpr hm
  rw [(h n).mpr hn] at hholder
  exact (Option.some.inj hholder).symm

/-- **At most one caller awaits a reply.** -/
theorem Guarded.exchanging_unique (h : c.Guarded) (hm : (c.phase m).isExchanging)
    (hn : (c.phase n).isExchanging) : m = n :=
  h.unique (Phase.hasGuard_of_isExchanging hm) (Phase.hasGuard_of_isExchanging hn)

/-! ## Beginning an exchange -/

/-- **Beginning**: a step with which a caller comes to await a reply. -/
def Begins (n : Nat) (c e : Crowd) : Prop :=
  (c.phase n).isExchanging = false ∧ (e.phase n).isExchanging

/-- **Who begins** has the guard and has looked in vain for a valid token. -/
theorem Stepped.begins (h : Stepped i t c move e) (hb : Begins n c e) :
    move = .recheck n ∧ c.phase n = .guarding ∧ c.session.validToken? = none ∧
      e.session = i.asked c.session := by
  obtain ⟨hbefore, hafter⟩ := hb
  by_cases hn : move.caller? = some n
  · cases h with
    | recheckMiss hp hv =>
      obtain rfl := Option.some.inj hn
      exact ⟨rfl, hp, hv, rfl⟩
    | invalidate => cases hn
    | pass => cases hn
    | _ =>
      obtain rfl := Option.some.inj hn
      simp [Crowd.abandon, Phase.isExchanging] at hafter
  · rw [h.phase_eq hn, hbefore] at hafter
    cases hafter

/-- **Beginning**, with the guard. -/
theorem Guarded.begins (h : c.Guarded) (hstep : Stepped i t c move e) (hb : Begins n c e) :
    c.holder = some n ∧ c.session.validToken? = none ∧ e.session = i.asked c.session := by
  obtain ⟨-, hp, hv, hs⟩ := hstep.begins hb
  exact ⟨(h n).mpr (by rw [hp]; rfl), hv, hs⟩

/-- **Nothing else sends.** A request is sent only by a caller who begins an exchange. -/
theorem Stepped.begins_of_sends_ne (h : Stepped i t c move e)
    (hsends : e.session.sends ≠ c.session.sends) : ∃ n, Begins n c e := by
  cases h with
  -- the only step that dispatches a request is a second look in vain
  | @recheckMiss n hp _ =>
    refine ⟨n, ?_, ?_⟩
    · rw [hp]
      rfl
    · rw [phase_around, phase_put_self]
      rfl
  | settle => exact absurd (Issuer.sends_settled _) hsends
  | _ => exact absurd rfl hsends

end Crowd

end Outbound
