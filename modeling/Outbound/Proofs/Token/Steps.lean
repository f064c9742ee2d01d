import Outbound.Proofs.Token.Exchange
import Outbound.Token.Callers

/-!
# Steps of a crowd

What one move does to the callers around a session, and when it can happen.

* **parts** — what putting a caller into a phase, noting its arrival, changing the session or
  handing over the guard does to each part of a crowd;
* **looks** — a look at the kept token hits or misses, on arrival (`arrive_hit`, `arrive_miss`) and
  with the guard (`recheck_hit`, `recheck_miss`);
* **moves** — for each move, the phase in which it can happen and the crowd that it leads to;
* **cases** — `Stepped` lists what a step can be, and every step is one of these
  (`stepped_of_step?`).
-/

namespace Outbound

open Outbound.Time

/-- **Waiting** callers are those who may give up. -/
def Phase.isWaiting : Phase → Bool
  | .needing | .guarding | .exchanging .. => true
  | _ => false

/-- The caller who makes a move. -/
def Move.caller? : Move → Option Nat
  | .arrive n | .acquire n | .recheck n | .settle n | .abandon n => some n
  | .invalidate | .pass _ => none

namespace Crowd

variable {c e : Crowd} {n m : Nat} {phase : Phase} {s : Session} {holder : Option Nat}

/-! ## Parts of a crowd -/

section Parts

@[simp] theorem session_put : (c.put n phase).session = c.session := rfl

@[simp] theorem arrival_put : (c.put n phase).arrival = c.arrival := rfl

@[simp] theorem holder_put : (c.put n phase).holder = c.holder := rfl

@[simp] theorem phase_put_self : (c.put n phase).phase n = phase := if_pos rfl

theorem phase_put_of_ne (h : m ≠ n) : (c.put n phase).phase m = c.phase m := if_neg h

@[simp] theorem session_note : (c.note n).session = c.session := rfl

@[simp] theorem phase_note : (c.note n).phase = c.phase := rfl

@[simp] theorem holder_note : (c.note n).holder = c.holder := rfl

@[simp] theorem arrival_note_self : (c.note n).arrival n = some c.session.now := if_pos rfl

theorem arrival_note_of_ne (h : m ≠ n) : (c.note n).arrival m = c.arrival m := if_neg h

@[simp] theorem session_around : (c.around s).session = s := rfl

@[simp] theorem arrival_around : (c.around s).arrival = c.arrival := rfl

@[simp] theorem phase_around : (c.around s).phase = c.phase := rfl

@[simp] theorem holder_around : (c.around s).holder = c.holder := rfl

@[simp] theorem session_guardedBy : (c.guardedBy holder).session = c.session := rfl

@[simp] theorem arrival_guardedBy : (c.guardedBy holder).arrival = c.arrival := rfl

@[simp] theorem phase_guardedBy : (c.guardedBy holder).phase = c.phase := rfl

@[simp] theorem holder_guardedBy : (c.guardedBy holder).holder = holder := rfl

end Parts

/-! ## Looks at the kept token -/

section Looks

variable {i : Issuer} {t : Transport} {token : AccessToken}

/-- **Hit on arrival**: the kept token is the answer. -/
theorem arrive_hit (h : c.session.validToken? = some token) :
    c.arrive n = (c.note n).put n (.answered (.kept token c.session.now)) := by
  rw [arrive, h]

/-- **Miss on arrival**: the caller needs the guard. -/
theorem arrive_miss (h : c.session.validToken? = none) :
    c.arrive n = (c.note n).put n .needing := by
  rw [arrive, h]

/-- **Hit with the guard**: the kept token is the answer, and the guard is free. -/
theorem recheck_hit (h : c.session.validToken? = some token) :
    c.recheck i t n = (c.put n (.answered (.kept token c.session.now))).guardedBy none := by
  rw [recheck, h]

/-- **Miss with the guard**: a request is sent. -/
theorem recheck_miss (h : c.session.validToken? = none) :
    c.recheck i t n =
      (c.put n (.exchanging (t c.session.sends).outcome
        (Instant.after c.session.now (t c.session.sends).delay))).around (i.asked c.session) := by
  rw [recheck, h]
  rfl

/-- **Taking the reply** answers what is in it and frees the guard. -/
theorem settle_eq (outcome : Except TransportFailure Response) :
    c.settle n outcome =
      ((c.put n (.answered (.exchanged (Issuer.tokenOfOutcome outcome c.session.now)))).around
        (Issuer.settled outcome c.session)).guardedBy none := by
  rw [settle, Issuer.run_settle]

end Looks

/-! ## Moves -/

section Moves

variable (i : Issuer) (t : Transport)

theorem step?_arrive :
    c.step? i t (.arrive n) = some e ↔ c.phase n = .away ∧ c.arrive n = e := by
  rw [step?]
  cases c.phase n <;> simp

theorem step?_acquire :
    c.step? i t (.acquire n) = some e ↔
      c.phase n = .needing ∧ c.holder = none ∧ (c.put n .guarding).guardedBy (some n) = e := by
  rw [step?]
  cases c.phase n <;> cases c.holder <;> simp

theorem step?_recheck :
    c.step? i t (.recheck n) = some e ↔ c.phase n = .guarding ∧ c.recheck i t n = e := by
  rw [step?]
  cases c.phase n <;> simp

theorem step?_settle :
    c.step? i t (.settle n) = some e ↔
      ∃ outcome due, c.phase n = .exchanging outcome due ∧ due ≤ c.session.now ∧
        c.settle n outcome = e := by
  rw [step?]
  cases c.phase n with
  | exchanging outcome due =>
    rw [Option.ite_none_right_eq_some, Option.some.injEq]
    constructor
    · intro h
      exact ⟨outcome, due, rfl, h⟩
    · rintro ⟨_, _, ⟨⟩, h⟩
      exact h
  | _ => simp

theorem step?_abandon :
    c.step? i t (.abandon n) = some e ↔ (c.phase n).isWaiting ∧ c.abandon n = e := by
  rw [step?]
  cases c.phase n <;> simp [Phase.isWaiting]

theorem step?_invalidate :
    c.step? i t .invalidate = some e ↔ c.around (c.session.keep none) = e := by
  rw [step?, Option.some.injEq]

theorem step?_pass (d : Duration) :
    c.step? i t (.pass d) = some e ↔ c.around (c.session.later d) = e := by
  rw [step?, Option.some.injEq]

variable {i t}

/-- **The cases of a step**, each with what it takes and the crowd that it leads to. -/
inductive Stepped (i : Issuer) (t : Transport) (c : Crowd) : Move → Crowd → Prop
  /-- The caller finds a valid token on arrival. -/
  | arriveHit {n : Nat} {token : AccessToken} :
      c.phase n = .away → c.session.validToken? = some token →
      Stepped i t c (.arrive n) ((c.note n).put n (.answered (.kept token c.session.now)))
  /-- The caller finds none. -/
  | arriveMiss {n : Nat} : c.phase n = .away → c.session.validToken? = none →
      Stepped i t c (.arrive n) ((c.note n).put n .needing)
  /-- The caller takes the guard. -/
  | acquire {n : Nat} : c.phase n = .needing → c.holder = none →
      Stepped i t c (.acquire n) ((c.put n .guarding).guardedBy (some n))
  /-- The caller finds a token that somebody else has obtained. -/
  | recheckHit {n : Nat} {token : AccessToken} :
      c.phase n = .guarding → c.session.validToken? = some token →
      Stepped i t c (.recheck n)
        ((c.put n (.answered (.kept token c.session.now))).guardedBy none)
  /-- The caller sends a request. -/
  | recheckMiss {n : Nat} : c.phase n = .guarding → c.session.validToken? = none →
      Stepped i t c (.recheck n)
        ((c.put n (.exchanging (t c.session.sends).outcome
          (Instant.after c.session.now (t c.session.sends).delay))).around (i.asked c.session))
  /-- The reply to the request of the caller has come. -/
  | settle {n : Nat} {outcome : Except TransportFailure Response} {due : Instant} :
      c.phase n = .exchanging outcome due → due ≤ c.session.now →
      Stepped i t c (.settle n)
        (((c.put n (.answered (.exchanged (Issuer.tokenOfOutcome outcome c.session.now)))).around
          (Issuer.settled outcome c.session)).guardedBy none)
  /-- The caller gives up. -/
  | abandon {n : Nat} : (c.phase n).isWaiting → Stepped i t c (.abandon n) (c.abandon n)
  /-- The kept token is dropped. -/
  | invalidate : Stepped i t c .invalidate (c.around (c.session.keep none))
  /-- Time passes. -/
  | pass {d : Duration} : Stepped i t c (.pass d) (c.around (c.session.later d))

/-- **Inversion.** A step is one of the cases. -/
theorem stepped_of_step? {move : Move} (h : c.step? i t move = some e) : Stepped i t c move e := by
  cases move with
  | arrive n =>
    obtain ⟨hp, rfl⟩ := (step?_arrive i t).mp h
    rcases hv : c.session.validToken? with _ | token
    · rw [arrive_miss hv]
      exact .arriveMiss hp hv
    · rw [arrive_hit hv]
      exact .arriveHit hp hv
  | acquire n =>
    obtain ⟨hp, hh, rfl⟩ := (step?_acquire i t).mp h
    exact .acquire hp hh
  | recheck n =>
    obtain ⟨hp, rfl⟩ := (step?_recheck i t).mp h
    rcases hv : c.session.validToken? with _ | token
    · rw [recheck_miss hv]
      exact .recheckMiss hp hv
    · rw [recheck_hit hv]
      exact .recheckHit hp hv
  | settle n =>
    obtain ⟨outcome, due, hp, hdue, rfl⟩ := (step?_settle i t).mp h
    rw [settle_eq]
    exact .settle hp hdue
  | abandon n =>
    obtain ⟨hp, rfl⟩ := (step?_abandon i t).mp h
    exact .abandon hp
  | invalidate =>
    obtain rfl := (step?_invalidate i t).mp h
    exact .invalidate
  | pass d =>
    obtain rfl := (step?_pass i t d).mp h
    exact .pass

/-- **Frame.** The others stay where they are. -/
theorem Stepped.phase_eq {move : Move} (h : Stepped i t c move e) (hn : move.caller? ≠ some n) :
    e.phase n = c.phase n := by
  cases h with
  | invalidate => rfl
  | pass => rfl
  | _ =>
    have hne : n ≠ _ := fun hn' => hn (congrArg some hn'.symm)
    exact phase_put_of_ne hne

/-- **Frame.** Nobody arrives but the caller who does. -/
theorem Stepped.arrival_eq {move : Move} (h : Stepped i t c move e) (hn : c.phase n ≠ .away) :
    e.arrival n = c.arrival n := by
  cases h with
  | arriveHit hp =>
    have hne : n ≠ _ := fun hn' => hn (hn' ▸ hp)
    exact arrival_note_of_ne hne
  | arriveMiss hp =>
    have hne : n ≠ _ := fun hn' => hn (hn' ▸ hp)
    exact arrival_note_of_ne hne
  | _ => rfl

/-- **Time** does not run backwards. -/
theorem Stepped.now_le {move : Move} (h : Stepped i t c move e) :
    c.session.now ≤ e.session.now := by
  cases h with
  | settle => exact Int.le_of_eq (Issuer.now_settled _).symm
  | @pass d => exact Int.le_add_of_nonneg_right (Int.natCast_nonneg d.nanos)
  | _ => exact Int.le_refl _

end Moves

end Crowd

end Outbound
