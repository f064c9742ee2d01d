import Outbound.Proofs.Token.Guard

/-!
# Where answers come from

Whatever a caller is answered, something that it has done itself in the course of its call explains
it.

* **past** — `After` says that a crowd comes of another by a certain move, with any others behind
  it;
* **explanations** — a caller awaits the reply to a request that it has sent itself (`AskedInCall`);
  it is answered what it has read in the course of its call (`ReadInCall`), or what that reply holds
  (`RepliedInCall`);
* **invariants** — everybody who is there has come at some time (`Timely`), and what it awaits or
  has been answered comes from its own call (`Explained`); every step preserves both, so they hold
  of all that is reached (`timely_of_reaches`, `explained_of_reaches`).
-/

namespace Outbound

open Outbound.Time

namespace Crowd

variable {i : Issuer} {t : Transport} {o c d e : Crowd} {move : Move} {n : Nat}

/-! ## The past of a crowd -/

/-- **After a move** in `d`, others may have followed on the way to `c`. -/
def After (i : Issuer) (t : Transport) (move : Move) (d c : Crowd) : Prop :=
  ∃ e, d.step? i t move = some e ∧ Reaches i t e c

theorem After.of_step? (h : c.step? i t move = some e) : After i t move c e := ⟨e, h, .refl e⟩

theorem After.step {last : Move} (h : After i t move d c) (hlast : c.step? i t last = some e) :
    After i t move d e := by
  obtain ⟨f, hf, hreach⟩ := h
  exact ⟨f, hf, hreach.step hlast⟩

/-- **Asked in the call**: after a look in vain, the caller has sent the request to which `outcome`
is the reply. -/
def AskedInCall (i : Issuer) (t : Transport) (o : Crowd) (n : Nat)
    (outcome : Except TransportFailure Response) (c : Crowd) : Prop :=
  ∃ b, Reaches i t o b ∧ b.session.validToken? = none ∧ outcome = (t b.session.sends).outcome ∧
    After i t (.recheck n) b c

/-- **Read in the call**: a look of the caller, on arrival or with the guard, was at the time
`readAt`, found `token` kept, and found it valid. -/
def ReadInCall (i : Issuer) (t : Transport) (o : Crowd) (n : Nat) (token : AccessToken)
    (readAt : Instant) (c : Crowd) : Prop :=
  ∃ b look, Reaches i t o b ∧ (look = .arrive n ∨ look = .recheck n) ∧ After i t look b c ∧
    b.session.now = readAt ∧ b.session.kept = some token ∧ token.isValidAt readAt ∧
    ∃ came, c.arrival n = some came ∧ came ≤ readAt

/-- **Replied in the call**: `result` is what the reply to the request of the caller held when it
was taken. -/
def RepliedInCall (i : Issuer) (t : Transport) (o : Crowd) (n : Nat)
    (result : Except Failure AccessToken) (c : Crowd) : Prop :=
  ∃ b outcome, Reaches i t o b ∧ AskedInCall i t o n outcome b ∧ After i t (.settle n) b c ∧
    result = Issuer.tokenOfOutcome outcome b.session.now

theorem AskedInCall.step {outcome : Except TransportFailure Response}
    (h : AskedInCall i t o n outcome c) (hstep : c.step? i t move = some e) :
    AskedInCall i t o n outcome e := by
  obtain ⟨b, hb, hv, houtcome, hafter⟩ := h
  exact ⟨b, hb, hv, houtcome, hafter.step hstep⟩

theorem RepliedInCall.step {result : Except Failure AccessToken}
    (h : RepliedInCall i t o n result c) (hstep : c.step? i t move = some e) :
    RepliedInCall i t o n result e := by
  obtain ⟨b, outcome, hb, hasked, hafter, hresult⟩ := h
  exact ⟨b, outcome, hb, hasked, hafter.step hstep, hresult⟩

/-- When a caller came does not change afterwards. -/
theorem ReadInCall.step {token : AccessToken} {readAt : Instant}
    (h : ReadInCall i t o n token readAt c) (hn : c.phase n ≠ .away)
    (hstep : c.step? i t move = some e) : ReadInCall i t o n token readAt e := by
  obtain ⟨b, look, hb, hlook, hafter, hnow, hkept, hvalid, came, harrival, hcame⟩ := h
  refine ⟨b, look, hb, hlook, hafter.step hstep, hnow, hkept, hvalid, came, ?_, hcame⟩
  rw [(stepped_of_step? hstep).arrival_eq hn, harrival]

/-! ## Arrivals -/

/-- **Timely**: everybody who is there came at some time that is not later than now. -/
def Timely (c : Crowd) : Prop :=
  ∀ n, c.phase n ≠ .away → ∃ came, c.arrival n = some came ∧ came ≤ c.session.now

theorem timely_of_stepped (h : c.Timely) (hstep : Stepped i t c move e) : e.Timely := by
  intro n hn
  by_cases hp : c.phase n = .away
  · by_cases hmover : move.caller? = some n
    -- who was away until now has just arrived
    · cases hstep with
      | invalidate => cases hmover
      | pass => cases hmover
      | arriveHit =>
        obtain rfl := Option.some.inj hmover
        exact ⟨_, arrival_note_self, Int.le_refl _⟩
      | arriveMiss =>
        obtain rfl := Option.some.inj hmover
        exact ⟨_, arrival_note_self, Int.le_refl _⟩
      | acquire hphase | recheckHit hphase | recheckMiss hphase | settle hphase | abandon hphase =>
        obtain rfl := Option.some.inj hmover
        rw [hp] at hphase
        cases hphase
    · rw [hstep.phase_eq hmover] at hn
      exact absurd hp hn
  · obtain ⟨came, harrival, hcame⟩ := h n hp
    exact ⟨came, (hstep.arrival_eq hp).trans harrival, Int.le_trans hcame hstep.now_le⟩

theorem timely_of_reaches (ho : o.Timely) (h : Reaches i t o c) : c.Timely := by
  induction h with
  | refl => exact ho
  | step _ hstep ih => exact timely_of_stepped ih (stepped_of_step? hstep)

/-! ## The invariant -/

/-- **Explained**: what a caller in a phase awaits or has been answered comes from its own call. -/
def Explained (i : Issuer) (t : Transport) (o : Crowd) (n : Nat) (c : Crowd) : Phase → Prop
  | .exchanging outcome _ => AskedInCall i t o n outcome c
  | .answered (.kept token readAt) => ReadInCall i t o n token readAt c
  | .answered (.exchanged result) => RepliedInCall i t o n result c
  | _ => True

/-- An explanation stays one. -/
theorem Explained.step (h : Explained i t o n c (c.phase n))
    (hstep : c.step? i t move = some e) : Explained i t o n e (c.phase n) := by
  cases hp : c.phase n with
  | exchanging outcome due =>
    rw [hp] at h
    exact AskedInCall.step h hstep
  | answered answer =>
    rw [hp] at h
    cases answer with
    | kept token readAt =>
      refine ReadInCall.step h ?_ hstep
      rw [hp]
      exact nofun
    | exchanged result => exact RepliedInCall.step h hstep
  | _ => trivial

/-- **Step.** Every step leaves every caller explained. -/
theorem explained_of_step? (ho : Reaches i t o c) (htimely : c.Timely)
    (h : Explained i t o n c (c.phase n)) (hstep : c.step? i t move = some e) :
    Explained i t o n e (e.phase n) := by
  have hcases := stepped_of_step? hstep
  by_cases hmover : move.caller? = some n
  · cases hcases with
    | invalidate => cases hmover
    | pass => cases hmover
    | arriveHit _ hv =>
      obtain rfl := Option.some.inj hmover
      obtain ⟨hkept, hvalid⟩ := Session.validToken?_eq_some.mp hv
      rw [phase_put_self]
      exact ⟨c, _, ho, .inl rfl, .of_step? hstep, rfl, hkept, hvalid, _, arrival_note_self,
        Int.le_refl _⟩
    | recheckHit hp hv =>
      obtain rfl := Option.some.inj hmover
      obtain ⟨hkept, hvalid⟩ := Session.validToken?_eq_some.mp hv
      obtain ⟨came, harrival, hcame⟩ := htimely _ (by rw [hp]; exact nofun)
      rw [phase_guardedBy, phase_put_self]
      exact ⟨c, _, ho, .inr rfl, .of_step? hstep, rfl, hkept, hvalid, came, harrival, hcame⟩
    | recheckMiss _ hv =>
      obtain rfl := Option.some.inj hmover
      rw [phase_around, phase_put_self]
      exact ⟨c, ho, hv, rfl, .of_step? hstep⟩
    | settle hp =>
      obtain rfl := Option.some.inj hmover
      rw [hp] at h
      rw [phase_guardedBy, phase_around, phase_put_self]
      exact ⟨c, _, ho, h, .of_step? hstep, rfl⟩
    | arriveMiss | acquire | abandon =>
      obtain rfl := Option.some.inj hmover
      simp [Crowd.abandon, Explained]
  · rw [hcases.phase_eq hmover]
    exact h.step hstep

/-- **Run.** Everybody is explained in whatever is reached from the beginning. -/
theorem explained_of_reaches {s : Session} (h : Reaches i t (start s) c) (n : Nat) :
    Explained i t (start s) n c (c.phase n) := by
  induction h with
  | refl => trivial
  | step hreach hstep ih =>
    have htimely := timely_of_reaches (o := start s) (fun n hn => absurd rfl hn) hreach
    exact explained_of_step? hreach htimely ih hstep

end Crowd

end Outbound
