import Outbound.Proofs.Pipeline.Blind
import Outbound.Proofs.Pipeline.Growth

/-!
# Giving up a wait

A call that carries a cancellation gives up in the first wait that is not over when the cancellation
fires, and nowhere else. Until then it goes as it would have gone without one.

* **time** — `Cancellation.FiresAt` says when a cancellation fires, as far as this can be told at
  the beginning of a wait; `during?_of_firesAt` and `during?_eq_none` compare it with the end of the
  wait;
* **waits** — `Throttle.waits` lists the waits of a call, each with the session in which it begins;
  the course passes through every one of them (`suffix_of_mem_waits`), and has no others
  (`waitings_course`);
* **given up** — a wait that is cut short is the last one, and the call ends in it
  (`course_cut_short`);
* **unaffected** — as long as no wait is cut short, a round agrees with one that nobody can cancel
  (`agree_round`), and so does a course (`agree_course`).
-/

namespace Outbound

open Outbound.Time

/-! ## The time of a cancellation -/

namespace Cancellation

variable {c : Cancellation} {T : Instant} {p : Position} {d : Duration}

/-- **When a cancellation fires**, as it stands at a position from which nothing more is sent. One
that has fired by then did so at this time or before; any other fires with its alarm. -/
def FiresAt (c : Cancellation) (T : Instant) (p : Position) : Prop :=
  if c.hasFired p then T ≤ p.now else c.alarm.map (·.time) = some T

/-- An alarm whose time has passed has made the cancellation fire. -/
theorem hasFired_of_alarm_lt {a : Alarm} (ha : c.alarm = some a) (h : a.time < p.now) :
    c.hasFired p = true := by
  have hrung : a.hasRung p = true := by
    rw [Alarm.hasRung, decide_eq_true h, Bool.true_or]
  rw [hasFired, ha, Option.any_some, hrung, Bool.or_true, Bool.true_or]

/-- **An alarm** fires at its time, whatever the position. -/
theorem firesAt_alarm (T : Instant) (n : Nat) (p : Position) :
    FiresAt ⟨false, some ⟨T, n⟩, none⟩ T p := by
  unfold FiresAt
  split
  next h =>
    simp only [hasFired, Alarm.hasRung, Option.any_some, Option.any_none, Bool.false_or,
      Bool.or_false, Bool.or_eq_true, Bool.and_eq_true, decide_eq_true_eq, beq_iff_eq] at h
    rcases h with h | ⟨⟨h, -⟩, -⟩
    · exact Int.le_of_lt h
    · exact Int.le_of_eq h
  · rfl

/-- Before it fires, there is no other time at which it would. -/
theorem eq_of_firesAt_alarm {n : Nat} {T' : Instant} (hp : p.now < T)
    (h : FiresAt ⟨false, some ⟨T, n⟩, none⟩ T' p) : T' = T := by
  have hnone : hasFired ⟨false, some ⟨T, n⟩, none⟩ p = false := by
    simp only [hasFired, Alarm.hasRung, Option.any_some, Option.any_none, Bool.false_or,
      Bool.or_false, Bool.or_eq_false_iff, Bool.and_eq_false_iff, decide_eq_false_iff_not,
      beq_eq_false_iff_ne]
    exact ⟨Int.not_lt.mpr (Int.le_of_lt hp), .inl (.inl (Int.ne_of_gt hp))⟩
  rw [FiresAt, hnone] at h
  exact (Option.some.inj h).symm

/-- **Cut short**: a wait during which a cancellation fires, or before which it has fired, ends at
that time, or at once. -/
theorem during?_of_firesAt (h : c.FiresAt T p) (hT : T < p.now ∨ T < Instant.after p.now d) :
    c.during? d p = some (max p.now T) := by
  unfold FiresAt at h
  unfold during?
  split at h
  next hfired => rw [if_pos hfired, Int.max_eq_left h]
  next hfired =>
    obtain ⟨a, ha, rfl⟩ := Option.map_eq_some_iff.mp h
    have hnow : p.now ≤ a.time :=
      Int.not_lt.mp fun hlt => hfired (hasFired_of_alarm_lt ha hlt)
    have hend : a.time < Instant.after p.now d := hT.resolve_left (Int.not_lt.mpr hnow)
    rw [if_neg hfired, ha, Int.max_eq_right hnow]
    simp [hend]

/-- **Not disturbed**: a cancellation that can only fire when a wait is over does not end it. -/
theorem during?_eq_none (h : ∀ T, c.FiresAt T p → Instant.after p.now d < T) :
    c.during? d p = none := by
  unfold FiresAt at h
  unfold during?
  split at h
  next hfired =>
    have hle : p.now ≤ Instant.after p.now d := Int.le_add_of_nonneg_right (Int.natCast_nonneg _)
    exact absurd (h p.now (Int.le_refl _)) (Int.not_lt.mpr hle)
  next hfired =>
    rw [if_neg hfired, Option.filter_eq_none_iff]
    intro T hT
    simpa using Int.le_of_lt (h T hT)

end Cancellation

/-! ## The waits of a call -/

/-- The wait that an event begins: when, and how long it is to last. -/
def Event.waiting? : Event → Option (Instant × Duration)
  | .throttled time interval _ => some (time, interval)
  | _ => none

/-- **The view**: all waits that were begun, the first one in front. -/
def Session.waitings (s : Session) : List (Instant × Duration) := s.events.filterMap Event.waiting?

namespace Throttle

/-- **The wait of a round**, if it comes to one: the session in which it begins, and how long it is
to last. -/
def waitOf? (h : Throttle) (next : Next) (r : Request) (s : Session) :
    Option (Session × Duration) :=
  match (next.run r).run s with
  | (.response response, s') =>
    if response.status = .tooManyRequests then
      match h.take r with
      | (true, left) => some (h.pausing response left s', h.policy.interval (.response response))
      | (false, _) => none
    else none
  | _ => none

/-- **The waits of a call** that is followed for so many rounds, in order. -/
def waits (h : Throttle) (cancellation : Option Cancellation) (next : Next) :
    Nat → Request → Session → List (Session × Duration)
  | 0, _, _ => []
  | more + 1, r, s =>
    (h.waitOf? next r s).toList ++
      match (h.round cancellation next r).run s with
      | (.inl _, _) => []
      | (.inr r', s') => waits h cancellation next more r' s'

variable {h : Throttle} {cancellation : Option Cancellation} {c : Cancellation} {next : Next}
  {r r' left : Request} {s s' b : Session} {d : Duration} {response : Response}

/-- **What leads to a wait**: a throttled answer, and an attempt that is left. -/
theorem waitOf?_eq_some (hw : h.waitOf? next r s = some (b, d)) :
    ∃ response left s', (next.run r).run s = (.response response, s') ∧
      response.status = .tooManyRequests ∧ h.take r = (true, left) ∧
      b = h.pausing response left s' ∧ d = h.policy.interval (.response response) := by
  unfold waitOf? at hw
  split at hw
  next response s' hn =>
    split at hw
    next hs =>
      split at hw
      next left ht =>
        obtain ⟨rfl, rfl⟩ := Prod.mk.inj (Option.some.inj hw)
        exact ⟨response, left, s', hn, hs, ht, rfl, rfl⟩
      next => cases hw
    next => cases hw
  next => cases hw

theorem waitOf?_of_throttled (hn : (next.run r).run s = (.response response, s'))
    (hs : response.status = .tooManyRequests) (ht : h.take r = (true, left)) :
    h.waitOf? next r s =
      some (h.pausing response left s', h.policy.interval (.response response)) := by
  rw [waitOf?, hn]
  simp only [hs, if_true, ht]

/-- **A wait is recorded** when it begins, and nothing has happened since. -/
theorem milestones_of_mem_waits (rounds : Nat)
    (hw : (b, d) ∈ h.waits cancellation next rounds r s) :
    ∃ before, b.milestones = before ++ [.waiting b.now d] := by
  induction rounds generalizing r s with
  | zero => cases hw
  | succ more ih =>
    rw [waits, List.mem_append] at hw
    rcases hw with hw | hw
    · obtain ⟨response, left, s', -, -, -, rfl, rfl⟩ := waitOf?_eq_some (Option.mem_toList.mp hw)
      refine ⟨s'.milestones, ?_⟩
      rw [milestones_pausing, now_pausing]
    · rcases hr : (h.round cancellation next r).run s with ⟨outcome | r', s'⟩
      · rw [hr] at hw
        cases hw
      · rw [hr] at hw
        exact ih hw

/-- **A wait on the way**: the session in which it begins is one that the round passes through. -/
theorem suffix_of_waitOf? (ha : h.authenticator.Adds fun _ => True)
    (hw : h.waitOf? next r s = some (b, d)) :
    b.log <:+ ((h.round cancellation next r).run s).2.log := by
  obtain ⟨response, left, s', hn, hs, ht, rfl, -⟩ := waitOf?_eq_some hw
  rcases hp : (h.pause cancellation response left).run s' with ⟨waited, s₁⟩
  -- from the beginning of a wait to its end nothing is recorded
  have hbegun : s₁.log = (h.pausing response left s').log := by
    obtain ⟨time, rfl⟩ := leaves_pause hp
    rfl
  rw [← hbegun]
  rcases waited with f | _
  · rewrite [round_given_up hn hs ht hp]
    exact List.suffix_rfl
  rcases hc : (h.authenticator.call (h.equip r left)).run s₁ with ⟨⟨result, r'⟩, s₂⟩
  have hasked : s₁.log <:+ s₂.log := (ha.of_call (fun _ _ => trivial) hc).suffix
  rcases result with f | _
  · rw [round_refused hn hs ht hp hc]
    exact hasked
  · rw [round_resent hn hs ht hp hc]
    exact hasked

/-- **The course passes through its waits**: the session in which one begins is a stage of the log
that the course leaves. By induction on the rounds. -/
theorem suffix_of_mem_waits (ha : h.authenticator.Adds fun _ => True)
    (hnext : next.Adds fun _ => True) (rounds : Nat)
    (hw : (b, d) ∈ h.waits cancellation next rounds r s) :
    b.log <:+ ((h.course cancellation next rounds r).run s).2.log := by
  induction rounds generalizing r s with
  | zero => cases hw
  | succ more ih =>
    rw [waits, List.mem_append] at hw
    rw [course_succ]
    rcases hw with hw | hw
    · have hround : b.log <:+ ((h.round cancellation next r).run s).2.log :=
        suffix_of_waitOf? ha (Option.mem_toList.mp hw)
      rcases hr : (h.round cancellation next r).run s with ⟨outcome | r', s'⟩
      · rw [hr] at hround
        exact hround
      · rw [hr] at hround
        exact hround.trans (suffix_course ha hnext more r' s')
    · rcases hr : (h.round cancellation next r).run s with ⟨outcome | r', s'⟩
      · rw [hr] at hw
        cases hw
      · rw [hr] at hw
        exact ih hw

/-- **A round without a wait** has an outcome that is not throttled, or its budget is spent. -/
theorem waitOf?_of_settled {outcome : Outcome} (hn : (next.run r).run s = (outcome, s'))
    (ho : outcome.isThrottled = false) : h.waitOf? next r s = none := by
  rw [waitOf?, hn]
  cases outcome with
  | failure => rfl
  | unfinished => rfl
  | response response =>
    have hs : response.status ≠ .tooManyRequests := of_decide_eq_false ho
    simp only [hs, if_false]

theorem waitOf?_of_spent (hn : (next.run r).run s = (.response response, s'))
    (hs : response.status = .tooManyRequests) (ht : h.take r = (false, left)) :
    h.waitOf? next r s = none := by
  rw [waitOf?, hn]
  simp only [hs, if_true, ht]

/-- **A wait begins** where it is recorded. -/
theorem waitings_pause {waited : Except Failure Unit}
    (hp : (h.pause cancellation response left).run s = (waited, s')) :
    s'.waitings = s.waitings ++ [(s.now, h.policy.interval (.response response))] := by
  obtain ⟨time, rfl⟩ := leaves_pause hp
  exact filterMap_events_pausing (fun _ _ => rfl) rfl

/-- **A round begins its wait** and no other one, if nobody else waits. -/
theorem waitings_round (ha : h.authenticator.Adds fun e => e.waiting? = none)
    (hnext : next.Adds fun e => e.waiting? = none) {result : Outcome ⊕ Request}
    (hr : (h.round cancellation next r).run s = (result, s')) :
    s'.waitings = s.waitings ++ (h.waitOf? next r s).toList.map fun (b, d) => (b.now, d) := by
  have hanswered {outcome : Outcome} {s₁ : Session} (hn : (next.run r).run s = (outcome, s₁)) :
      s₁.waitings = s.waitings := (hnext.of_run hn).filterMap_events_eq
  have hcalled {q : Request} {s₁ s₂ : Session} {answer : Except Failure Unit × Request}
      (hc : (h.authenticator.call q).run s₁ = (answer, s₂)) : s₂.waitings = s₁.waitings :=
    (ha.of_call (fun _ _ => rfl) hc).filterMap_events_eq
  have hwaited {response : Response} {left : Request} {waited : Except Failure Unit}
      {s₁ s₂ : Session} (hn : (next.run r).run s = (.response response, s₁))
      (hs : response.status = .tooManyRequests) (ht : h.take r = (true, left))
      (hp : (h.pause cancellation response left).run s₁ = (waited, s₂)) :
      s₂.waitings =
        s.waitings ++ (h.waitOf? next r s).toList.map fun (b, d) => (b.now, d) := by
    rw [waitOf?_of_throttled hn hs ht, waitings_pause hp, hanswered hn, ← now_pausing]
    rfl
  cases rounded_of_run hr with
  | settled hn ho =>
    rw [waitOf?_of_settled hn ho, hanswered hn]
    exact (List.append_nil _).symm
  | spent hn hs ht =>
    rw [waitOf?_of_spent hn hs ht, ← hanswered hn]
    exact (filterMap_events_spend rfl rfl _).trans (List.append_nil _).symm
  | givenUp hn hs ht hp => exact hwaited hn hs ht hp
  | refused hn hs ht hp hc => exact (hcalled hc).trans (hwaited hn hs ht hp)
  | resent hn hs ht hp hc => exact (hcalled hc).trans (hwaited hn hs ht hp)

/-- **No other waits**: if nobody else waits, the log of a course has these and none besides. By
induction on the rounds. -/
theorem waitings_course (ha : h.authenticator.Adds fun e => e.waiting? = none)
    (hnext : next.Adds fun e => e.waiting? = none) (rounds : Nat) :
    ((h.course cancellation next rounds r).run s).2.waitings =
      s.waitings ++ (h.waits cancellation next rounds r s).map fun (b, d) => (b.now, d) := by
  induction rounds generalizing r s with
  | zero => exact (List.append_nil _).symm
  | succ more ih =>
    rw [course_succ, waits, List.map_append, ← List.append_assoc]
    rcases hr : (h.round cancellation next r).run s with ⟨outcome | r', s'⟩
    · rw [← waitings_round ha hnext hr]
      exact (List.append_nil _).symm
    · rw [← waitings_round ha hnext hr]
      exact ih

/-! ## Given up -/

/-- **A round whose wait is cut short** ends the call. -/
theorem round_cut_short {T : Instant} (hw : h.waitOf? next r s = some (b, d))
    (hT : c.during? d b.position = some T) :
    (h.round (some c) next r).run s = (.inl (.failure .cancelled), { b with now := T }) := by
  obtain ⟨response, left, s', hn, hs, ht, rfl, rfl⟩ := waitOf?_eq_some hw
  refine round_given_up hn hs ht ?_
  rw [run_pause, run_wait, Option.bind_some, hT]

/-- **A course gives up** in a wait that is cut short. This is its last wait, and nothing happens
after it has begun. By induction on the rounds. -/
theorem course_cut_short {T : Instant} (hT : c.during? d b.position = some T) (rounds : Nat)
    (hw : (b, d) ∈ h.waits (some c) next rounds r s) :
    (∃ earlier, h.waits (some c) next rounds r s = earlier ++ [(b, d)]) ∧
      ∃ handed, (h.course (some c) next rounds r).run s =
        (⟨handed, .failure .cancelled⟩, { b with now := T }) := by
  induction rounds generalizing r s with
  | zero => cases hw
  | succ more ih =>
    rw [waits, List.mem_append] at hw
    rw [waits, course_succ]
    rcases hw with hw | hw
    · have hwait : h.waitOf? next r s = some (b, d) := Option.mem_toList.mp hw
      rw [round_cut_short hwait hT, hwait]
      exact ⟨⟨[], rfl⟩, [r], rfl⟩
    · rcases hr : (h.round (some c) next r).run s with ⟨outcome | r', s'⟩
      · rw [hr] at hw
        cases hw
      · rw [hr] at hw
        obtain ⟨⟨earlier, hlast⟩, handed, hcourse⟩ := ih hw
        simp only [hlast, hcourse]
        exact ⟨⟨_ ++ earlier, (List.append_assoc _ _ _).symm⟩, r :: handed, rfl⟩

/-! ## Unaffected -/

/-- What is taken does not depend on the cancellation. -/
theorem take_bare (r : Request) : h.take r.bare = Prod.map id Request.bare (h.take r) := by
  rw [take, take, Request.budget_bare]
  cases r.budget <;> rfl

/-- **Taking** from requests that look the same. -/
theorem take_of_bare (hr : r.bare = r'.bare) :
    Prod.map id Request.bare (h.take r) = Prod.map id Request.bare (h.take r') := by
  rw [← take_bare, hr, take_bare]

theorem bare_equip (before r : Request) : (h.equip before r).bare = h.equip before.bare r.bare := by
  rw [equip, equip, Request.budget_bare]
  split <;> rfl

theorem bare_pausing (response : Response) (r : Request) (s : Session) :
    (h.pausing response r s).bare = h.pausing response r.bare s.bare := by
  have hbackoff (b : Backoff) (s : Session) :
      ((Event.ofBackoff b).foldl Session.record s).bare =
        (Event.ofBackoff b).foldl Session.record s.bare := by
    rcases hb : b.ignored with _ | header
    · rw [Event.ofBackoff, hb]
      rfl
    · rw [Event.ofBackoff, hb]
      rfl
  rw [pausing, pausing, Session.bare_record, Session.bare_record, hbackoff]
  rfl

/-- **A pause that is not cut short** agrees with one that nobody can cancel: both last to the
end. -/
theorem agree_pause (hr : r.bare = r'.bare) (hs : s.bare = s'.bare)
    (hw : c.during? (h.policy.interval (.response response))
      (h.pausing response r s).position = none) :
    Agree id ((h.pause (some c) response r).run s) ((h.pause none response r').run s') := by
  rw [run_pause, run_pause, run_wait_none, run_wait, Option.bind_some, hw]
  refine ⟨rfl, ?_⟩
  rw [Session.bare_later, Session.bare_later, bare_pausing, bare_pausing, hr, hs]

/-- **A round whose wait is not cut short** agrees with one that nobody can cancel. -/
theorem agree_round (ha : h.authenticator.Blind) (hnext : next.Blind) (hr : r.bare = r'.bare)
    (hs : s.bare = s'.bare)
    (hw : ∀ b d, h.waitOf? next r s = some (b, d) → c.during? d b.position = none) :
    Agree (Sum.map id Request.bare) ((h.round (some c) next r).run s)
      ((h.round none next r').run s') := by
  obtain ⟨outcome, s₁, s₁', hn, hn', hs₁⟩ := (hnext hr hs).exists_eq
  rcases hth : outcome.isThrottled with _ | _
  · rw [round_settled hn hth, round_settled hn' hth]
    exact ⟨rfl, hs₁⟩
  obtain ⟨response, rfl, hstatus⟩ := Outcome.exists_response_of_isThrottled hth
  have htake := take_of_bare (h := h) hr
  rcases ht : h.take r with ⟨resends, left⟩
  rcases ht' : h.take r' with ⟨resends', left'⟩
  rw [ht, ht'] at htake
  obtain ⟨hresends, hleft⟩ := Prod.mk.inj htake
  obtain rfl : resends = resends' := hresends
  rcases resends with _ | _
  · rw [round_spent hn hstatus ht, round_spent hn' hstatus ht']
    exact ⟨rfl, congrArg spend hs₁⟩
  obtain ⟨waited, s₂, s₂', hp, hp', hs₂⟩ :=
    (agree_pause hleft hs₁ (hw _ _ (waitOf?_of_throttled hn hstatus ht))).exists_eq
  rcases waited with f | _
  · rw [round_given_up hn hstatus ht hp, round_given_up hn' hstatus ht' hp']
    exact ⟨rfl, hs₂⟩
  -- what the authenticator is asked to write to looks the same, too
  have hequip : (h.equip r left).bare = (h.equip r' left').bare := by
    rw [bare_equip, hr, hleft, ← bare_equip]
  obtain ⟨hresult, hs₃⟩ := ha.call hequip hs₂
  rcases hc : (h.authenticator.call (h.equip r left)).run s₂ with ⟨⟨result, q⟩, s₃⟩
  rcases hc' : (h.authenticator.call (h.equip r' left')).run s₂' with ⟨⟨result', q'⟩, s₃'⟩
  rw [hc, hc'] at hresult hs₃
  obtain ⟨hresult, hq⟩ := Prod.mk.inj hresult
  obtain rfl : result = result' := hresult
  rcases result with f | _
  · rw [round_refused hn hstatus ht hp hc, round_refused hn' hstatus ht' hp' hc']
    exact ⟨rfl, hs₃⟩
  · rw [round_resent hn hstatus ht hp hc, round_resent hn' hstatus ht' hp' hc']
    exact ⟨congrArg Sum.inr hq, hs₃⟩

/-- **A course none of whose waits is cut short** agrees with one that nobody can cancel. By
induction on the rounds; what the rounds before have handed on and left looks the same. -/
theorem agree_course (ha : h.authenticator.Blind) (hnext : next.Blind) (rounds : Nat)
    (hr : r.bare = r'.bare) (hs : s.bare = s'.bare)
    (hw : ∀ b d, (b, d) ∈ h.waits (some c) next rounds r s → c.during? d b.position = none) :
    Agree Course.outcome ((h.course (some c) next rounds r).run s)
      ((h.course none next rounds r').run s') := by
  induction rounds generalizing r r' s s' with
  | zero => exact ⟨rfl, hs⟩
  | succ more ih =>
    have hround : Agree (Sum.map id Request.bare) ((h.round (some c) next r).run s)
        ((h.round none next r').run s') := by
      refine agree_round ha hnext hr hs fun b d hwait => hw b d ?_
      rw [waits, hwait]
      exact List.mem_cons_self
    obtain ⟨hverdict, hs₁⟩ := hround
    rw [waits] at hw
    rw [course_succ, course_succ]
    rcases hx : (h.round (some c) next r).run s with ⟨outcome | q, s₁⟩ <;>
      rcases hy : (h.round none next r').run s' with ⟨outcome' | q', s₁'⟩ <;>
      rw [hx, hy] at hverdict hs₁
    · exact ⟨Sum.inl.inj hverdict, hs₁⟩
    · cases hverdict
    · cases hverdict
    · rw [hx] at hw
      exact ih (Sum.inr.inj hverdict) hs₁ fun b d hmem => hw b d (List.mem_append_right _ hmem)

/-! ## Calls -/

/-- **Giving up, or nothing.** A call that carries a cancellation which fires before one of its
waits begins, or before it is over, fails in this wait, as soon as both have come. The wait is the
last one, and no credentials are asked for and nothing is sent after it has begun. A cancellation
that does not fire before every wait is over makes no difference: but for its being carried along,
the call goes as it does without it, as long as neither the authenticator nor the rest of the way
looks at it. -/
theorem given_up_or_unaffected (h : Throttle) (c : Cancellation) (next : Next) (rounds : Nat)
    (r : Request) (s : Session) :
    let call (r : Request) := ((h.interceptor rounds).intercept r next).run s
    let waits := h.waits (some c) next rounds (r.carrying c)
      (s.record (.opened .rateLimitRetry "intercept"))
    (∀ b d T, (b, d) ∈ waits → c.FiresAt T b.position →
      (T < b.now ∨ T < Instant.after b.now d) →
      (∃ earlier, waits = earlier ++ [(b, d)]) ∧
      (∃ before, b.milestones = before ++ [.waiting b.now d]) ∧
      call (r.carrying c) = (.failure .cancelled, { b with now := max b.now T })) ∧
    (h.authenticator.Blind → next.Blind →
      (∀ b d T, (b, d) ∈ waits → c.FiresAt T b.position → Instant.after b.now d < T) →
      Agree id (call (r.carrying c)) (call r.bare)) := by
  intro call waits
  refine ⟨fun b d T hmem hfires hT => ?_, fun ha hnext hlate => ?_⟩
  · have hcut : c.during? d b.position = some (max b.now T) :=
      Cancellation.during?_of_firesAt hfires hT
    obtain ⟨hlast, handed, hcourse⟩ := course_cut_short hcut rounds hmem
    exact ⟨hlast, milestones_of_mem_waits rounds hmem,
      congrArg (Prod.map Course.outcome id) hcourse⟩
  · have hbare : (r.carrying c).bare = r.bare.bare := r.bare_carrying c
    exact agree_course ha hnext rounds hbare rfl
      fun b d hmem => Cancellation.during?_eq_none fun T => hlate b d T hmem

/-- **Half a second and two seconds.** A call that is turned away and waits for a second gives up
after half a second, if it may; after two seconds it is over, and nobody has noticed. -/
theorem given_up_or_unaffected_throttling :
    let h : Throttle := ⟨Credential.noAuth.authenticator .throttling, ⟨⟨1000000000⟩, some 1⟩⟩
    let custom : List Interceptor := [.preparing "tag" (·.withHeader .accept ⟨[0x2A], false⟩),
      .amending "cut" ({ · with body := [] }), .repeating "twice" 2]
    let next := chain .throttling (custom.map Interceptor.recorded)
    let alarm (T : Instant) : Cancellation := ⟨false, some ⟨T, 0⟩, none⟩
    let call (r : Request) := ((h.interceptor 3).intercept r next).run (.start 0)
    (∃ b : Session, b.sends = 2 ∧ b.authentications = 0 ∧
      call (Request.ofItems.carrying (alarm 500000000)) =
        (.failure .cancelled, { b with now := 500000000 })) ∧
    Agree id (call (Request.ofItems.carrying (alarm 2000000000))) (call Request.ofItems.bare) := by
  intro h custom next alarm call
  let waits (T : Instant) := h.waits (some (alarm T)) next 3 (Request.ofItems.carrying (alarm T))
    ((Session.start 0).record (.opened .rateLimitRetry "intercept"))
  let view (w : Session × Duration) := (w.1.now, w.1.sends, w.1.authentications, w.2)
  have hearly : (waits 500000000).map view = [(0, 2, 0, ⟨1000000000⟩)] := by decide
  have hlate : (waits 2000000000).map view = [(0, 2, 0, ⟨1000000000⟩)] := by decide
  constructor
  · obtain ⟨⟨b, d⟩, hw, hview⟩ := List.map_eq_singleton_iff.mp hearly
    obtain ⟨hnow, hsends, hasked, rfl⟩ : b.now = 0 ∧ b.sends = 2 ∧ b.authentications = 0 ∧
        d = ⟨1000000000⟩ := by simpa [view] using hview
    have hgiven := ((given_up_or_unaffected h (alarm 500000000) next 3 .ofItems (.start 0)).1
      b _ 500000000 (hw ▸ List.mem_singleton_self _) (Cancellation.firesAt_alarm _ _ _)
      (.inr (by rw [hnow]; decide))).2.2
    rw [hnow] at hgiven
    exact ⟨b, hsends, hasked, hgiven⟩
  · have hcustom : ∀ i ∈ custom, i.Blind :=
      List.forall_mem_cons.mpr ⟨Interceptor.blind_preparing fun _ => rfl,
        List.forall_mem_cons.mpr ⟨Interceptor.blind_amending _,
          List.forall_mem_singleton.mpr (Interceptor.blind_repeating 2)⟩⟩
    have hnext : next.Blind := blind_chain _ fun j hj => by
      obtain ⟨i, hi, rfl⟩ := List.mem_map.mp hj
      exact (hcustom i hi).recorded
    refine (given_up_or_unaffected h (alarm 2000000000) next 3 .ofItems (.start 0)).2
      (Credential.blind _ _) hnext fun b d T hmem hfires => ?_
    obtain ⟨w, hw, hview⟩ := List.map_eq_singleton_iff.mp hlate
    obtain rfl : (b, d) = w := List.mem_singleton.mp (hw ▸ hmem)
    obtain ⟨hnow, -, -, rfl⟩ : b.now = 0 ∧ b.sends = 2 ∧ b.authentications = 0 ∧
        d = ⟨1000000000⟩ := by simpa [view] using hview
    have hpos : b.position.now < 2000000000 := by
      change b.now < 2000000000
      rw [hnow]
      decide
    rw [Cancellation.eq_of_firesAt_alarm hpos hfires, hnow]
    decide

end Throttle

end Outbound
