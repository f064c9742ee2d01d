import Outbound.Proofs.Throttle.Milestone

/-!
# Rounds of a throttled call

A round sends the request once and decides what becomes of the call: it has its outcome, or there is
a request to send next.

* **budget** — what taking an attempt needs, and what is left (`take_eq_true_cases`,
  `take_eq_false_cases`);
* **course** — `course_succ` composes a course of rounds;
* **cases** — a round ends the call with an answer that is not throttled (`round_settled`), with the
  last throttled answer that the budget allows (`round_spent`), or waits; the wait can be given up
  (`round_given_up`) and credentials refused (`round_refused`), otherwise the call is sent again
  (`round_resent`); `rounded_of_run` is the inversion.
-/

namespace Outbound

open Outbound.Time

namespace Throttle

/-! ## Taking an attempt -/

section Take

variable {h : Throttle} {r left : Request}

/-- **What was taken** when another send is allowed, and the budget with which it is made. -/
theorem take_eq_true_cases (ht : h.take r = (true, left)) :
    (r.budget = none ∧ h.policy.maxRetries ≠ some 0 ∧
      h.equip r left = r.withBudget ⟨h.policy.maxRetries⟩) ∨
    (r.budget = some ⟨none⟩ ∧ h.equip r left = r.withBudget ⟨none⟩) ∨
    ∃ k, 1 < k ∧ r.budget = some ⟨some k⟩ ∧ h.equip r left = r.withBudget ⟨some (k - 1)⟩ := by
  rcases hb : r.budget with _ | ⟨_ | k⟩
  · rw [take, hb] at ht
    obtain ⟨hm, rfl⟩ := Prod.mk.inj ht
    refine .inl ⟨rfl, of_decide_eq_true hm, ?_⟩
    rw [equip, hb]
    rfl
  · rw [take, hb] at ht
    obtain ⟨-, rfl⟩ := Prod.mk.inj ht
    refine .inr (.inl ⟨rfl, ?_⟩)
    rw [equip, hb]
    rfl
  · rw [take, hb] at ht
    obtain ⟨hk, rfl⟩ := Prod.mk.inj ht
    refine .inr (.inr ⟨k, of_decide_eq_true hk, rfl, ?_⟩)
    rw [equip, hb]
    rfl

/-- **When nothing can be taken**: a policy without resends, or a budget for the send at hand. -/
theorem take_eq_false_cases (ht : h.take r = (false, left)) :
    (r.budget = none ∧ h.policy.maxRetries = some 0) ∨
    ∃ k, k ≤ 1 ∧ r.budget = some ⟨some k⟩ := by
  rcases hb : r.budget with _ | ⟨_ | k⟩
  · rw [take, hb] at ht
    exact .inl ⟨rfl, Decidable.of_not_not (of_decide_eq_false (Prod.mk.inj ht).1)⟩
  · rw [take, hb] at ht
    cases (Prod.mk.inj ht).1
  · rw [take, hb] at ht
    exact .inr ⟨k, Nat.le_of_not_lt (of_decide_eq_false (Prod.mk.inj ht).1), rfl⟩

end Take

/-! ## Rounds -/

variable (h : Throttle) (cancellation : Option Cancellation) (next : Next)

/-- **A round**: the outcome of the call, or the request to send next. -/
def round (r : Request) : Act (Outcome ⊕ Request) := do
  match ← next.run r with
  | .response response =>
    if response.status = .tooManyRequests then
      match ← h.resume cancellation response r with
      | .deliver => return .inl (.response response)
      | .giveUp f => return .inl (.failure f)
      | .resend r' => return .inr r'
    else return .inl (.response response)
  | outcome => return .inl outcome

/-- **A course is made of rounds.** It ends with the first one that has an outcome. -/
theorem course_succ (more : Nat) (r : Request) (s : Session) :
    (h.course cancellation next (more + 1) r).run s =
      match (h.round cancellation next r).run s with
      | (.inl outcome, s') => (⟨[r], outcome⟩, s')
      | (.inr r', s') =>
        let (rest, s'') := (h.course cancellation next more r').run s'
        (⟨r :: rest.handed, rest.outcome⟩, s'') := by
  rw [course, round, Act.run_bind, Act.run_bind]
  rcases (next.run r).run s with ⟨outcome, s₁⟩
  cases outcome with
  | failure f => rfl
  | unfinished => rfl
  | response response =>
    by_cases ht : response.status = .tooManyRequests
    · simp only [ht, if_true, Act.run_bind]
      rcases (h.resume cancellation response r).run s₁ with ⟨verdict, s₂⟩
      cases verdict <;> rfl
    · simp only [ht, if_false, Act.run_pure]

/-- **The interceptor** answers the outcome of a course that begins when it has been entered. -/
theorem run_interceptor (rounds : Nat) (r : Request) (s : Session) :
    ((h.interceptor rounds).intercept r next).run s =
      Prod.map Course.outcome id ((h.course r.cancellation next rounds r).run
        (s.record (.opened .rateLimitRetry "intercept"))) := rfl

/-- **A round depends on the rest of the way** only in what this makes of the request at hand. -/
theorem round_congr {next' : Next} {r : Request} (hn : next'.run r = next.run r) :
    h.round cancellation next' r = h.round cancellation next r := by
  rw [round, hn]
  rfl

variable {h cancellation next} {r left : Request} {s s' : Session} {response : Response}

/-- **Settled**: an outcome that is no throttled answer is that of the call. -/
theorem round_settled {outcome : Outcome} (hn : (next.run r).run s = (outcome, s'))
    (ho : outcome.isThrottled = false) :
    (h.round cancellation next r).run s = (.inl outcome, s') := by
  rw [round, Act.run_bind, hn]
  cases outcome with
  | failure f => rfl
  | unfinished => rfl
  | response response =>
    have ht : response.status ≠ .tooManyRequests := of_decide_eq_false ho
    simp only [ht, if_false, Act.run_pure]

/-- The session in which the last throttled answer is delivered. -/
def spend (s : Session) : Session :=
  (s.record .spent).record (.counted .rateLimitRetry .failure)

/-- **What is read off a session** is read off it when the budget is spent, too, where nothing is
read of that. -/
theorem filterMap_events_spend {α : Type} {read : Event → Option α} (hspent : read .spent = none)
    (hcounted : read (.counted .rateLimitRetry .failure) = none) (s : Session) :
    (spend s).events.filterMap read = s.events.filterMap read :=
  Session.Grows.filterMap_events_eq (.record (.record (.refl s) hspent) hcounted)

/-- **Spent**: with the last attempt gone, the throttled answer is the outcome. -/
theorem round_spent (hn : (next.run r).run s = (.response response, s'))
    (ho : response.status = .tooManyRequests) (ht : h.take r = (false, left)) :
    (h.round cancellation next r).run s = (.inl (.response response), spend s') := by
  rw [round, Act.run_bind, hn]
  simp only [ho, if_true, Act.run_bind, resume, ht]
  rfl

variable (h) in
/-- The session in which the wait before a resend begins. -/
def pausing (response : Response) (r : Request) (s : Session) : Session :=
  let backoff := response.headers.backoff h.policy.defaultInterval
  (((Event.ofBackoff backoff).foldl Session.record s).record
    (.throttled s.now backoff.interval (r.budget.bind (·.remaining)))).record
    (.counted .rateLimitRetry .attempt)

/-- **The wait** begins when it has been recorded. -/
theorem run_pause :
    (h.pause cancellation response r).run s =
      (wait (h.policy.interval (.response response)) cancellation).run
        (h.pausing response r s) := by
  rw [pause, Act.run_bind, Act.run_forM_record]
  simp only [Act.run_bind, Act.run_now, Act.run_record, Session.now_foldl_record]
  rfl

/-- **What is read off a wait**: of the events that are recorded when it begins, only the wait
itself, where nothing is read of a header that is passed over and of the counter. -/
theorem filterMap_events_pausing {α : Type} {read : Event → Option α}
    (hpassed : ∀ name value, read (.passedOver name value) = none)
    (hcounted : read (.counted .rateLimitRetry .attempt) = none) :
    (h.pausing response r s).events.filterMap read = s.events.filterMap read ++
      (read (.throttled s.now (h.policy.interval (.response response))
        (r.budget.bind (·.remaining)))).toList := by
  let backoff := response.headers.backoff h.policy.defaultInterval
  have hbackoff : ((Event.ofBackoff backoff).foldl Session.record s).events.filterMap read =
      s.events.filterMap read := by
    refine Session.Grows.filterMap_events_eq (.foldl_record (.refl s) fun e he => ?_)
    obtain ⟨⟨name, value⟩, -, rfl⟩ := List.mem_map.mp he
    exact hpassed name value
  rw [pausing, Session.filterMap_events_record, Session.filterMap_events_record, hbackoff, hcounted]
  exact List.append_nil _

/-- A wait that begins is one milestone. -/
theorem milestones_pausing :
    (h.pausing response r s).milestones =
      s.milestones ++ [.waiting s.now (h.policy.interval (.response response))] :=
  filterMap_events_pausing (fun _ _ => rfl) rfl

theorem now_pausing : (h.pausing response r s).now = s.now :=
  s.now_foldl_record _

/-- **A wait leaves** the session in which it began, but for the time: nothing is recorded in it,
and nothing when it is over or given up. -/
theorem leaves_pause {waited : Except Failure Unit}
    (hp : (h.pause cancellation response r).run s = (waited, s')) :
    ∃ time, s' = { h.pausing response r s with now := time } := by
  rw [run_pause, run_wait] at hp
  split at hp
  next time _ =>
    cases hp
    exact ⟨time, rfl⟩
  next =>
    cases hp
    exact ⟨_, rfl⟩

/-- **What is recorded** when a wait begins: a header that is passed over, the wait, and that it is
counted. -/
theorem grows_pausing {p : Event → Prop} (hpassed : ∀ name value, p (.passedOver name value))
    (hthrottled : ∀ time interval remaining, p (.throttled time interval remaining))
    (hcounted : p (.counted .rateLimitRetry .attempt)) : s.Grows p (h.pausing response r s) := by
  refine .record (.record (.foldl_record (.refl s) fun e he => ?_) (hthrottled _ _ _)) hcounted
  obtain ⟨⟨name, value⟩, -, rfl⟩ := List.mem_map.mp he
  exact hpassed name value

/-- **No send before a wait or in it.** -/
theorem grows_pause {waited : Except Failure Unit}
    (hp : (h.pause cancellation response r).run s = (waited, s')) :
    s.Grows (fun e => e.isSend = false) s' ∧ s'.kept = s.kept := by
  have hpausing : s.Grows (fun e => e.isSend = false) (h.pausing response r s) :=
    grows_pausing (fun _ _ => rfl) (fun _ _ _ => rfl) rfl
  have hkept : (h.pausing response r s).kept = s.kept := s.kept_foldl_record _
  obtain ⟨time, rfl⟩ := leaves_pause hp
  exact ⟨hpausing, hkept⟩

/-- **Going on**: while attempts are left, the round waits and asks for credentials. -/
theorem round_resume (hn : (next.run r).run s = (.response response, s'))
    (ho : response.status = .tooManyRequests) (ht : h.take r = (true, left)) :
    (h.round cancellation next r).run s =
      match (h.pause cancellation response left).run s' with
      | (.error f, s₁) => (.inl (.failure f), s₁)
      | (.ok (), s₁) =>
        match (h.authenticator.call (h.equip r left)).run s₁ with
        | ((.ok (), r'), s₂) => (.inr r', s₂)
        | ((.error f, _), s₂) => (.inl (.failure f), s₂) := by
  rw [round, Act.run_bind, hn]
  simp only [ho, if_true, Act.run_bind, resume, ht]
  rcases (h.pause cancellation response left).run s' with ⟨waited, s₁⟩
  cases waited with
  | error f => rfl
  | ok _ =>
    simp only [Act.run_bind]
    rcases (h.authenticator.call (h.equip r left)).run s₁ with ⟨⟨result, r'⟩, s₂⟩
    cases result <;> rfl

/-- **Given up**: a wait that fails ends the call. -/
theorem round_given_up {f : Failure} {s₁ : Session}
    (hn : (next.run r).run s = (.response response, s'))
    (ho : response.status = .tooManyRequests) (ht : h.take r = (true, left))
    (hp : (h.pause cancellation response left).run s' = (.error f, s₁)) :
    (h.round cancellation next r).run s = (.inl (.failure f), s₁) := by
  rw [round_resume hn ho ht, hp]

/-- **Refused**: credentials that cannot be had end the call. -/
theorem round_refused {f : Failure} {r' : Request} {s₁ s₂ : Session}
    (hn : (next.run r).run s = (.response response, s'))
    (ho : response.status = .tooManyRequests) (ht : h.take r = (true, left))
    (hp : (h.pause cancellation response left).run s' = (.ok (), s₁))
    (hc : (h.authenticator.call (h.equip r left)).run s₁ = ((.error f, r'), s₂)) :
    (h.round cancellation next r).run s = (.inl (.failure f), s₂) := by
  rw [round_resume hn ho ht, hp]
  simp only [hc]

/-- **Sent again**: after the wait, with the credentials that were written then. -/
theorem round_resent {r' : Request} {s₁ s₂ : Session}
    (hn : (next.run r).run s = (.response response, s'))
    (ho : response.status = .tooManyRequests) (ht : h.take r = (true, left))
    (hp : (h.pause cancellation response left).run s' = (.ok (), s₁))
    (hc : (h.authenticator.call (h.equip r left)).run s₁ = ((.ok (), r'), s₂)) :
    (h.round cancellation next r).run s = (.inr r', s₂) := by
  rw [round_resume hn ho ht, hp]
  simp only [hc]

variable (h cancellation next r s) in
/-- **What a round comes to**, and in which session, with all that has led to it. -/
inductive Rounded : Outcome ⊕ Request → Session → Prop
  | settled {outcome s₁} (answered : (next.run r).run s = (outcome, s₁))
      (free : outcome.isThrottled = false) : Rounded (.inl outcome) s₁
  | spent {response left s₁} (answered : (next.run r).run s = (.response response, s₁))
      (throttled : response.status = .tooManyRequests) (taken : h.take r = (false, left)) :
      Rounded (.inl (.response response)) (spend s₁)
  | givenUp {response left s₁ f s₂} (answered : (next.run r).run s = (.response response, s₁))
      (throttled : response.status = .tooManyRequests) (taken : h.take r = (true, left))
      (paused : (h.pause cancellation response left).run s₁ = (.error f, s₂)) :
      Rounded (.inl (.failure f)) s₂
  | refused {response left s₁ s₂ f r' s₃} (answered : (next.run r).run s = (.response response, s₁))
      (throttled : response.status = .tooManyRequests) (taken : h.take r = (true, left))
      (paused : (h.pause cancellation response left).run s₁ = (.ok (), s₂))
      (called : (h.authenticator.call (h.equip r left)).run s₂ = ((.error f, r'), s₃)) :
      Rounded (.inl (.failure f)) s₃
  | resent {response left s₁ s₂ r' s₃} (answered : (next.run r).run s = (.response response, s₁))
      (throttled : response.status = .tooManyRequests) (taken : h.take r = (true, left))
      (paused : (h.pause cancellation response left).run s₁ = (.ok (), s₂))
      (called : (h.authenticator.call (h.equip r left)).run s₂ = ((.ok (), r'), s₃)) :
      Rounded (.inr r') s₃

/-- **Every round** comes to one of these. -/
theorem rounded_of_run {result : Outcome ⊕ Request}
    (hr : (h.round cancellation next r).run s = (result, s')) :
    h.Rounded cancellation next r s result s' := by
  rcases hn : (next.run r).run s with ⟨outcome, s₁⟩
  rcases hth : outcome.isThrottled with _ | _
  · cases (round_settled hn hth).symm.trans hr
    exact .settled hn hth
  obtain ⟨response, rfl, hs⟩ := Outcome.exists_response_of_isThrottled hth
  rcases ht : h.take r with ⟨_ | _, left⟩
  · cases (round_spent hn hs ht).symm.trans hr
    exact .spent hn hs ht
  rcases hp : (h.pause cancellation response left).run s₁ with ⟨f | _, s₂⟩
  · cases (round_given_up hn hs ht hp).symm.trans hr
    exact .givenUp hn hs ht hp
  rcases hc : (h.authenticator.call (h.equip r left)).run s₂ with ⟨⟨f | _, r'⟩, s₃⟩
  · cases (round_refused hn hs ht hp hc).symm.trans hr
    exact .refused hn hs ht hp hc
  · cases (round_resent hn hs ht hp hc).symm.trans hr
    exact .resent hn hs ht hp hc

end Throttle

end Outbound
