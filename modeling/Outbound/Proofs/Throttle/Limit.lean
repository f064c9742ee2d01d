import Mathlib.Data.ENat.Lattice
import Outbound.Proofs.Authenticator.Conduct
import Outbound.Proofs.Throttle.Round

/-!
# How often a throttled call is sent

A call that follows throttled answers, with an authenticator that always succeeds and nobody who
cancels. It ends with the first answer that is not throttled, or with the last send that its
budget allows, whichever comes first.

* **limit** — `RetryPolicy.sendLimit`, which every resend lowers by one (`sendLimit_of_resume`)
  until the last send is left (`sendLimit_of_spent`);
* **answers** — `Throttle.answers` lists the outcomes of the successive sends, `firstSettled` is the
  place of the first one that is not throttled;
* **course** — `Conforms` says what a course does in terms of these two, `conforms_course` that it
  does.
-/

namespace Outbound

open Outbound.Time

/-! ## The limit -/

/-- **How often a call may be sent**: as often as there are attempts in the budget that the caller
attached, but at least once; without such a budget once more than the policy allows resends. -/
def RetryPolicy.sendLimit (policy : RetryPolicy) (own : Option RetryBudget) : ℕ∞ :=
  match own with
  | some ⟨some k⟩ => (max 1 k : ℕ)
  | some ⟨none⟩ => ⊤
  | none =>
    match policy.maxRetries with
    | some n => (n + 1 : ℕ)
    | none => ⊤

namespace RetryPolicy

variable (policy : RetryPolicy)

theorem sendLimit_some (k : ℕ) : policy.sendLimit (some ⟨some k⟩) = (max 1 k : ℕ) := rfl

theorem sendLimit_none :
    policy.sendLimit none = (policy.maxRetries.map fun n => ((n + 1 : ℕ) : ℕ∞)).getD ⊤ := by
  rw [sendLimit]
  cases policy.maxRetries <;> rfl

/-- Every call may be sent once. -/
theorem one_le_sendLimit (own : Option RetryBudget) : 1 ≤ policy.sendLimit own := by
  unfold sendLimit
  split
  · exact Nat.one_le_cast.mpr (Nat.le_max_left _ _)
  · exact le_top
  · split
    · exact Nat.one_le_cast.mpr (Nat.succ_pos _)
    · exact le_top

end RetryPolicy

namespace Throttle

variable {h : Throttle} {r left : Request}

/-- **The last send**: when no attempt can be taken, the limit was one. -/
theorem sendLimit_of_spent (ht : h.take r = (false, left)) : h.policy.sendLimit r.budget = 1 := by
  rcases take_eq_false_cases ht with ⟨hb, hm⟩ | ⟨k, hk, hb⟩
  · rw [hb, RetryPolicy.sendLimit_none, hm]
    rfl
  · rw [hb, RetryPolicy.sendLimit_some, Nat.max_eq_left hk]
    rfl

/-- **A resend** lowers the limit by one. -/
theorem sendLimit_of_resume (ht : h.take r = (true, left)) :
    h.policy.sendLimit r.budget = h.policy.sendLimit (h.equip r left).budget + 1 := by
  rcases take_eq_true_cases ht with ⟨hb, hm, he⟩ | ⟨hb, he⟩ | ⟨k, hk, hb, he⟩
  · rw [hb, he, Request.withBudget, RetryPolicy.sendLimit_none]
    rcases hn : h.policy.maxRetries with _ | n
    · rfl
    · have hpos : n ≠ 0 := fun h0 => hm (h0 ▸ hn)
      rw [RetryPolicy.sendLimit_some, Nat.max_eq_right (by omega)]
      rfl
  · rw [hb, he]
    rfl
  · obtain ⟨m, rfl⟩ : ∃ m, k = m + 2 := ⟨k - 2, by omega⟩
    rw [hb, he, Request.withBudget, RetryPolicy.sendLimit_some, RetryPolicy.sendLimit_some,
      Nat.max_eq_right (by omega), Nat.max_eq_right (by omega)]
    rfl

end Throttle

/-! ## The first answer that is not throttled -/

/-- **The first outcome that is not a throttled answer**, counted from one. -/
noncomputable def firstSettled (answers : ℕ → Outcome) : ℕ∞ :=
  ⨅ i, if (answers i).isThrottled then ⊤ else (i + 1 : ℕ∞)

section FirstSettled

variable {answers : ℕ → Outcome}

theorem one_le_firstSettled (answers : ℕ → Outcome) : 1 ≤ firstSettled answers := by
  refine le_iInf fun i => ?_
  split
  · exact le_top
  · exact le_add_self

theorem firstSettled_of_settled (h : (answers 0).isThrottled = false) :
    firstSettled answers = 1 := by
  refine le_antisymm ((iInf_le _ 0).trans ?_) (one_le_firstSettled answers)
  rw [h]
  simp

theorem firstSettled_of_throttled (h : (answers 0).isThrottled = true) :
    firstSettled answers = firstSettled (fun i => answers (i + 1)) + 1 := by
  rw [firstSettled, ← inf_iInf_nat_succ, h, if_pos rfl, top_inf_eq, firstSettled, ENat.iInf_add]
  refine iInf_congr fun i => ?_
  split <;> simp

end FirstSettled

/-! ## Courses -/

namespace Throttle

variable {h : Throttle} {t : Transport}

variable (h t) in
/-- **The answers** to the successive sends of a call, as long as it is sent. -/
def answers : ℕ → Request → Session → Outcome
  | 0, _, s => t.answer s.position
  | i + 1, r, s =>
    match (h.round none t.next r).run s with
    | (.inl outcome, _) => outcome
    | (.inr r', s') => answers i r' s'

/-- **A round with willing authenticators**: either the call ends with this answer, and it is not
throttled or the limit was reached, or the limit goes down by one, the wait is as long as the answer
asks for, and credentials are asked for when it is over. -/
theorem round_of_obliging (ha : h.authenticator.Discreet) (ho : h.authenticator.Obliging)
    (r : Request) (s : Session) :
    (∃ s', (h.round none t.next r).run s = (.inl (t.answer s.position), s') ∧
      s'.milestones = s.milestones ++ [.sent s.position] ∧
      ((t.answer s.position).isThrottled = false ∨ h.policy.sendLimit r.budget = 1)) ∨
    ∃ r' s', (h.round none t.next r).run s = (.inr r', s') ∧
      (t.answer s.position).isThrottled = true ∧
      h.policy.sendLimit r.budget = h.policy.sendLimit r'.budget + 1 ∧
      s'.milestones = s.milestones ++
        [.sent s.position,
          .waiting (t.arrival s.position) (h.policy.interval (t.answer s.position)),
          .asked (Instant.after (t.arrival s.position)
            (h.policy.interval (t.answer s.position)))] := by
  have hn := t.run_next r s
  rcases hth : (t.answer s.position).isThrottled with _ | _
  · exact .inl ⟨_, round_settled hn hth, t.milestones_delivered r s, .inl rfl⟩
  · obtain ⟨response, hr, hs⟩ := Outcome.exists_response_of_isThrottled hth
    rw [hr] at hn ⊢
    rcases ht : h.take r with ⟨_ | _, left⟩
    · refine .inl ⟨_, round_spent hn hs ht, ?_, .inr (sendLimit_of_spent ht)⟩
      rw [spend, Session.milestones_record, Session.milestones_record, t.milestones_delivered]
      simp [Event.milestone?]
    · have hp : (h.pause none response left).run (t.delivered r s) = (.ok (), _) :=
        run_pause.trans (run_wait_none _ _)
      obtain ⟨headers, s', hc, hm⟩ := ha.run_call_of_obliging ho (h.equip r left) _
      refine .inr ⟨_, s', round_resent hn hs ht hp hc, rfl, sendLimit_of_resume ht, ?_⟩
      rw [hm, Session.milestones_later, milestones_pausing, t.milestones_delivered,
        Session.now_later, now_pausing, t.now_delivered]
      simp

end Throttle

/-- **What a course does**, given the answers to its successive sends and how many of them, `m`, it
is to take: `calls` are its sends, from `s` to `s'`. -/
structure Conforms (policy : RetryPolicy) (t : Transport) (answers : ℕ → Outcome) (m : ℕ∞)
    (rounds : ℕ) (calls : List Position) (s s' : Session) (outcome : Outcome) : Prop where
  /-- the user's request is sent from these positions and from no others -/
  sent : s'.calls = s.calls ++ calls
  /-- `m` times, or as often as the course is followed -/
  count : (calls.length : ℕ∞) = min (rounds : ℕ∞) m
  /-- with these answers -/
  answered : calls.map t.answer = (List.range calls.length).map answers
  /-- a course that is followed to its end has the last answer as its outcome -/
  result : m ≤ rounds → calls.getLast?.map t.answer = some outcome
  /-- and passes its milestones in order -/
  order : m ≤ rounds → s'.milestones = s.milestones ++ itinerary policy t calls
  /-- one that is not has none -/
  unfinished : rounds < m → outcome = .unfinished

namespace Conforms

variable {policy : RetryPolicy} {t : Transport} {answers : ℕ → Outcome} {m : ℕ∞} {rounds : ℕ}
  {calls : List Position} {p : Position} {s s₁ s' : Session} {outcome : Outcome}

/-- **Not followed at all.** -/
theorem zero (hm : 1 ≤ m) : Conforms policy t answers m 0 [] s s .unfinished where
  sent := (List.append_nil _).symm
  count := by simp
  answered := rfl
  result := by
    intro h
    exact absurd (hm.trans h) (by simp)
  order := by
    intro h
    exact absurd (hm.trans h) (by simp)
  unfinished := fun _ => rfl

/-- **The last send.** -/
theorem last (ha : answers 0 = t.answer p) (hs : s'.milestones = s.milestones ++ [.sent p]) :
    Conforms policy t answers 1 (rounds + 1) [p] s s' (t.answer p) where
  sent := Session.calls_of_milestones hs
  count := by simp
  answered := by simp [ha]
  result := fun _ => rfl
  order := fun _ => hs
  unfinished := by
    intro h
    exact absurd h (by simp)

/-- **A send that is followed by others.** -/
theorem cons (hm : 1 ≤ m) (ha : answers 0 = t.answer p)
    (hs : s₁.milestones = s.milestones ++
      [.sent p, .waiting (t.arrival p) (policy.interval (t.answer p)),
        .asked (Instant.after (t.arrival p) (policy.interval (t.answer p)))])
    (rest : Conforms policy t (fun i => answers (i + 1)) m rounds calls s₁ s' outcome) :
    Conforms policy t answers (m + 1) (rounds + 1) (p :: calls) s s' outcome where
  sent := by
    rw [rest.sent, Session.calls_of_milestones hs, List.append_assoc]
    rfl
  count := by
    rw [List.length_cons, Nat.cast_succ, rest.count, Nat.cast_succ, min_add_add_right]
  answered := by
    rw [List.map_cons, rest.answered, List.length_cons, List.range_succ_eq_map, List.map_cons,
      List.map_map, ha]
    rfl
  result := by
    intro h
    have hlast := rest.result (by simpa using h)
    obtain ⟨q, hq, hout⟩ := Option.map_eq_some_iff.mp hlast
    rw [List.getLast?_cons, hq, ← hout]
    rfl
  order := by
    intro h
    have hle : m ≤ rounds := by simpa using h
    have hne : calls ≠ [] := by
      rintro rfl
      have hcount := rest.count
      rw [min_eq_right hle] at hcount
      exact absurd (hm.trans_eq hcount.symm) (by simp)
    rw [rest.order hle, hs, itinerary_cons hne, List.append_assoc]
  unfinished := by
    intro h
    exact rest.unfinished (by simpa using h)

end Conforms

namespace Throttle

variable {h : Throttle} {t : Transport}

/-- **Every course conforms**: it takes as many answers as there are up to the first one that is not
throttled, but no more than the limit of the request allows. By induction on the rounds; the request
and the session are those that the round before has left. -/
theorem conforms_course (ha : h.authenticator.Discreet) (ho : h.authenticator.Obliging)
    (rounds : ℕ) (r : Request) (s : Session) :
    ∃ calls, Conforms h.policy t (h.answers t · r s)
      (min (firstSettled (h.answers t · r s)) (h.policy.sendLimit r.budget)) rounds calls s
      ((h.course none t.next rounds r).run s).2
        ((h.course none t.next rounds r).run s).1.outcome := by
  induction rounds generalizing r s with
  | zero =>
    exact ⟨[], .zero (le_min (one_le_firstSettled _) (h.policy.one_le_sendLimit _))⟩
  | succ more ih =>
    rcases round_of_obliging ha ho r s with ⟨s', hr, hs, hend⟩ | ⟨r', s', hr, hth, hl, hs⟩
    · have hm : min (firstSettled (h.answers t · r s)) (h.policy.sendLimit r.budget) = 1 := by
        rcases hend with hset | hlast
        · rw [firstSettled_of_settled hset, min_eq_left (h.policy.one_le_sendLimit _)]
        · rw [hlast, min_eq_right (one_le_firstSettled _)]
      rw [course_succ, hr, hm]
      exact ⟨[s.position], .last rfl hs⟩
    · have htail : (fun i => h.answers t (i + 1) r s) = (h.answers t · r' s') := by
        funext i
        rw [answers, hr]
      have hm : min (firstSettled (h.answers t · r s)) (h.policy.sendLimit r.budget) =
          min (firstSettled (h.answers t · r' s')) (h.policy.sendLimit r'.budget) + 1 := by
        rw [firstSettled_of_throttled hth, htail, hl, min_add_add_right]
      obtain ⟨calls, rest⟩ := ih r' s'
      rw [course_succ, hr, hm]
      exact ⟨s.position :: calls, .cons
        (le_min (one_le_firstSettled _) (h.policy.one_le_sendLimit _)) rfl hs (htail ▸ rest)⟩

end Throttle

end Outbound
