import Outbound.Proofs.Authenticator.Conduct
import Outbound.Proofs.Pipeline.Growth

/-!
# What is sent again

The requests that a throttled call hands on, one after another. Whatever the rest of the way does to
one of them, the next one is made from the request as the call holds it.

* **frame** — `Request.Alike` is equality up to credentials and budget; each round hands on a
  request that is alike to the one before (`alike_of_round`);
* **budget** — `RetryPolicy.budgetAt` says what is left at each send; `budgetAt_succ_of_resume`
  relates it to what one round takes;
* **course** — `Follows` puts both together, and `follows_of_handed` extends it to all requests of a
  course, which depends on the rest of the way in nothing else (`course_congr`);
* **transport** — a transport that the requests are handed to receives them, each once and in order
  (`received_course`).
-/

namespace Outbound

open Outbound.Time

/-! ## The frame -/

/-- **Alike**: two requests that differ in credentials and budget at most. -/
structure Request.Alike (q r : Request) : Prop where
  method : q.method = r.method
  url : q.url = r.url
  body : q.body = r.body
  cancellation : q.cancellation = r.cancellation
  headers : ∀ name, name ≠ .authorization → q.headers.values name = r.headers.values name

namespace Request

variable {p q : Request} (r : Request)

theorem Alike.refl : r.Alike r := ⟨rfl, rfl, rfl, rfl, fun _ _ => rfl⟩

variable {r} in
theorem Alike.trans (hp : p.Alike q) (hq : q.Alike r) : p.Alike r where
  method := hp.method.trans hq.method
  url := hp.url.trans hq.url
  body := hp.body.trans hq.body
  cancellation := hp.cancellation.trans hq.cancellation
  headers name hne := (hp.headers name hne).trans (hq.headers name hne)

theorem alike_withBudget (budget : RetryBudget) : (r.withBudget budget).Alike r :=
  ⟨rfl, rfl, rfl, rfl, fun _ _ => rfl⟩

theorem alike_authorize (value : HeaderValue) : (r.authorize value).Alike r where
  method := rfl
  url := rfl
  body := rfl
  cancellation := rfl
  headers _ hne := Headers.values_insert_of_ne hne

end Request

/-- **Asking for credentials** hands back a request that is alike and has the same budget. -/
theorem Credential.alike_call (c : Credential) (t : Transport) (r : Request) (s : Session) :
    (((c.authenticator t).call r).run s).1.2.Alike r ∧
      (((c.authenticator t).call r).run s).1.2.budget = r.budget := by
  rw [Authenticator.run_call, authenticator]
  rcases c.request_authenticate t r (s.record (.authenticating s.now r.budget)) with hr | ⟨v, hr⟩
  · rw [hr]
    exact ⟨.refl r, rfl⟩
  · rw [hr]
    exact ⟨r.alike_authorize v, rfl⟩

/-! ## The view -/

/-- The request of a call that an event sends. A token request is none. -/
def Event.request? : Event → Option Request
  | .sent .call _ r => some r
  | _ => none

/-- **The view**: the calls that the transport has received, the first one in front. -/
def Session.received (s : Session) : List Request := s.events.filterMap Event.request?

/-! ## The budget -/

/-- **The budget of the sends of a call**, counted from zero: the first send has what the caller
attached, the others what is left of that, or else of what the policy grants from the second send
on. -/
def RetryPolicy.budgetAt (policy : RetryPolicy) (own : Option RetryBudget) :
    Nat → Option RetryBudget
  | 0 => own
  | i + 1 =>
    match own with
    | none => some ⟨policy.maxRetries.map (· - i)⟩
    | some budget => some ⟨budget.remaining.map (· - (i + 1))⟩

namespace Throttle

variable {h : Throttle} {cancellation : Option Cancellation} {next : Next} {r r' left : Request}
  {s s' : Session}

/-- **A resend** has something left. -/
theorem budget_equip_of_resume (ht : h.take r = (true, left)) :
    ∃ budget, (h.equip r left).budget = some budget ∧ budget.remaining ≠ some 0 := by
  rcases take_eq_true_cases ht with ⟨-, hm, he⟩ | ⟨-, he⟩ | ⟨k, hk, -, he⟩
  · exact ⟨⟨h.policy.maxRetries⟩, by rw [he]; rfl, hm⟩
  · exact ⟨⟨none⟩, by rw [he]; rfl, nofun⟩
  · refine ⟨⟨some (k - 1)⟩, by rw [he]; rfl, fun h0 => ?_⟩
    have := Option.some.inj h0
    omega

/-- **One round further**: what is left counts from the budget of the resend. -/
theorem budgetAt_succ_of_resume (ht : h.take r = (true, left)) (i : Nat) :
    h.policy.budgetAt r.budget (i + 1) = h.policy.budgetAt (h.equip r left).budget i := by
  rcases take_eq_true_cases ht with ⟨hb, -, he⟩ | ⟨hb, he⟩ | ⟨k, -, hb, he⟩
  · rw [hb, he]
    cases i with
    | zero => simp [RetryPolicy.budgetAt, Request.withBudget]
    | succ i => rfl
  · rw [hb, he]
    cases i <;> rfl
  · rw [hb, he]
    cases i with
    | zero => rfl
    | succ i =>
      simp only [RetryPolicy.budgetAt, Request.withBudget, Option.map_some]
      rw [Nat.sub_sub, Nat.add_comm 1]

/-! ## Rounds and courses -/

/-- **One round** makes the next request from the one that it was given: alike, and with the budget
that was taken. -/
theorem alike_of_round {c : Credential} {t : Transport} (hc : h.authenticator = c.authenticator t)
    (hr : (h.round cancellation next r).run s = (.inr r', s')) :
    r'.Alike r ∧ ∃ left, h.take r = (true, left) ∧ r'.budget = (h.equip r left).budget := by
  cases rounded_of_run hr with
  | @resent response left s₁ s₂ _ _ _ _ ht _ hcall =>
    obtain ⟨halike, hbudget⟩ := c.alike_call t (h.equip r left) s₂
    rw [hc] at hcall
    rw [hcall] at halike hbudget
    refine ⟨halike.trans ?_, left, ht, hbudget⟩
    rcases take_eq_true_cases ht with ⟨-, -, he⟩ | ⟨-, he⟩ | ⟨k, -, -, he⟩ <;>
      exact he ▸ r.alike_withBudget _

/-- **What a later request of a call has of the first one**, `r`: it is alike, its budget is the one
of its place, and a resend has something left of it. -/
structure Follows (policy : RetryPolicy) (r : Request) (i : Nat) (q : Request) : Prop where
  alike : q.Alike r
  budget : q.budget = policy.budgetAt r.budget i
  first : i = 0 → q = r
  left : 0 < i → ∃ budget, q.budget = some budget ∧ budget.remaining ≠ some 0

theorem Follows.zero (policy : RetryPolicy) (r : Request) : Follows policy r 0 r where
  alike := .refl r
  budget := rfl
  first := fun _ => rfl
  left h := absurd h (Nat.lt_irrefl 0)

/-- What follows a resend follows the request that was throttled, one place later. -/
theorem Follows.succ {c : Credential} {t : Transport} (hc : h.authenticator = c.authenticator t)
    (hr : (h.round cancellation next r).run s = (.inr r', s')) {i : Nat} {q : Request}
    (hq : Follows h.policy r' i q) : Follows h.policy r (i + 1) q := by
  obtain ⟨halike, left, ht, hbudget⟩ := alike_of_round hc hr
  refine ⟨hq.alike.trans halike, ?_, nofun, fun _ => ?_⟩
  · rw [hq.budget, hbudget, budgetAt_succ_of_resume ht]
  · rcases Nat.eq_zero_or_pos i with hi | hi
    · rw [hq.first hi, hbudget]
      exact budget_equip_of_resume ht
    · exact hq.left hi

/-- **The requests of a course.** By induction on the rounds. -/
theorem follows_of_handed {c : Credential} {t : Transport}
    (hc : h.authenticator = c.authenticator t) (rounds : Nat) (r : Request) (s : Session)
    {i : Nat} {q : Request}
    (hq : ((h.course cancellation next rounds r).run s).1.handed[i]? = some q) :
    Follows h.policy r i q := by
  induction rounds generalizing r s i with
  | zero => cases hq
  | succ more ih =>
    rw [course_succ] at hq
    rcases hr : (h.round cancellation next r).run s with ⟨outcome | r', s'⟩
    · rw [hr] at hq
      cases i with
      | zero =>
        obtain rfl := Option.some.inj hq
        exact .zero h.policy r
      | succ i => cases hq
    · rw [hr] at hq
      cases i with
      | zero =>
        obtain rfl := Option.some.inj hq
        exact .zero h.policy r
      | succ i => exact .succ hc hr (ih r' s' hq)

/-- **Nothing else is handed on**: a course depends on the rest of the way only in what this makes
of the requests that are handed to it. -/
theorem course_congr (rounds : Nat) (r : Request) (s : Session) {next' : Next}
    (hn : ∀ q ∈ ((h.course cancellation next rounds r).run s).1.handed, next'.run q = next.run q) :
    (h.course cancellation next' rounds r).run s = (h.course cancellation next rounds r).run s := by
  induction rounds generalizing r s with
  | zero => rfl
  | succ more ih =>
    rw [course_succ] at hn
    rw [course_succ, course_succ]
    rcases hr : (h.round cancellation next r).run s with ⟨outcome | r', s'⟩
    · rw [hr] at hn
      rw [round_congr h cancellation next (hn r (List.mem_singleton_self r)), hr]
    · rw [hr] at hn
      rw [round_congr h cancellation next (hn r List.mem_cons_self), hr]
      simp only [ih r' s' fun q hq => hn q (List.mem_cons_of_mem r hq)]

/-! ## What the transport receives -/

/-- **One round** sends its request, and nothing else but token requests. -/
theorem received_round {c : Credential} {t t' : Transport}
    (hc : h.authenticator = c.authenticator t) {result : Outcome ⊕ Request}
    (hr : (h.round cancellation t'.next r).run s = (result, s')) :
    s'.received = s.received ++ [r] := by
  have hanswered {outcome : Outcome} {s₁ : Session} (hn : (t'.next.run r).run s = (outcome, s₁)) :
      s₁.received = s.received ++ [r] := by
    obtain ⟨-, rfl⟩ := Prod.mk.inj ((t'.run_next r s).symm.trans hn)
    exact s.filterMap_events_record Event.request? _
  have hwaited {response : Response} {left : Request} {waited : Except Failure Unit}
      {s₁ s₂ : Session} (hp : (h.pause cancellation response left).run s₁ = (waited, s₂)) :
      s₂.received = s₁.received := by
    obtain ⟨time, rfl⟩ := leaves_pause hp
    exact (filterMap_events_pausing (fun _ _ => rfl) rfl).trans (List.append_nil _)
  have hcalled {q : Request} {s₁ s₂ : Session} {answer : Except Failure Unit × Request}
      (hcall : (h.authenticator.call q).run s₁ = (answer, s₂)) : s₂.received = s₁.received :=
    Credential.filterMap_events_call hc (fun _ _ => rfl) (fun _ => rfl) (fun _ => rfl)
      (fun _ _ => rfl) hcall
  cases rounded_of_run hr with
  | settled hn => exact hanswered hn
  | spent hn => exact (filterMap_events_spend rfl rfl _).trans (hanswered hn)
  | givenUp hn _ _ hp => exact (hwaited hp).trans (hanswered hn)
  | refused hn _ _ hp hcall => exact (hcalled hcall).trans ((hwaited hp).trans (hanswered hn))
  | resent hn _ _ hp hcall => exact (hcalled hcall).trans ((hwaited hp).trans (hanswered hn))

/-- **What is handed on is sent**: a transport receives the requests of a course, each once and in
order. By induction on the rounds. -/
theorem received_course {c : Credential} {t t' : Transport}
    (hc : h.authenticator = c.authenticator t) (rounds : Nat) :
    ((h.course cancellation t'.next rounds r).run s).2.received =
      s.received ++ ((h.course cancellation t'.next rounds r).run s).1.handed := by
  induction rounds generalizing r s with
  | zero => exact (List.append_nil _).symm
  | succ more ih =>
    rw [course_succ]
    rcases hr : (h.round cancellation t'.next r).run s with ⟨outcome | r', s'⟩
    · exact received_round hc hr
    · refine ih.trans ?_
      rw [received_round hc hr, List.append_assoc]
      rfl

/-! ## What is sent again -/

/-- **What is sent again.** All that a course has of the rest of the way is what this makes of the
requests that are handed on; and each of these has of the first one everything but credentials and
budget, whatever was done to those before it on the rest of the way. -/
theorem handed_follows_first (c : Credential) (t : Transport) (policy : RetryPolicy)
    (cancellation : Option Cancellation) (next : Next) (rounds : Nat) (r : Request) (s : Session) :
    let h : Throttle := ⟨c.authenticator t, policy⟩
    let handed := ((h.course cancellation next rounds r).run s).1.handed
    (∀ next' : Next, (∀ q ∈ handed, next'.run q = next.run q) →
      (h.course cancellation next' rounds r).run s =
        (h.course cancellation next rounds r).run s) ∧
    ∀ i q, handed[i]? = some q → Follows policy r i q :=
  ⟨fun _ hn => course_congr rounds r s hn, fun _ _ hq => follows_of_handed rfl rounds r s hq⟩

/-- **The third send** of a call that is throttled every time under a policy of two resends, where
the rest of the way sets a header: it has one attempt left, and the header is not among its own. -/
theorem third_handed_follows_first :
    let value : HeaderValue := ⟨[0x42], true⟩
    let h : Throttle := ⟨(Credential.basic value).authenticator .throttling, ⟨⟨1000000000⟩, some 2⟩⟩
    let next := chain .throttling [.preparing "tag" (·.withHeader .accept ⟨[0x2A], false⟩)]
    let third := (Request.ofItems.authorize value).withBudget ⟨some 1⟩
    ((h.course none next 5 .ofItems).run (.start 0)).1.handed[2]? = some third ∧
      Follows h.policy .ofItems 2 third := by
  intro value h next third
  have hq : ((h.course none next 5 .ofItems).run (.start 0)).1.handed[2]? = some third := by decide
  exact ⟨hq, (handed_follows_first _ _ _ _ _ 5 _ _).2 2 third hq⟩

end Throttle

end Outbound
