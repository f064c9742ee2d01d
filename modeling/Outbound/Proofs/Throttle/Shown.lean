import Outbound.Proofs.Pipeline.Growth
import Outbound.Proofs.Throttle.Resend

/-!
# What waits show

When a wait begins, a log line shows for how long, and what is left of the budget. The line is
written before the budget of the policy is put on a request that had none, so that the first wait of
such a call shows no bound, whatever the policy says. Every other wait shows what the request is
sent again with.

* **text** — the text of a budget tells it from any other one (`RetryBudget.text_inj`);
* **view** — `Session.shown` reads off the log of a session every budget that was shown;
* **parts** — a wait shows one (`shown_pause`), and credentials show none (`shown_call`);
* **courses** — `Told` says how the lines of the waits stand among those of the rest of the way;
  `told_of_round` and `told_of_course` compare them with the requests that are handed on;
* **the theorem** — `shown_is_carried_unless` says where the two differ, and `first_wait_shows_none`
  is a call in which they do.
-/

namespace Outbound

open Outbound.Time

/-! ## Texts -/

namespace RetryBudget

theorem toList_text_some (n : Nat) :
    (text ⟨some n⟩).toList = "Some(".toList ++ (Nat.toDigits 10 n ++ [')']) := by
  rw [text, String.toList_append, String.toList_append, List.append_assoc]
  exact congrArg ("Some(".toList ++ List.append · [')']) Nat.toList_repr

/-- **The text of a budget** tells it from any other one. -/
theorem text_inj {a b : RetryBudget} : a.text = b.text ↔ a = b := by
  refine ⟨fun h => ?_, congrArg text⟩
  have hchars := congrArg String.toList h
  rcases a with ⟨_ | m⟩ <;> rcases b with ⟨_ | n⟩
  · rfl
  · rw [toList_text_some] at hchars
    cases hchars
  · rw [toList_text_some] at hchars
    cases hchars
  · rw [toList_text_some, toList_text_some] at hchars
    have hdigits : Nat.toDigits 10 m = Nat.toDigits 10 n :=
      List.append_cancel_right (List.append_cancel_left hchars)
    have hvalue := congrArg (Nat.ofDigitChars 10 · 0) hdigits
    rw [Nat.ofDigitChars_ten_toDigits, Nat.ofDigitChars_ten_toDigits] at hvalue
    rw [hvalue]

end RetryBudget

/-! ## The view -/

/-- **The remaining budget that an event shows** in its log line, if it has one that shows it. -/
def Event.shown? (e : Event) : Option String :=
  e.logLine?.bind fun line => line.fields.lookup "remaining"

/-- **The view**: every remaining budget that was shown, the first one in front. -/
def Session.shown (s : Session) : List String := s.events.filterMap Event.shown?

/-- **What the rest of a way shows** of a request, from some session on. -/
def Next.Shows (next : Next) (s : Session) (q : Request) (part : List String) : Prop :=
  ((next.run q).run s).2.shown = s.shown ++ part

/-- **What is told** of the requests that are handed on from some session on: the lines of the
waits, and these among all that the rest of the way shows. Each wait has one line, behind what the
rest of the way shows of the request that was turned away, and the next request is handed on when it
stands there. -/
inductive Told (next : Next) : Session → List Request → List String → List String → Prop
  | unfollowed {s} : Told next s [] [] []
  | settled {s q part} (way : next.Shows s q part) : Told next s [q] [] part
  | waited {s s' q part line handed lines all} (way : next.Shows s q part)
      (wait : s'.shown = s.shown ++ (part ++ [line])) (rest : Told next s' handed lines all) :
      Told next s (q :: handed) (line :: lines) (part ++ line :: all)

/-- **A silent way**: if the rest shows nothing, the lines of the waits are all there is. -/
theorem Told.eq_lines {next : Next} {s : Session} {handed : List Request} {lines all : List String}
    (hnext : next.Adds fun e => e.shown? = none) (h : Told next s handed lines all) :
    all = lines := by
  have hsilent {s : Session} {q : Request} {part : List String} (hway : next.Shows s q part) :
      part = [] :=
    List.append_right_eq_self.mp (hway.symm.trans (hnext q s).filterMap_events_eq)
  induction h with
  | unfollowed => rfl
  | settled way => exact hsilent way
  | waited way _ _ ih => rw [hsilent way, ih, List.nil_append]

/-- **A way that only adds** to the log shows something of every request, if only nothing. -/
theorem Next.Adds.exists_shows {next : Next} (hnext : next.Adds fun _ => True) {r : Request}
    {s s' : Session} {outcome : Outcome} (hn : (next.run r).run s = (outcome, s')) :
    ∃ part, next.Shows s r part ∧ s'.shown = s.shown ++ part := by
  obtain ⟨new, hlog, -⟩ := hnext r s
  have hshown : next.Shows s r _ := Session.filterMap_events_of_log Event.shown? hlog
  refine ⟨_, hshown, ?_⟩
  rw [Next.Shows, hn] at hshown
  exact hshown

namespace Throttle

variable {h : Throttle} {c : Credential} {t : Transport} {cancellation : Option Cancellation}
  {next : Next} {r r' left : Request} {s s' : Session} {response : Response}

/-- **Credentials** show nothing. -/
theorem shown_call (hc : h.authenticator = c.authenticator t)
    {answer : Except Failure Unit × Request}
    (hcall : (h.authenticator.call r).run s = (answer, s')) : s'.shown = s.shown :=
  Credential.filterMap_events_call hc (fun _ _ => rfl) (fun _ => rfl) (fun _ => rfl)
    (fun _ _ => rfl) hcall

/-- **A wait shows** what the request has after an attempt was taken, whatever becomes of it. -/
theorem shown_pause {waited : Except Failure Unit}
    (hp : (h.pause cancellation response left).run s = (waited, s')) :
    s'.shown = s.shown ++ [RetryBudget.text ⟨left.budget.bind (·.remaining)⟩] := by
  obtain ⟨time, rfl⟩ := leaves_pause hp
  -- a header that is passed over has a line, but none that shows a budget
  exact filterMap_events_pausing (fun _ _ => rfl) rfl

/-! ## Rounds and courses -/

/-- **What stands before a resend**: the budget that the next request has, unless there was none
before. -/
theorem text_of_taken (ht : h.take r = (true, left)) :
    ∃ carried, (h.equip r left).budget = some carried ∧
      RetryBudget.text ⟨left.budget.bind (·.remaining)⟩ =
        if r.budget = none then "None" else carried.text := by
  obtain ⟨carried, hcarried, -⟩ := budget_equip_of_resume ht
  refine ⟨carried, hcarried, ?_⟩
  rcases hb : r.budget with _ | own
  -- the budget of the policy comes only after the wait
  · rw [take, hb] at ht
    obtain ⟨-, rfl⟩ := Prod.mk.inj ht
    rw [hb, if_pos rfl]
    rfl
  · have hleft : h.equip r left = left := by
      rw [equip, hb]
      rfl
    rw [← hleft, hcarried, if_neg (Option.some_ne_none own)]
    rfl

/-- **One round** shows what the rest of the way does of its request, and one line more if it has a
wait. If it leads to another round, this is the budget of the next request, unless there was none
before. -/
theorem told_of_round (hc : h.authenticator = c.authenticator t)
    (hnext : next.Adds fun _ => True) {result : Outcome ⊕ Request}
    (hr : (h.round cancellation next r).run s = (result, s')) :
    ∃ part, next.Shows s r part ∧
      ((∃ outcome, result = .inl outcome) ∧ s'.shown = s.shown ++ part ∨
        ∃ line, s'.shown = s.shown ++ (part ++ [line]) ∧
          ∀ r', result = .inr r' → ∃ carried, r'.budget = some carried ∧
            line = if r.budget = none then "None" else carried.text) := by
  have hwaited {response : Response} {left : Request} {waited : Except Failure Unit}
      {s₁ s₂ : Session} {part : List String} (hshown : s₁.shown = s.shown ++ part)
      (hp : (h.pause cancellation response left).run s₁ = (waited, s₂)) :
      s₂.shown = s.shown ++ (part ++ [RetryBudget.text ⟨left.budget.bind (·.remaining)⟩]) := by
    rw [shown_pause hp, hshown, List.append_assoc]
  cases rounded_of_run hr with
  | settled answered =>
    obtain ⟨part, hway, hshown⟩ := hnext.exists_shows answered
    exact ⟨part, hway, .inl ⟨⟨_, rfl⟩, hshown⟩⟩
  | spent answered =>
    obtain ⟨part, hway, hshown⟩ := hnext.exists_shows answered
    exact ⟨part, hway, .inl ⟨⟨_, rfl⟩, (filterMap_events_spend rfl rfl _).trans hshown⟩⟩
  | givenUp answered _ _ paused =>
    obtain ⟨part, hway, hshown⟩ := hnext.exists_shows answered
    exact ⟨part, hway, .inr ⟨_, hwaited hshown paused, fun _ h => absurd h Sum.inl_ne_inr⟩⟩
  | refused answered _ _ paused called =>
    obtain ⟨part, hway, hshown⟩ := hnext.exists_shows answered
    have hended := hwaited hshown paused
    rw [← shown_call hc called] at hended
    exact ⟨part, hway, .inr ⟨_, hended, fun _ h => absurd h Sum.inl_ne_inr⟩⟩
  | resent answered _ taken paused called =>
    obtain ⟨part, hway, hshown⟩ := hnext.exists_shows answered
    obtain ⟨carried, hcarried, htext⟩ := text_of_taken taken
    have hended := hwaited hshown paused
    rw [← shown_call hc called] at hended
    refine ⟨part, hway, .inr ⟨_, hended, ?_⟩⟩
    -- asking for credentials leaves the budget that was taken before the wait
    rintro _ ⟨⟩
    obtain ⟨-, left', htake, hbudget⟩ := alike_of_round hc hr
    obtain rfl := (Prod.mk.inj (taken.symm.trans htake)).2
    exact ⟨carried, hbudget.trans hcarried, htext⟩

/-- **A course** has a line for each wait, and each request that is sent again has the budget that
its line shows, unless there was none before. By induction on the rounds; a request that is sent
again has a budget, so that only the first line can differ. -/
theorem told_of_course (hc : h.authenticator = c.authenticator t)
    (hnext : next.Adds fun _ => True) (rounds : Nat) {course : Course}
    (hcourse : (h.course cancellation next rounds r).run s = (course, s')) :
    ∃ lines all, s'.shown = s.shown ++ all ∧ Told next s course.handed lines all ∧
      ∀ i q, course.handed[i + 1]? = some q → ∃ line carried, lines[i]? = some line ∧
        q.budget = some carried ∧
        line = if i = 0 ∧ r.budget = none then "None" else carried.text := by
  induction rounds generalizing r s s' course with
  | zero =>
    cases hcourse
    exact ⟨[], [], (List.append_nil _).symm, .unfollowed, fun _ _ hq => by cases hq⟩
  | succ more ih =>
    rw [course_succ] at hcourse
    rcases hr : (h.round cancellation next r).run s with ⟨outcome | r', s₁⟩
    · rw [hr] at hcourse
      cases hcourse
      obtain ⟨part, hway, ⟨-, hshown⟩ | ⟨line, hshown, -⟩⟩ := told_of_round hc hnext hr
      · exact ⟨[], part, hshown, .settled hway, fun _ _ hq => by cases hq⟩
      · exact ⟨[line], part ++ [line], hshown, .waited hway hshown .unfollowed,
          fun _ _ hq => by cases hq⟩
    rcases hrest : (h.course cancellation next more r').run s₁ with ⟨rest, s₂⟩
    simp only [hr, hrest] at hcourse
    cases hcourse
    obtain ⟨part, hway, ⟨⟨_, hended⟩, -⟩ | ⟨line, hshown, hcarries⟩⟩ := told_of_round hc hnext hr
    · cases hended
    obtain ⟨carried, hcarried, hline⟩ := hcarries r' rfl
    obtain ⟨lines, all, hshown', htold, hlines⟩ := ih hrest
    refine ⟨line :: lines, part ++ line :: all, ?_, .waited hway hshown htold, fun i q hq => ?_⟩
    · rw [hshown', hshown, List.append_assoc, List.append_assoc]
      rfl
    cases i with
    | zero =>
      have hq' : rest.handed[0]? = some q := hq
      rw [← congrArg (·.1.handed) hrest] at hq'
      obtain rfl : q = r' := (follows_of_handed hc more r' s₁ hq').first rfl
      refine ⟨line, carried, rfl, hcarried, ?_⟩
      rw [hline]
      simp
    -- from here on the request has a budget, so that the exception is over
    | succ i =>
      obtain ⟨line', carried', hline', hcarried', htext⟩ := hlines i q hq
      refine ⟨line', carried', hline', hcarried', ?_⟩
      rw [htext, hcarried]
      simp

/-- **Where the line differs.** The log of a call has a line for each of its waits, among what is
shown by the rest of the way, which may be anything that only adds to the log. After each wait that
is followed by a send, the request has a budget, and this is what its line shows; but on the first
wait of a call without a budget of its own no bound is shown, even if the policy sets one, which is
then what the request has. -/
theorem shown_is_carried_unless (c : Credential) (t : Transport) (policy : RetryPolicy)
    (cancellation : Option Cancellation) {next : Next} (hnext : next.Adds fun _ => True)
    (rounds : Nat) (r : Request) (s : Session) :
    let h : Throttle := ⟨c.authenticator t, policy⟩
    let run := (h.course cancellation next rounds r).run s
    ∃ lines all, run.2.shown = s.shown ++ all ∧ Told next s run.1.handed lines all ∧
      ∀ i q, run.1.handed[i + 1]? = some q → ∃ line carried, lines[i]? = some line ∧
        q.budget = some carried ∧
        line = (if i = 0 ∧ r.budget = none then "None" else carried.text) ∧
        (line = carried.text ↔ ¬ (i = 0 ∧ r.budget = none ∧ policy.maxRetries.isSome)) := by
  intro h run
  have hrun : (h.course cancellation next rounds r).run s = (run.1, run.2) := rfl
  obtain ⟨lines, all, hshown, htold, hlines⟩ := told_of_course rfl hnext rounds hrun
  refine ⟨lines, all, hshown, htold, fun i q hq => ?_⟩
  obtain ⟨line, carried, hline, hcarried, htext⟩ := hlines i q hq
  refine ⟨line, carried, hline, hcarried, htext, ?_⟩
  rw [htext]
  by_cases hfirst : i = 0 ∧ r.budget = none
  · obtain ⟨rfl, hown⟩ := hfirst
    -- the first request that is sent again has what the policy sets
    have hset := (follows_of_handed rfl rounds r s hq).budget
    rw [hcarried, hown] at hset
    obtain rfl : carried = ⟨policy.maxRetries⟩ := by simpa [RetryPolicy.budgetAt] using hset
    have hnone : "None" = RetryBudget.text ⟨policy.maxRetries⟩ ↔
        (⟨none⟩ : RetryBudget) = ⟨policy.maxRetries⟩ := by
      rw [← RetryBudget.text_inj]
      rfl
    rw [if_pos ⟨rfl, hown⟩, hnone]
    rcases policy.maxRetries with _ | n <;> simp [hown]
  · rw [if_neg hfirst]
    exact ⟨fun _ hcase => hfirst ⟨hcase.1, hcase.2.1⟩, fun _ => rfl⟩

/-- **From the second wait on** the line is right: under a policy of two resends, a call that is
always turned away shows one attempt there, and this is what the third request has. -/
theorem shown_is_carried_unless_second :
    let h : Throttle := ⟨Credential.noAuth.authenticator .throttling, ⟨⟨10000000⟩, some 2⟩⟩
    let next := Transport.throttling.next
    let third := Request.ofItems.withBudget ⟨some 1⟩
    let run := (h.course none next 4 .ofItems).run (.start 0)
    (next.Adds fun _ => True) ∧ run.1.handed[2]? = some third ∧
      run.2.shown[1]? = some (RetryBudget.text ⟨some 1⟩) := by
  intro h next third run
  have hnext {p : Event → Prop} (hsent : ∀ q r, p (.sent .call q r)) : next.Adds p :=
    Transport.throttling.adds_next hsent
  have hadds : next.Adds fun _ => True := hnext fun _ _ => trivial
  have hq : run.1.handed[2]? = some third := by decide
  obtain ⟨lines, all, hshown, htold, hlines⟩ :=
    shown_is_carried_unless .noAuth .throttling h.policy none hadds 4 .ofItems (.start 0)
  obtain ⟨line, carried, hline, hcarried, -, htext⟩ := hlines 1 third hq
  obtain rfl : ⟨some 1⟩ = carried := Option.some.inj hcarried
  obtain rfl : all = lines := htold.eq_lines (hnext fun _ _ => rfl)
  refine ⟨hadds, hq, ?_⟩
  rw [← htext.mpr (by decide), ← hline]
  exact congrArg (·[1]?) hshown

/-- **The first wait** of this call shows no bound, but the second request has two attempts. -/
theorem first_wait_shows_none :
    let h : Throttle := ⟨Credential.noAuth.authenticator .throttling, ⟨⟨10000000⟩, some 2⟩⟩
    let run := (h.course none Transport.throttling.next 4 .ofItems).run (.start 0)
    run.2.shown = ["None", "Some(1)"] ∧
      run.1.handed.tail.map (fun q => q.budget.map RetryBudget.text) =
        [some "Some(2)", some "Some(1)"] := by
  decide

end Throttle

end Outbound
