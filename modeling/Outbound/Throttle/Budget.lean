/-!
# Retry budgets

How often a call may still be sent. The budget travels with the request: `n` attempts stand for the
send at hand and `n - 1` resends.

* **bounded** — every throttled answer takes one attempt, and the call ends with the last one;
* **unbounded** — never spent.
-/

namespace Outbound

/-- **A budget**: the attempts that are left, `none` for any number. -/
structure RetryBudget where
  remaining : Option Nat
  deriving DecidableEq, Repr, Inhabited

namespace RetryBudget

/-- **Taking an attempt.** Answers whether another send is allowed, and the budget that is left. -/
def consume (b : RetryBudget) : Bool × RetryBudget :=
  match b.remaining with
  | none => (true, b)
  | some n => (1 < n, ⟨some (n - 1)⟩)

@[simp] theorem consume_unbounded : consume ⟨none⟩ = (true, ⟨none⟩) := rfl

theorem consume_bounded (n : Nat) : consume ⟨some n⟩ = (decide (1 < n), ⟨some (n - 1)⟩) := rfl

/-- The budget as diagnostics show its attempts. -/
def text (b : RetryBudget) : String :=
  match b.remaining with
  | none => "None"
  | some n => s!"Some({n})"

end RetryBudget

end Outbound
