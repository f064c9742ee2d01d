import Outbound.Failure

/-!
# Checks in sequence

What is built from parts is checked rule by rule, and the first rule that is broken decides the
failure.

* **sequencing** — a sequence succeeds if both of its steps do (`bind_eq_ok`), and behind a check if
  this passes (`ite_error_eq_ok`);
* **rules** — a `Rule` is given by the failures that its breach is reported with, and `FirstBroken`
  is the failure of the first broken rule of a list;
* **going by rules** — `GoesBy` says that a computation fails exactly as a list of rules has it. It
  is shown step by step (`GoesBy.bind`), and then says when the whole succeeds
  (`GoesBy.exists_ok_iff`).
-/

namespace Outbound

/-- **A sequence succeeds** if both of its steps do. -/
theorem bind_eq_ok {ε α β : Type} {x : Except ε α} {f : α → Except ε β} {b : β} :
    (x >>= f) = .ok b ↔ ∃ a, x = .ok a ∧ f a = .ok b := by
  cases x with
  | error e => exact ⟨nofun, nofun⟩
  | ok a =>
    constructor
    · exact fun h => ⟨a, rfl, h⟩
    · rintro ⟨_, ⟨⟩, h⟩
      exact h

/-- **Behind a check** there is success if the check finds nothing, and what follows succeeds. -/
theorem ite_error_eq_ok {ε α : Type} {p : Prop} [Decidable p] {e : ε} {x : Except ε α} {a : α} :
    (if p then .error e else x) = .ok a ↔ ¬ p ∧ x = .ok a := by
  by_cases hp : p
  · rw [if_pos hp]
    exact ⟨nofun, fun h => absurd hp h.1⟩
  · rw [if_neg hp, and_iff_right hp]

/-- **A success** is told by what is left when failures are forgotten. -/
theorem eq_ok_of_toOption {ε α : Type} {x : Except ε α} {a : α} (h : x.toOption = some a) :
    x = .ok a := by
  cases x with
  | error e => cases h
  | ok b => exact congrArg Except.ok (Option.some.inj h)

/-- **Rules**, by the failures that tell of a breach. -/
abbrev Rule := ConfigFailure → Prop

namespace Rule

/-- The rule that something must be so, or else there is this failure. -/
def demand (condition : Prop) (failure : ConfigFailure) : Rule :=
  fun e => ¬ condition ∧ e = failure

/-- A rule holds if nothing breaks it. -/
def Holds (rule : Rule) : Prop := ∀ failure, ¬ rule failure

end Rule

/-- **The first broken rule** of a list, by its failure: all rules in front of it hold. -/
inductive FirstBroken : List Rule → ConfigFailure → Prop
  | here {rule rules failure} (broken : rule failure) : FirstBroken (rule :: rules) failure
  | later {rule : Rule} {rules failure} (holds : rule.Holds) (rest : FirstBroken rules failure) :
    FirstBroken (rule :: rules) failure

variable {rules rules' : List Rule} {failure : ConfigFailure}

/-- Of two lists of rules the second one matters only if all rules of the first one hold. -/
theorem firstBroken_append :
    FirstBroken (rules ++ rules') failure ↔
      FirstBroken rules failure ∨ (∀ rule ∈ rules, rule.Holds) ∧ FirstBroken rules' failure := by
  induction rules with
  | nil =>
    constructor
    · intro h
      exact .inr ⟨nofun, h⟩
    · rintro (h | ⟨-, h⟩)
      · cases h
      · exact h
  | cons rule rules ih =>
    rw [List.cons_append, List.forall_mem_cons]
    constructor
    · intro h
      cases h with
      | here broken => exact .inl (.here broken)
      | later holds rest =>
        rcases ih.mp rest with h | ⟨hall, h⟩
        · exact .inl (.later holds h)
        · exact .inr ⟨⟨holds, hall⟩, h⟩
    · rintro (h | ⟨⟨holds, hall⟩, h⟩)
      · cases h with
        | here broken => exact .here broken
        | later holds rest => exact .later holds (ih.mpr (.inl rest))
      · exact .later holds (ih.mpr (.inr ⟨hall, h⟩))

/-- **There is a first broken rule** unless all rules hold. -/
theorem not_exists_firstBroken :
    (¬ ∃ failure, FirstBroken rules failure) ↔ ∀ rule ∈ rules, rule.Holds := by
  induction rules with
  | nil =>
    refine ⟨fun _ => nofun, fun _ => ?_⟩
    rintro ⟨_, ⟨⟩⟩
  | cons rule rules ih =>
    rw [List.forall_mem_cons, ← ih]
    constructor
    · intro h
      have holds : rule.Holds := fun failure broken => h ⟨failure, .here broken⟩
      refine ⟨holds, ?_⟩
      rintro ⟨failure, rest⟩
      exact h ⟨failure, .later holds rest⟩
    · rintro ⟨holds, hrest⟩ ⟨failure, h⟩
      cases h with
      | here broken => exact holds failure broken
      | later _ rest => exact hrest ⟨failure, rest⟩

/-! ## Going by rules -/

variable {α β : Type} {x : Except ConfigFailure α} {f : α → Except ConfigFailure β}

/-- **A computation goes by rules** if it fails exactly with the failure of the first broken one. -/
def GoesBy (rules : List Rule) (x : Except ConfigFailure α) : Prop :=
  ∀ failure, x = .error failure ↔ FirstBroken rules failure

namespace GoesBy

/-- What always succeeds goes by no rules. -/
theorem ok (a : α) : GoesBy [] (.ok a : Except ConfigFailure α) := by
  intro failure
  refine ⟨nofun, ?_⟩
  rintro ⟨⟩

/-- **Success** means that all rules hold. -/
theorem exists_ok_iff (h : GoesBy rules x) : (∃ a, x = .ok a) ↔ ∀ rule ∈ rules, rule.Holds := by
  rw [← not_exists_firstBroken]
  cases x with
  | ok a =>
    refine ⟨fun _ => ?_, fun _ => ⟨a, rfl⟩⟩
    rintro ⟨failure, hbroken⟩
    cases (h failure).mpr hbroken
  | error failure =>
    refine ⟨nofun, fun hnone => absurd ⟨failure, (h failure).mp rfl⟩ hnone⟩

/-- **A single demand.** -/
theorem demand {condition : Prop} {failure : ConfigFailure}
    (hok : condition → ∃ a, x = .ok a) (herror : ¬ condition → x = .error failure) :
    GoesBy [.demand condition failure] x := by
  intro e
  constructor
  · intro he
    have hnot : ¬ condition := by
      intro hcondition
      obtain ⟨a, ha⟩ := hok hcondition
      rw [ha] at he
      cases he
    have hfailure : failure = e := Except.error.inj ((herror hnot).symm.trans he)
    exact .here ⟨hnot, hfailure.symm⟩
  · intro he
    cases he with
    | here broken => rw [herror broken.1, broken.2]
    | later _ rest => cases rest

/-- **One after the other**: the second computation goes by rules of its own. -/
theorem bind (hx : GoesBy rules x) (hf : ∀ a, x = .ok a → GoesBy rules' (f a)) :
    GoesBy (rules ++ rules') (x >>= f) := by
  intro failure
  rw [firstBroken_append, ← hx failure, ← hx.exists_ok_iff]
  cases x with
  | error e =>
    have hstops : (Except.error e >>= f) = (.error e : Except ConfigFailure β) := rfl
    simp only [hstops, reduceCtorEq, exists_false, false_and, or_false]
    rw [Except.error.injEq, Except.error.injEq]
  | ok a =>
    constructor
    · intro h
      exact .inr ⟨⟨a, rfl⟩, (hf a rfl failure).mp h⟩
    · rintro (h | ⟨-, h⟩)
      · cases h
      · exact (hf a rfl failure).mpr h

/-- What is made of a success adds no rules. -/
theorem bind_ok (hx : GoesBy rules x) (hf : ∀ a, ∃ b, f a = .ok b) : GoesBy rules (x >>= f) := by
  have hbind : GoesBy (rules ++ []) (x >>= f) := by
    refine hx.bind fun a _ => ?_
    obtain ⟨b, hb⟩ := hf a
    rw [hb]
    exact .ok b
  rwa [List.append_nil] at hbind

theorem map (g : α → β) (hx : GoesBy rules x) : GoesBy rules (g <$> x) := by
  rw [map_eq_pure_bind]
  exact hx.bind_ok fun a => ⟨g a, rfl⟩

end GoesBy

end Outbound
