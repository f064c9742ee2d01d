import Mathlib.Tactic.NormNum
import Outbound.Proofs.Text.Parting
import Outbound.Text.Integer

/-!
# Numerals

What the readers of decimal integers accept, said without them: a numeral is a sign or none in front
of digits, of which there is at least one. A count is a numeral without a minus.

* **values** — `Numeral` relates a text to the integer that it writes, `Count` to the natural
  number;
* **reading** — `int?` reads the numerals and nothing else (`int?_eq_some_iff`), `int64?` those of
  64 signed bits (`int64?_eq_some_iff`), and `nat64?` the counts of 64 unsigned bits
  (`nat64?_eq_some_iff`);
* **writing** — an integer is written as a numeral that stands for it (`Numeral.of_toString`);
* **blanks** — a numeral has none (`Numeral.not_isBlank`), so that trimming finds it again
  (`Numeral.trim_append_append`).
-/

namespace Outbound.Text

/-- **Signs** in front of a numeral, each with the factor that it stands for. -/
inductive Sign : List Char → Int → Prop
  | none : Sign [] 1
  | plus : Sign ['+'] 1
  | minus : Sign ['-'] (-1)

/-- **Numerals** and what they write: digits in base ten, behind a sign or none. -/
inductive Numeral : List Char → Int → Prop
  | of {sign digits : List Char} {factor : Int} (hsign : Sign sign factor) (hne : digits ≠ [])
      (hdigits : ∀ c ∈ digits, c.isDigit) :
      Numeral (sign ++ digits) (factor * Nat.ofDigitChars 10 digits 0)

/-! ## Reading -/

theorem nat?_eq_some_iff {cs : List Char} {n : Nat} :
    nat? cs = some n ↔ cs ≠ [] ∧ (∀ c ∈ cs, c.isDigit) ∧ Nat.ofDigitChars 10 cs 0 = n := by
  rw [nat?, Option.ite_none_right_eq_some, Option.some.injEq]
  simp [and_assoc]

/-- Digits that come without a sign. -/
theorem int?_of_digits {digits : List Char} (hdigits : ∀ c ∈ digits, c.isDigit) :
    int? digits = (nat? digits).map Int.ofNat := by
  unfold int?
  split
  · exact absurd (hdigits '+' List.mem_cons_self) (by decide)
  · exact absurd (hdigits '-' List.mem_cons_self) (by decide)
  · rfl

theorem int?_minus (ds : List Char) :
    int? ('-' :: ds) = (nat? ds).map fun n : Nat => -(n : Int) := by
  cases h : nat? ds with
  | none => simp [int?, h]
  | some n => simp [int?, h]

/-- What is read behind a sign is a numeral with the sign. -/
theorem Numeral.of_nat? {sign digits : List Char} {factor : Int} {m : Nat}
    (hsign : Sign sign factor) (h : nat? digits = some m) :
    Numeral (sign ++ digits) (factor * m) := by
  obtain ⟨hne, hdigits, rfl⟩ := nat?_eq_some_iff.mp h
  exact .of hsign hne hdigits

/-- **Reading finds numerals only.** -/
theorem Numeral.of_int? {cs : List Char} {n : Int} (h : int? cs = some n) : Numeral cs n := by
  -- the negative case goes first: what is read of it is known by `int?_minus`, not by unfolding
  by_cases hminus : ∃ ds, cs = '-' :: ds
  · obtain ⟨ds, rfl⟩ := hminus
    rw [int?_minus] at h
    obtain ⟨m, hm, rfl⟩ := Option.map_eq_some_iff.mp h
    simpa using Numeral.of_nat? .minus hm
  · unfold int? at h
    split at h
    · obtain ⟨m, hm, rfl⟩ := Option.map_eq_some_iff.mp h
      simpa using Numeral.of_nat? .plus hm
    · exact absurd ⟨_, rfl⟩ hminus
    · obtain ⟨m, hm, rfl⟩ := Option.map_eq_some_iff.mp h
      simpa using Numeral.of_nat? .none hm

/-- **Reading finds every numeral.** -/
theorem Numeral.int?_eq {cs : List Char} {n : Int} (h : Numeral cs n) : int? cs = some n := by
  obtain @⟨sign, digits, factor, hsign, hne, hdigits⟩ := h
  have hread : nat? digits = some (Nat.ofDigitChars 10 digits 0) :=
    nat?_eq_some_iff.mpr ⟨hne, hdigits, rfl⟩
  cases hsign with
  | none => simp [int?_of_digits hdigits, hread]
  | plus => simp [int?, hread]
  | minus => simp [int?_minus, hread]

theorem int?_eq_some_iff {cs : List Char} {n : Int} : int? cs = some n ↔ Numeral cs n :=
  ⟨Numeral.of_int?, Numeral.int?_eq⟩

/-- **Integers of 64 signed bits** are the numerals that fit. -/
theorem int64?_eq_some_iff {cs : List Char} {n : Int} :
    int64? cs = some n ↔ Numeral cs n ∧ FitsInt64 n := by
  simp [int64?, Option.filter_eq_some_iff, int?_eq_some_iff]

/-! ## Writing -/

/-- **Integers are written as numerals.** -/
theorem Numeral.of_toString (n : Int) : Numeral (toString n).toList n := by
  have hdigits (m : Nat) : ∀ c ∈ Nat.toDigits 10 m, c.isDigit :=
    fun c hc => Nat.isDigit_of_mem_toDigits (by decide) (by decide) hc
  have hvalue (m : Nat) : Nat.ofDigitChars 10 (Nat.toDigits 10 m) 0 = m :=
    Nat.ofDigitChars_toDigits (by decide) (by decide)
  cases n with
  | ofNat m =>
    have htext : (toString (Int.ofNat m)).toList = [] ++ Nat.toDigits 10 m := Nat.toList_repr
    rw [htext]
    simpa [hvalue] using Numeral.of .none Nat.toDigits_ne_nil (hdigits m)
  | negSucc m =>
    have htext : (toString (Int.negSucc m)).toList = ['-'] ++ Nat.toDigits 10 (m + 1) := by
      rw [← Nat.toList_repr, ← String.toList_singleton, ← String.toList_append]
      rfl
    rw [htext]
    simpa [hvalue, Int.negSucc_eq] using Numeral.of .minus Nat.toDigits_ne_nil (hdigits (m + 1))

/-! ## Counts -/

/-- **Counts**: numerals with a plus in front of them or with nothing. -/
inductive Count : List Char → Nat → Prop
  | of {sign digits : List Char} (hsign : Sign sign 1) (hne : digits ≠ [])
      (hdigits : ∀ c ∈ digits, c.isDigit) : Count (sign ++ digits) (Nat.ofDigitChars 10 digits 0)

theorem Count.numeral {cs : List Char} {n : Nat} (h : Count cs n) : Numeral cs n := by
  obtain @⟨sign, digits, hsign, hne, hdigits⟩ := h
  simpa using Numeral.of hsign hne hdigits

/-- **A positive numeral** has no minus. -/
theorem Numeral.count {cs : List Char} {n : Nat} (h : Numeral cs n) (hpos : 0 < n) :
    Count cs n := by
  obtain ⟨m, hm⟩ : ∃ m : Int, m = n := ⟨_, rfl⟩
  rw [← hm] at h
  obtain @⟨sign, digits, factor, hsign, hne, hdigits⟩ := h
  cases hsign with
  | minus => omega
  | none =>
    obtain rfl : Nat.ofDigitChars 10 digits 0 = n := by omega
    exact .of .none hne hdigits
  | plus =>
    obtain rfl : Nat.ofDigitChars 10 digits 0 = n := by omega
    exact .of .plus hne hdigits

/-- **Integers of 64 unsigned bits** are the counts that fit. -/
theorem nat64?_eq_some_iff {cs : List Char} {n : Nat} :
    nat64? cs = some n ↔ Count cs n ∧ n < 1 <<< 64 := by
  unfold nat64?
  rw [Option.filter_eq_some_iff, decide_eq_true_eq]
  refine and_congr_left fun _ => ⟨fun h => ?_, fun h => ?_⟩
  · split at h
    · obtain ⟨hne, hdigits, rfl⟩ := nat?_eq_some_iff.mp h
      exact .of .plus hne hdigits
    · obtain ⟨hne, hdigits, rfl⟩ := nat?_eq_some_iff.mp h
      exact .of .none hne hdigits
  · obtain @⟨sign, digits, hsign, hne, hdigits⟩ := h
    have hread : nat? digits = some (Nat.ofDigitChars 10 digits 0) :=
      nat?_eq_some_iff.mpr ⟨hne, hdigits, rfl⟩
    cases hsign with
    | plus => exact hread
    | none =>
      rw [List.nil_append]
      split
      · exact absurd (hdigits '+' List.mem_cons_self) (by decide)
      · exact hread

/-! ## Blanks -/

theorem not_isBlank_of_isDigit {c : Char} (h : c.isDigit) : ¬ isBlank c := by
  have hrange : 48 ≤ c.toNat ∧ c.toNat ≤ 57 := by
    simpa [Char.isDigit, Char.le_def, UInt32.le_iff_toNat_le] using h
  simp [isBlank]
  omega

/-- **No blanks** stand in a numeral. -/
theorem Numeral.not_isBlank {cs : List Char} {n : Int} (h : Numeral cs n) :
    ∀ c ∈ cs, ¬ isBlank c := by
  obtain @⟨sign, digits, factor, hsign, hne, hdigits⟩ := h
  intro c hc
  rcases List.mem_append.mp hc with hc | hc
  · cases hsign with
    | none => exact absurd hc List.not_mem_nil
    | plus =>
      obtain rfl := List.mem_singleton.mp hc
      decide
    | minus =>
      obtain rfl := List.mem_singleton.mp hc
      decide
  · exact not_isBlank_of_isDigit (hdigits c hc)

/-- **Trimming finds a numeral** between blanks. -/
theorem Numeral.trim_append_append {front cs back : List Char} {n : Int} (h : Numeral cs n)
    (hfront : ∀ c ∈ front, isBlank c) (hback : ∀ c ∈ back, isBlank c) :
    trim (front ++ cs ++ back) = cs :=
  Outbound.Text.trim_append_append hfront h.not_isBlank hback

end Outbound.Text
