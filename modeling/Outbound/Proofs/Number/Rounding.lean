import Mathlib.Algebra.Order.Field.Power
import Mathlib.Data.Rat.Floor
import Mathlib.Tactic.Linarith
import Mathlib.Tactic.Positivity
import Mathlib.Tactic.Ring
import Outbound.Number.Binary64

/-!
# How far rounding goes

A rounded number lies within half a unit of its last place from the number that it stands for.

* **integers** — `roundQuotient` is off by half at most (`abs_roundQuotient_sub_le`);
* **scaling** — what is rounded is the quotient in units of its last place (`scaleDown_eq`), and the
  unit is no greater than the quotient allows (`two_zpow_binaryExponent_le`);
* **53 bits** — below `2 ^ k` a rational is rounded by `2 ^ (k - 54)` at most
  (`abs_nearest_sub_le`).
-/

namespace Outbound.Number

/-! ## Rounding to an integer -/

/-- **Half** is the most that rounding to an integer is off. -/
theorem abs_roundQuotient_sub_le {num den : Nat} (hden : 0 < den) :
    |(roundQuotient num den : ℚ) - num / den| ≤ 1 / 2 := by
  have hdiv : den * (num / den) + num % den = num := Nat.div_add_mod num den
  have hsucc : den * (num / den + 1) = den * (num / den) + den := Nat.mul_succ _ _
  have hmod : num % den < den := Nat.mod_lt num hden
  have hround : 2 * num ≤ 2 * (den * roundQuotient num den) + den ∧
      2 * (den * roundQuotient num den) ≤ 2 * num + den := by
    rw [roundQuotient]
    split_ifs <;> omega
  have hlow : (2 * num : ℚ) ≤ 2 * (den * roundQuotient num den) + den := by exact_mod_cast hround.1
  have hhigh : (2 * (den * roundQuotient num den) : ℚ) ≤ 2 * num + den := by exact_mod_cast hround.2
  have hpos : (0 : ℚ) < den := by exact_mod_cast hden
  have hquotient : (num / den : ℚ) * den = num := div_mul_cancel₀ _ hpos.ne'
  rw [abs_le]
  constructor
  · nlinarith only [hlow, hpos, hquotient]
  · nlinarith only [hhigh, hpos, hquotient]

/-! ## Scaling -/

theorem twoPow_eq (k : Int) : twoPow k = (2 : ℚ) ^ k := by
  unfold twoPow
  split
  case isTrue h => rw [← zpow_natCast, Int.toNat_of_nonneg h]
  case isFalse h =>
    have hneg : 0 ≤ -k := by omega
    rw [← zpow_natCast, Int.toNat_of_nonneg hneg, zpow_neg, one_div, inv_inv]

theorem scaleDown_pos {den : Nat} (hden : 0 < den) (num : Nat) (k : Int) :
    0 < (scaleDown num den k).2 := by
  have hpos : 0 < den * 2 ^ k.toNat := Nat.mul_pos hden (Nat.two_pow_pos _)
  rwa [← Nat.shiftLeft_eq] at hpos

/-- **The quotient in units** of `2 ^ k`. -/
theorem scaleDown_eq (num den : Nat) (k : Int) :
    ((scaleDown num den k).1 : ℚ) / (scaleDown num den k).2 = num / den * 2 ^ (-k) := by
  have hsplit : (2 : ℚ) ^ (-k) = 2 ^ (-k).toNat / 2 ^ k.toNat := by
    rw [← zpow_natCast, ← zpow_natCast, ← zpow_sub₀ two_ne_zero]
    congr 1
    omega
  simp only [scaleDown, Nat.shiftLeft_eq, Nat.cast_mul, Nat.cast_pow, Nat.cast_ofNat]
  rw [hsplit, mul_div_mul_comm]

/-- **The exponent** of a quotient is that of a power of two that does not exceed it. -/
theorem two_zpow_binaryExponent_le {num den : Nat} (hnum : num ≠ 0) (hden : 0 < den) :
    (2 : ℚ) ^ binaryExponent num den ≤ num / den := by
  simp only [binaryExponent]
  split
  case isTrue h =>
    have hpos := scaleDown_pos hden num ((num.log2 : Int) - den.log2)
    have hone : (1 : ℚ) ≤ num / den * 2 ^ (-((num.log2 : Int) - den.log2)) := by
      rw [← scaleDown_eq, one_le_div (by exact_mod_cast hpos)]
      exact_mod_cast h
    rwa [zpow_neg, ← div_eq_mul_inv, one_le_div (by positivity)] at hone
  case isFalse =>
    have hpos : (0 : ℚ) < den := by exact_mod_cast hden
    have hnum : (2 : ℚ) ^ (num.log2 : Int) ≤ num := by exact_mod_cast Nat.log2_self_le hnum
    have hden : (den : ℚ) ≤ 2 ^ ((den.log2 : Int) + 1) := by exact_mod_cast Nat.lt_log2_self.le
    rw [le_div_iff₀ hpos]
    calc (2 : ℚ) ^ ((num.log2 : Int) - den.log2 - 1) * den
        ≤ 2 ^ ((num.log2 : Int) - den.log2 - 1) * 2 ^ ((den.log2 : Int) + 1) := by gcongr
      _ = 2 ^ (num.log2 : Int) := by
        rw [← zpow_add₀ two_ne_zero]
        congr 1
        ring
      _ ≤ num := hnum

/-! ## Rounding to 53 bits -/

/-- **What a quotient is rounded to** is a whole number of units. A carry out of the 53 bits changes
how it is written, and not what it is. -/
theorem roundToBits_eq {least e : Int} {num den : Nat} (hnum : num ≠ 0)
    (he : e = max (binaryExponent num den - 52) least) :
    ((roundToBits least num den).1 : ℚ) * 2 ^ (roundToBits least num den).2 =
      (roundQuotient (scaleDown num den e).1 (scaleDown num den e).2 : ℚ) * 2 ^ e := by
  simp only [roundToBits, if_neg hnum, ← he]
  split
  case isTrue hcarry =>
    have hone : ((1 <<< 53 : Nat) : ℚ) = (1 <<< 52 : Nat) * 2 := by norm_num [Nat.shiftLeft_eq]
    rw [hcarry, hone, zpow_add₀ two_ne_zero, zpow_one, mul_assoc, mul_comm (2 ^ _)]
  case isFalse => rfl

variable {k : Int}

/-- **Below a power of two** the unit of the last place is at most `2 ^ (k - 53)`, and the rounded
quotient is off by half of it. -/
theorem abs_roundToBits_sub_le {least : Int} {num den : Nat} (hnum : num ≠ 0) (hden : 0 < den)
    (hk : least + 53 ≤ k) (hlt : (num / den : ℚ) < 2 ^ k) :
    |((roundToBits least num den).1 : ℚ) * 2 ^ (roundToBits least num den).2 - num / den| ≤
      2 ^ (k - 54) := by
  have hexponent : binaryExponent num den < k := by
    have hpow : (2 : ℚ) ^ binaryExponent num den < 2 ^ k :=
      (two_zpow_binaryExponent_le hnum hden).trans_lt hlt
    exact (zpow_lt_zpow_iff_right₀ one_lt_two).mp hpow
  obtain ⟨e, he⟩ : ∃ e, e = max (binaryExponent num den - 52) least := ⟨_, rfl⟩
  have hround := @abs_roundQuotient_sub_le (scaleDown num den e).1 _ (scaleDown_pos hden num e)
  have hunits : (num / den : ℚ) * 2 ^ (-e) * 2 ^ e = num / den := by
    rw [mul_assoc, ← zpow_add₀ two_ne_zero, neg_add_cancel, zpow_zero, mul_one]
  rw [scaleDown_eq] at hround
  rw [roundToBits_eq hnum he]
  calc |(roundQuotient (scaleDown num den e).1 (scaleDown num den e).2 * 2 ^ e - num / den : ℚ)|
      = |(roundQuotient (scaleDown num den e).1 (scaleDown num den e).2 : ℚ) -
          num / den * 2 ^ (-e)| * 2 ^ e := by
        rw [← abs_of_pos (zpow_pos two_pos e : (0 : ℚ) < 2 ^ e), ← abs_mul, sub_mul,
          abs_of_pos (zpow_pos two_pos e : (0 : ℚ) < 2 ^ e), hunits]
    _ ≤ 1 / 2 * 2 ^ e := by gcongr
    _ = 2 ^ (e - 1) := by rw [zpow_sub_one₀ two_ne_zero, mul_comm, one_div]
    _ ≤ 2 ^ (k - 54) := zpow_le_zpow_right₀ one_le_two (by omega)

variable {x : ℚ}

theorem nearest_of_nonneg (hx : 0 ≤ x) :
    nearest x = ((roundToBits Binary64.leastExponent x.num.natAbs x.den).1 : ℚ) *
      2 ^ (roundToBits Binary64.leastExponent x.num.natAbs x.den).2 := by
  simp only [nearest, if_neg hx.not_gt, twoPow_eq]

theorem nearest_nonneg (hx : 0 ≤ x) : 0 ≤ nearest x := by
  rw [nearest_of_nonneg hx]
  positivity

/-- **Rounding error.** Below `2 ^ k` a rational is rounded by half a unit of the last place at
most. -/
theorem abs_nearest_sub_le (hk : -1021 ≤ k) (hx : 0 ≤ x) (hlt : x < 2 ^ k) :
    |nearest x - x| ≤ 2 ^ (k - 54) := by
  rcases hx.eq_or_lt with rfl | hpos
  · have hzero : nearest 0 = 0 := by simp [nearest, roundToBits]
    rw [hzero, sub_zero, abs_zero]
    exact zpow_nonneg zero_le_two _
  · have hquotient : (x.num.natAbs / x.den : ℚ) = x := by
      rw [Nat.cast_natAbs, abs_of_nonneg (Rat.num_nonneg.mpr hx), Rat.num_div_den]
    have hnum : x.num.natAbs ≠ 0 := Int.natAbs_ne_zero.mpr (Rat.num_pos.mpr hpos).ne'
    have hround := @abs_roundToBits_sub_le k Binary64.leastExponent _ _ hnum x.den_pos
      (by rw [Binary64.leastExponent]; omega) (hquotient.trans_lt hlt)
    rwa [hquotient, ← nearest_of_nonneg hx] at hround

/-! ## Truncating -/

theorem truncate_eq_floor (hx : 0 ≤ x) : truncate x = ⌊x⌋ := by
  rw [truncate, Rat.floor_def', Int.tdiv_eq_ediv_of_nonneg (Rat.num_nonneg.mpr hx)]

end Outbound.Number
