import Outbound.Proofs.Number.Rounding
import Outbound.Proofs.Token.Keeping

/-!
# Four fifths of a lifetime

The deadline of an issued token is computed in rounded steps, and is still the one that is meant, or
a single millisecond before it.

* **ratio** — the double nearest to four fifths is off by `1 / 2 ^ 54` at most
  (`abs_refreshRatio_sub_le`);
* **steps** — for times up to `2 ^ 40` seconds each step is off by `1 / 2 ^ 13` at most, and the
  instant of the refresh by five times that (`abs_refreshAt_sub_le`);
* **truncating** — the deadline that is meant is a whole number of milliseconds, so that truncating
  costs one of them at most (`truncate_eq_or`).
-/

namespace Outbound.AccessToken

open Outbound.Number

/-- **The deadline that is meant**: a token is refreshed four fifths of its lifetime after it was
issued. -/
def refreshMillis (issuedAt expiresAt : Int) : Int := 1000 * issuedAt + 800 * (expiresAt - issuedAt)

/-- **The instant of the refresh** as it is computed, in seconds. -/
def refreshAt (issuedAt lifetime : ℚ) : ℚ :=
  nearest (nearest issuedAt + nearest (refreshRatio * nearest lifetime))

/-! ## Steps -/

theorem refreshRatio_nonneg : 0 ≤ refreshRatio := nearest_nonneg (by norm_num)

/-- **The ratio** lies below one, and so its last place is that of `1 / 2 ^ 53`. -/
theorem abs_refreshRatio_sub_le : |refreshRatio - 4 / 5| ≤ 1 / 2 ^ 54 :=
  (abs_nearest_sub_le (k := 0) (by decide) (by norm_num) (by norm_num)).trans_eq (by norm_num)

/-- **A step** that stays below `2 ^ 41`. -/
theorem abs_step_sub_le {x : ℚ} (hx : 0 ≤ x) (hlt : x < 2 ^ 41) : |nearest x - x| ≤ 1 / 2 ^ 13 :=
  (abs_nearest_sub_le (k := 41) (by decide) hx hlt).trans_eq (by norm_num)

variable {issuedAt lifetime : ℚ}

/-- **Four fifths of a lifetime.** The lifetime is rounded, the ratio was, and their product is. -/
theorem abs_refreshRatio_mul_sub_le (hlifetime : 0 ≤ lifetime) (hmax : lifetime ≤ 2 ^ 40) :
    |nearest (refreshRatio * nearest lifetime) - 4 / 5 * lifetime| ≤ 3 * (1 / 2 ^ 13) := by
  -- the ratio is off by so little that even `2 ^ 41` times its error is one step
  have hratio := abs_refreshRatio_sub_le
  have hwhole0 : 0 ≤ nearest lifetime := nearest_nonneg hlifetime
  have hwhole := abs_step_sub_le hlifetime (by linarith)
  have hwhole41 : nearest lifetime ≤ 2 ^ 41 := by linarith [(abs_le.mp hwhole).2]
  have hproduct : |refreshRatio * nearest lifetime - 4 / 5 * lifetime| ≤ 2 * (1 / 2 ^ 13) := by
    calc |refreshRatio * nearest lifetime - 4 / 5 * lifetime|
        = |(refreshRatio - 4 / 5) * nearest lifetime + 4 / 5 * (nearest lifetime - lifetime)| := by
          congr 1
          ring
      _ ≤ |refreshRatio - 4 / 5| * nearest lifetime + 4 / 5 * |nearest lifetime - lifetime| := by
          refine (abs_add_le _ _).trans_eq ?_
          rw [abs_mul, abs_mul, abs_of_nonneg hwhole0, abs_of_pos (by norm_num : (0 : ℚ) < 4 / 5)]
      _ ≤ 1 / 2 ^ 54 * 2 ^ 41 + 4 / 5 * (1 / 2 ^ 13) := by gcongr
      _ ≤ 2 * (1 / 2 ^ 13) := by norm_num
  have hround := abs_step_sub_le (mul_nonneg refreshRatio_nonneg hwhole0)
    (by linarith [(abs_le.mp hproduct).2])
  calc |nearest (refreshRatio * nearest lifetime) - 4 / 5 * lifetime|
      ≤ |nearest (refreshRatio * nearest lifetime) - refreshRatio * nearest lifetime| +
          |refreshRatio * nearest lifetime - 4 / 5 * lifetime| := abs_sub_le _ _ _
    _ ≤ 1 / 2 ^ 13 + 2 * (1 / 2 ^ 13) := add_le_add hround hproduct
    _ = 3 * (1 / 2 ^ 13) := by ring

theorem refreshAt_nonneg (hissued : 0 ≤ issuedAt) (hlifetime : 0 ≤ lifetime) :
    0 ≤ refreshAt issuedAt lifetime :=
  nearest_nonneg (add_nonneg (nearest_nonneg hissued)
    (nearest_nonneg (mul_nonneg refreshRatio_nonneg (nearest_nonneg hlifetime))))

/-- **All steps together**: the beginning of the lifetime and the sum are rounded, too. -/
theorem abs_refreshAt_sub_le (hissued : 0 ≤ issuedAt) (hlifetime : 0 ≤ lifetime)
    (hmax : issuedAt + lifetime ≤ 2 ^ 40) :
    |refreshAt issuedAt lifetime - (issuedAt + 4 / 5 * lifetime)| ≤ 5 * (1 / 2 ^ 13) := by
  have hstart0 : 0 ≤ nearest issuedAt := nearest_nonneg hissued
  have hpart0 : 0 ≤ nearest (refreshRatio * nearest lifetime) :=
    nearest_nonneg (mul_nonneg refreshRatio_nonneg (nearest_nonneg hlifetime))
  obtain ⟨hstartlow, hstarthigh⟩ := abs_le.mp (abs_step_sub_le hissued (by linarith))
  obtain ⟨hpartlow, hparthigh⟩ := abs_le.mp (abs_refreshRatio_mul_sub_le hlifetime (by linarith))
  obtain ⟨hsumlow, hsumhigh⟩ :=
    abs_le.mp (abs_step_sub_le (add_nonneg hstart0 hpart0) (by linarith))
  -- one step for the beginning, three for the part, one for their sum
  rw [refreshAt, abs_le]
  constructor <;> linarith

/-! ## Truncating -/

/-- **Close to an integer**, truncating yields it or the one before it. -/
theorem truncate_eq_or {x : ℚ} {n : Int} (hx : 0 ≤ x) (hnear : |x - n| < 1) :
    truncate x = n ∨ truncate x = n - 1 := by
  obtain ⟨hlow, hhigh⟩ := abs_lt.mp hnear
  have hle : n - 1 ≤ ⌊x⌋ := Int.le_floor.mpr (by push_cast; linarith)
  have hlt : ⌊x⌋ < n + 1 := Int.floor_lt.mpr (by push_cast; linarith)
  rw [truncate_eq_floor hx]
  omega

theorem truncate_nonneg {x : ℚ} (hx : 0 ≤ x) : 0 ≤ truncate x := by
  rw [truncate_eq_floor hx]
  exact Int.floor_nonneg.mpr hx

/-! ## The deadline -/

theorem saturate_eq_self {n : Int} (hmin : int64Min ≤ n) (hmax : n ≤ int64Max) :
    saturate n = n := by
  rw [saturate, Int.min_eq_left hmax, Int.max_eq_right hmin]

variable {issuedAt expiresAt : Int}

/-- **The milliseconds of the refresh** are close to those that are meant. Below `2 ^ 51` the last
step is off by an eighth at most. -/
theorem abs_refreshAt_millis_sub_lt (hissued : 0 ≤ issuedAt) (hle : issuedAt ≤ expiresAt)
    (hmax : expiresAt ≤ 2 ^ 40) :
    |nearest (refreshAt issuedAt (expiresAt - issuedAt : Int) * 1000) -
      (refreshMillis issuedAt expiresAt : Int)| < 1 := by
  have hissued : (0 : ℚ) ≤ issuedAt := by exact_mod_cast hissued
  have hlifetime : (0 : ℚ) ≤ (expiresAt - issuedAt : Int) := by
    exact_mod_cast Int.sub_nonneg.mpr hle
  have hend : (issuedAt : ℚ) + (expiresAt - issuedAt : Int) ≤ 2 ^ 40 := by
    push_cast
    rw [add_sub_cancel]
    exact_mod_cast hmax
  have hmeant : ((refreshMillis issuedAt expiresAt : Int) : ℚ) =
      (issuedAt + 4 / 5 * (expiresAt - issuedAt : Int)) * 1000 := by
    push_cast [refreshMillis]
    ring
  have hrefresh0 := refreshAt_nonneg hissued hlifetime
  obtain ⟨hlow, hhigh⟩ := abs_le.mp (abs_refreshAt_sub_le hissued hlifetime hend)
  have hround : |nearest (refreshAt issuedAt (expiresAt - issuedAt : Int) * 1000) -
      refreshAt issuedAt (expiresAt - issuedAt : Int) * 1000| ≤ 1 / 2 ^ 3 :=
    (abs_nearest_sub_le (k := 51) (by decide) (by linarith) (by linarith)).trans_eq (by norm_num)
  obtain ⟨hroundlow, hroundhigh⟩ := abs_le.mp hround
  rw [hmeant, abs_lt]
  constructor <;> linarith

/-- **The computed deadline** is the one that is meant, or a millisecond before it. -/
theorem deadlineMillis_eq_or (hissued : 0 ≤ issuedAt) (hle : issuedAt ≤ expiresAt)
    (hmax : expiresAt ≤ 2 ^ 40) :
    0 ≤ deadlineMillis issuedAt expiresAt ∧
      (deadlineMillis issuedAt expiresAt = refreshMillis issuedAt expiresAt ∨
        deadlineMillis issuedAt expiresAt = refreshMillis issuedAt expiresAt - 1) := by
  have hlifetime : saturate (expiresAt - issuedAt) = expiresAt - issuedAt :=
    saturate_eq_self (by rw [int64Min]; omega) (by rw [int64Max]; omega)
  have hnonneg : 0 ≤ nearest (refreshAt issuedAt (expiresAt - issuedAt : Int) * 1000) :=
    nearest_nonneg (mul_nonneg (refreshAt_nonneg (by exact_mod_cast hissued)
      (by exact_mod_cast Int.sub_nonneg.mpr hle)) (by norm_num))
  have hor := truncate_eq_or hnonneg (abs_refreshAt_millis_sub_lt hissued hle hmax)
  have htruncate := truncate_nonneg hnonneg
  have hdeadline : deadlineMillis issuedAt expiresAt =
      truncate (nearest (refreshAt issuedAt (expiresAt - issuedAt : Int) * 1000)) := by
    rw [deadlineMillis, hlifetime]
    refine saturate_eq_self ?_ ?_
    · rw [int64Min]
      exact Int.le_trans (by decide) htruncate
    · rw [refreshMillis] at hor
      change truncate (nearest (refreshAt issuedAt (expiresAt - issuedAt : Int) * 1000)) ≤ _
      rw [int64Max]
      omega
  rw [hdeadline]
  exact ⟨htruncate, hor⟩

/-- **Four fifths of the lifetime.** From claims that state a lifetime up to `2 ^ 40` seconds a
token can always be issued, and its deadline is the one that is meant or a millisecond before it,
never later. In particular it does not lie after the end of the lifetime. -/
theorem issued_at_four_fifths (text : String) (claims : Claims)
    (hissuedAt : claims.issuedAt = .ok (some issuedAt))
    (hexpiresAt : claims.expiresAt = .ok (some expiresAt)) (hissued : 0 ≤ issuedAt)
    (hle : issuedAt ≤ expiresAt) (hmax : expiresAt ≤ 2 ^ 40) :
    ∃ token, issued text claims = .ok token ∧ token.text = text ∧
      (token.expiresAtMillis = refreshMillis issuedAt expiresAt ∨
        token.expiresAtMillis = refreshMillis issuedAt expiresAt - 1) ∧
      token.expiresAtMillis ≤ 1000 * expiresAt := by
  obtain ⟨hdeadline, hor⟩ := deadlineMillis_eq_or hissued hle hmax
  refine ⟨⟨text, deadlineMillis issuedAt expiresAt⟩, ?_, rfl, hor, ?_⟩
  · exact issued_eq_ok.mpr ⟨issuedAt, expiresAt, hissuedAt, hexpiresAt, hle, hdeadline, rfl⟩
  · have hmeant : refreshMillis issuedAt expiresAt ≤ 1000 * expiresAt := by
      rw [refreshMillis]
      omega
    change deadlineMillis issuedAt expiresAt ≤ _
    omega

/-- Claims that state a lifetime and nothing else. -/
def claimsOfLifetime (issuedAt expiresAt : Int) : Claims :=
  ⟨[], [("exp", .number (.whole expiresAt)), ("iat", .number (.whole issuedAt))]⟩

/-- **A millisecond is lost** of three seconds that begin at the second 256. -/
theorem issued_at_four_fifths_of_three_seconds :
    (claimsOfLifetime 256 259).issuedAt = .ok (some 256) ∧
      (claimsOfLifetime 256 259).expiresAt = .ok (some 259) ∧
      ∃ token, issued "token" (claimsOfLifetime 256 259) = .ok token ∧ token.text = "token" ∧
        token.expiresAtMillis = refreshMillis 256 259 - 1 ∧ token.expiresAtMillis ≤ 259000 := by
  have hissuedAt : (claimsOfLifetime 256 259).issuedAt = .ok (some 256) := rfl
  have hexpiresAt : (claimsOfLifetime 256 259).expiresAt = .ok (some 259) := rfl
  have hissued : issued "token" (claimsOfLifetime 256 259) = .ok ⟨"token", 258399⟩ :=
    eq_ok_of_toOption (by decide +kernel)
  obtain ⟨token, htoken, htext, hor, hend⟩ :=
    issued_at_four_fifths "token" (claimsOfLifetime 256 259)
    hissuedAt hexpiresAt (by decide) (by decide) (by decide)
  have hlost : token.expiresAtMillis ≠ refreshMillis 256 259 := by
    rw [← Except.ok.inj (hissued.symm.trans htoken)]
    decide
  exact ⟨hissuedAt, hexpiresAt, token, htoken, htext, hor.resolve_left hlost, hend⟩

end Outbound.AccessToken
