import Outbound.Proofs.Token.Keeping
import Outbound.Proofs.Token.Sharing

/-!
# How long a token is valid

Deadlines and their absence share one number: whatever is negative stands for no deadline.

* **deadlines** — an issued token has one, whatever its claims say (`Issued.expiresAtMillis`);
* **instants** — a deadline counts to the last nanosecond of its millisecond (`millis_le_iff`),
  though milliseconds are counted toward the epoch, and so the other way before it;
* **validity** — `isValidAt_iff` for tokens with a deadline, `isValidAt_supplied` for those without.
-/

namespace Outbound.AccessToken

open Outbound.Time

/-! ## Deadlines -/

/-- **Issued tokens.** A text becomes one with claims from elsewhere, or with those that it
holds. -/
inductive Issued (text : String) (token : AccessToken) : Prop
  | ofClaims {claims : Claims} (h : issued text claims = .ok token)
  | ofText (h : decode text = .ok token)

variable {text : String} {token : AccessToken}

theorem Issued.exists_claims (h : Issued text token) :
    ∃ claims, issued text claims = .ok token := by
  cases h with
  | ofClaims h => exact ⟨_, h⟩
  | ofText h =>
    obtain ⟨claims, -, h⟩ := bind_eq_ok.mp h
    exact ⟨claims, h⟩

theorem Issued.text_eq (h : Issued text token) : token.text = text := by
  obtain ⟨claims, h⟩ := h.exists_claims
  obtain ⟨_, _, _, _, _, _, rfl⟩ := issued_eq_ok.mp h
  rfl

theorem saturate_le (n : Int) : saturate n ≤ int64Max :=
  Int.max_le.mpr ⟨by decide, Int.min_le_right n int64Max⟩

/-- **A deadline** is a number of milliseconds from the epoch on, which 64 bits can hold. -/
theorem Issued.expiresAtMillis (h : Issued text token) :
    0 ≤ token.expiresAtMillis ∧ token.expiresAtMillis ≤ int64Max := by
  obtain ⟨claims, h⟩ := h.exists_claims
  obtain ⟨issuedAt, expiresAt, _, _, _, hdeadline, rfl⟩ := issued_eq_ok.mp h
  exact ⟨hdeadline, saturate_le _⟩

/-- **An issued token has a deadline.** -/
theorem Issued.neverExpires (h : Issued text token) : token.neverExpires = false :=
  decide_eq_false (Int.not_lt.mpr h.expiresAtMillis.1)

/-! ## Instants -/

/-- **The last nanosecond** of a millisecond that does not lie before the epoch. -/
theorem millis_le_iff {deadline : Int} (hdeadline : 0 ≤ deadline) (now : Instant) :
    Instant.millis now ≤ deadline ↔ now < (deadline + 1) * 1000000 := by
  rcases Int.le_total 0 now with hnow | hnow
  · -- From the epoch on the fraction is dropped downwards.
    have hdiv : Instant.millis now = now / 1000000 := Int.tdiv_eq_ediv_of_nonneg hnow
    rw [hdiv, ← Int.lt_add_one_iff]
    exact Int.ediv_lt_iff_lt_mul (by decide)
  · -- Before it the fraction is dropped upwards, but not beyond the epoch.
    have hmillis : Instant.millis now ≤ 0 := Int.tdiv_le_tdiv (by decide) hnow
    have hend : 0 < (deadline + 1) * 1000000 := by omega
    exact iff_of_true (Int.le_trans hmillis hdeadline) (Int.lt_of_le_of_lt hnow hend)

/-! ## Validity -/

/-- **With a deadline**, a token that is not empty is valid up to it. -/
theorem isValidAt_iff (hdeadline : 0 ≤ token.expiresAtMillis) (now : Instant) :
    token.isValidAt now ↔ token.text ≠ "" ∧ now < (token.expiresAtMillis + 1) * 1000000 := by
  have hnever : token.neverExpires = false := decide_eq_false (Int.not_lt.mpr hdeadline)
  rw [← millis_le_iff hdeadline, isValidAt, hnever, Bool.false_or, Bool.and_eq_true,
    Bool.not_eq_true', decide_eq_true_eq, String.isEmpty_eq_false_iff]

/-- **Without a deadline**, a token is valid unless it is empty. -/
theorem isValidAt_supplied (text : String) (now : Instant) :
    (supplied text).isValidAt now ↔ text ≠ "" := by
  have hnever : (supplied text).neverExpires = true := rfl
  rw [isValidAt, hnever, Bool.true_or, Bool.and_true, Bool.not_eq_true',
    String.isEmpty_eq_false_iff]
  rfl

/-- **A token that is invalid** stays so. -/
theorem not_isValidAt_of_le {early late : Instant} (hle : early ≤ late)
    (h : ¬ token.isValidAt early) : ¬ token.isValidAt late :=
  fun hlate => h (isValidAt_of_le hlate hle)

/-- **Validity.** An issued token has a deadline, whatever its text and its claims, and is valid up
to the end of it unless it is empty; once it is invalid it stays so. A token that the caller looks
after is valid for ever unless it is empty. -/
theorem valid_to_the_deadline :
    (∀ text token, Issued text token → token.text = text ∧ 0 ≤ token.expiresAtMillis ∧
        token.neverExpires = false ∧
        (∀ now, token.isValidAt now ↔ text ≠ "" ∧ now < (token.expiresAtMillis + 1) * 1000000) ∧
        ∀ early late, early ≤ late → ¬ token.isValidAt early → ¬ token.isValidAt late) ∧
      ∀ text now, (supplied text).isValidAt now ↔ text ≠ "" := by
  refine ⟨fun text token h => ?_, isValidAt_supplied⟩
  have hdeadline : 0 ≤ token.expiresAtMillis := h.expiresAtMillis.1
  refine ⟨h.text_eq, hdeadline, h.neverExpires, fun now => ?_,
    fun early late => not_isValidAt_of_le⟩
  rw [isValidAt_iff hdeadline, h.text_eq]

/-- **A token of an hour** is valid to the end of the millisecond at four fifths of it. -/
theorem valid_to_the_deadline_of_hour :
    Issued ofHour.text ofHour ∧ ofHour.neverExpires = false ∧
      ofHour.isValidAt 2880000999999 ∧ ∀ now, 2880001000000 ≤ now → ¬ ofHour.isValidAt now := by
  have hissued : Issued ofHour.text ofHour := .ofText (eq_ok_of_toOption (by decide +kernel))
  obtain ⟨-, -, hnever, hvalid, hstays⟩ := valid_to_the_deadline.1 _ _ hissued
  have hend : ¬ ofHour.isValidAt 2880001000000 := by
    rw [hvalid]
    decide
  exact ⟨hissued, hnever, (hvalid _).mpr (by decide), fun now hle => hstays _ _ hle hend⟩

end Outbound.AccessToken
