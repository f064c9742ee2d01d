import Outbound.Proofs.Throttle.Hint

/-!
# Hints at two readings of the clock

A refusing endpoint hints at a length of time or at an instant. A length is the same whenever it is
looked at; of an instant the hint is the time that is left until then, and there is none once it has
come.

* **what is told** — `Headers.TellsCount` and `Headers.TellsDate`, of the first `Retry-After` alone:
  a count of seconds, or the instant of a date;
* **countdown** — without a count, a hint leads from the reading of the clock to the date, and takes
  time (`retryAfter?_eq_some_iff`); no other reading plays a part;
* **the theorem** — `hint_counts_down`, for two readings and any headers.
-/

namespace Outbound

open Outbound.Time Outbound.Text

theorem Time.Instant.after_eq_iff {now t : Instant} {d : Duration} :
    now.after d = t ↔ (d.nanos : Int) = t - now := eq_sub_iff_add_eq'.symm

namespace Headers

variable {h : Headers} {n : Nat} {t now early late : Instant} {hint : Duration}

/-- **A count is told**: the first `Retry-After` spells a number of seconds. -/
def TellsCount (h : Headers) (n : Nat) : Prop :=
  ∃ v, h.get? .retryAfter = some v ∧ v.SpellsCount n

/-- **A date is told**: the first `Retry-After`, without the blanks around it, is the date of an
instant. -/
def TellsDate (h : Headers) (t : Instant) : Prop :=
  ∃ cs, h.trimmed? .retryAfter = some cs ∧ MailDate.instant? cs = some t

theorem tellsCount_iff :
    h.TellsCount n ↔ ∃ cs, h.trimmed? .retryAfter = some cs ∧ nat64? cs = some n := by
  simp only [TellsCount, HeaderValue.SpellsCount, nat64?_eq_some_iff, trimmed?,
    Option.bind_eq_some_iff]
  constructor
  · rintro ⟨v, hv, cs, hcs, hcount⟩
    exact ⟨cs, ⟨v, hv, hcs⟩, hcount⟩
  · rintro ⟨cs, ⟨v, hv, hcs⟩, hcount⟩
    exact ⟨v, hv, cs, hcs, hcount⟩

/-- **A count that is told** is the hint at every instant. -/
theorem TellsCount.retryAfter?_eq (hn : h.TellsCount n) (now : Instant) :
    h.retryAfter? now = some (.ofSeconds n) := by
  obtain ⟨v, hv, hspells⟩ := hn
  exact retryAfter?_of_count hv hspells now

/-- One date is told at most. -/
theorem TellsDate.unique {t' : Instant} (ht : h.TellsDate t) (ht' : h.TellsDate t') : t = t' := by
  obtain ⟨cs, hcs, hdate⟩ := ht
  obtain ⟨cs', hcs', hdate'⟩ := ht'
  obtain rfl : cs = cs' := Option.some.inj (hcs.symm.trans hcs')
  exact Option.some.inj (hdate.symm.trans hdate')

/-- **Countdown.** Where no count is told, a hint leads from the clock to the date that is told. -/
theorem retryAfter?_eq_some_iff (hcount : ∀ n, ¬ h.TellsCount n) :
    h.retryAfter? now = some hint ↔
      ∃ t, h.TellsDate t ∧ now.after hint = t ∧ 0 < hint.nanos := by
  simp only [tellsCount_iff, not_exists, not_and] at hcount
  simp only [TellsDate, retryAfter?, Instant.after_eq_iff]
  rcases htext : h.trimmed? .retryAfter with _ | cs
  · simp
  · have hread : nat64? cs = none :=
      Option.eq_none_iff_forall_ne_some.mpr fun n => hcount n cs htext
    rcases hdate : MailDate.instant? cs with _ | t
    · simp [hread, hdate]
    · obtain ⟨nanos⟩ := hint
      simp only [Option.bind_eq_bind, Option.bind_some, hread, hdate, Option.ite_none_right_eq_some,
        Option.some.injEq, Duration.mk.injEq, exists_eq_left']
      unfold Instant at *
      omega

/-- **Two readings of the clock.** A count of seconds is the hint at both. Otherwise what is hinted
at is one instant, that of the date, whatever the clock says: a hint takes time and leads there, so
that the earlier reading gives what the later one does and the time between them on top. A hint that
is used up between the two is gone at the later one, and one that is not is shorter by the time
between. -/
theorem hint_counts_down (h : Headers) (hle : early ≤ late) :
    (∀ n, h.TellsCount n →
      h.retryAfter? early = some (.ofSeconds n) ∧ h.retryAfter? late = some (.ofSeconds n)) ∧
    ((∀ n, ¬ h.TellsCount n) →
      (∀ now hint, h.retryAfter? now = some hint ↔
        ∃ t, h.TellsDate t ∧ now.after hint = t ∧ 0 < hint.nanos) ∧
      (∀ now hint, h.retryAfter? now = some hint → 0 < hint.nanos) ∧
      (∀ hint, h.retryAfter? late = some hint →
        h.retryAfter? early = some ⟨hint.nanos + (late - early).toNat⟩) ∧
      (∀ hint, h.retryAfter? early = some hint →
        (hint.nanos ≤ late - early → h.retryAfter? late = none) ∧
        (late - early < hint.nanos →
          h.retryAfter? late = some ⟨hint.nanos - (late - early).toNat⟩))) := by
  refine ⟨fun n hn => ⟨hn.retryAfter?_eq early, hn.retryAfter?_eq late⟩, fun hcount => ?_⟩
  have hleads (now : Instant) (hint : Duration) : h.retryAfter? now = some hint ↔
      ∃ t, h.TellsDate t ∧ (hint.nanos : Int) = t - now ∧ 0 < hint.nanos := by
    simpa only [Instant.after_eq_iff] using retryAfter?_eq_some_iff hcount
  refine ⟨fun now hint => retryAfter?_eq_some_iff hcount, fun now hint hnow => ?_,
    fun hint hlate => ?_, fun hint hearly => ?_⟩
  · obtain ⟨-, -, -, hpos⟩ := (hleads now hint).mp hnow
    exact hpos
  · obtain ⟨t, ht, hlength, hpos⟩ := (hleads late hint).mp hlate
    have hlonger : ((hint.nanos + (late - early).toNat : Nat) : Int) = t - early := by
      unfold Instant at *
      omega
    exact (hleads early _).mpr ⟨t, ht, hlonger, Nat.add_pos_left hpos _⟩
  · obtain ⟨t, ht, hlength, -⟩ := (hleads early hint).mp hearly
    constructor
    · intro hused
      refine Option.eq_none_iff_forall_ne_some.mpr fun hint' hlate => ?_
      obtain ⟨t', ht', hlength', hpos'⟩ := (hleads late hint').mp hlate
      -- it would lead to the same date, which the clock has reached
      obtain rfl := ht.unique ht'
      unfold Instant at *
      omega
    · intro hleft
      have hshorter : ((hint.nanos - (late - early).toNat : Nat) : Int) = t - late ∧
          0 < hint.nanos - (late - early).toNat := by
        unfold Instant at *
        omega
      exact (hleads late _).mpr ⟨t, ht, hshorter⟩

/-- **A date in another zone**, with blanks around it and a count behind it that is of no account:
half a second before its midnight the hint is half a second, two seconds before it is longer by what
lies between, and at midnight it is gone. -/
theorem hint_counts_down_to_midnight :
    let h : Headers :=
      ⟨[(.retryAfter, .ofText " Wed, 15 Nov 2023 01:00:00 +0100\t"), (.retryAfter, .ofText "7")]⟩
    let midnight : Instant := 1700006400000000000
    h.retryAfter? (midnight - 500000000) = some ⟨500000000⟩ ∧
      h.retryAfter? (midnight - 2000000000) = some ⟨2000000000⟩ ∧
        h.retryAfter? midnight = none := by
  intro h midnight
  have hcount : ∀ n, ¬ h.TellsCount n := by
    intro n hn
    obtain ⟨cs, hcs, hread⟩ := tellsCount_iff.mp hn
    have hnone : (h.trimmed? .retryAfter).bind nat64? = none := by decide +kernel
    rw [hcs, Option.bind_some, hread] at hnone
    cases hnone
  have hlate : h.retryAfter? (midnight - 500000000) = some ⟨500000000⟩ := by decide +kernel
  obtain ⟨-, hbefore⟩ :=
    hint_counts_down h (show midnight - 2000000000 ≤ midnight - 500000000 by decide)
  obtain ⟨-, hafter⟩ := hint_counts_down h (show midnight - 500000000 ≤ midnight by decide)
  refine ⟨hlate, ?_, ?_⟩
  · obtain ⟨-, -, hearlier, -⟩ := hbefore hcount
    rw [hearlier _ hlate]
    decide +kernel
  · obtain ⟨-, -, -, hlater⟩ := hafter hcount
    exact (hlater _ hlate).1 (by decide +kernel)

end Headers

end Outbound
