import Outbound.Proofs.Throttle.Waiting

/-!
# The wait and the hint

`Retry-After` is read in two ways: as the wait before a resend, a positive integer of 64 signed
bits, and as the hint of a refusing endpoint, an integer of 64 unsigned bits or a date. Where the
wait is taken from it, the two readings say the same, up to the width of the wait.

* **counts** — `HeaderValue.SpellsCount`: what the hint takes for seconds. Of those the wait takes
  the positive ones that fit its width, and no others (`spellsWait_iff`);
* **hints** — a count is the hint at every instant (`retryAfter?_of_count`), and nothing else is: a
  date is none at its own instant (`spellsCount_iff`);
* **the theorem** — `hint_agrees_with_wait`, with the bound beyond which the wait is cut.
-/

namespace Outbound

open Outbound.Time Outbound.Text

namespace HeaderValue

variable {v : HeaderValue} {n : Nat}

/-- **Values that spell a count** of 64 unsigned bits, blanks around it not counted. -/
def SpellsCount (v : HeaderValue) (n : Nat) : Prop :=
  ∃ cs, v.trimmed? = some cs ∧ Count cs n ∧ n < 1 <<< 64

/-- **A wait is a count** that is positive and fits 63 bits. -/
theorem spellsWait_iff : v.SpellsWait n ↔ v.SpellsCount n ∧ 1 ≤ n ∧ n ≤ 0x7FFFFFFFFFFFFFFF := by
  constructor
  · rintro ⟨hspells, hpos, hle⟩
    obtain ⟨cs, hcs, hnumeral⟩ := spells_iff.mp hspells
    have hlt : n < 1 <<< 64 := lt_of_le_of_lt hle (by decide)
    exact ⟨⟨cs, hcs, hnumeral.count hpos, hlt⟩, hpos, hle⟩
  · rintro ⟨⟨cs, hcs, hcount, -⟩, hpos, hle⟩
    exact ⟨spells_iff.mpr ⟨cs, hcs, hcount.numeral⟩, hpos, hle⟩

end HeaderValue

namespace Headers

variable {h : Headers} {v : HeaderValue} {n : Nat}

/-- The value that decides is the first one of its name. -/
theorem get?_of_decides {name : HeaderName} (hv : h.Decides name v) : h.get? name = some v := by
  cases hv with
  | reset hv => simp [get?, hv]
  | retry hreset hv => simp [get?, hv]

/-- **A count** is the hint at every instant. -/
theorem retryAfter?_of_count (hv : h.get? .retryAfter = some v) (hn : v.SpellsCount n)
    (now : Instant) :
    h.retryAfter? now = some (.ofSeconds n) := by
  obtain ⟨cs, hcs, hcount, hlt⟩ := hn
  have hread : nat64? cs = some n := nat64?_eq_some_iff.mpr ⟨hcount, hlt⟩
  simp [retryAfter?, trimmed?, hv, hcs, hread]

/-- **A date** is no hint at its own instant, so that a hint at every instant is a count. -/
theorem exists_count_of_retryAfter? (hv : h.get? .retryAfter = some v)
    (hhint : ∀ now, ∃ hint, h.retryAfter? now = some hint) : ∃ m, v.SpellsCount m := by
  obtain ⟨_, h₀⟩ := hhint 0
  obtain ⟨cs, hcs, h₀⟩ := Option.bind_eq_some_iff.mp h₀
  rcases hread : nat64? cs with _ | m
  · simp only [hread] at h₀
    obtain ⟨date, hdate, -⟩ := Option.bind_eq_some_iff.mp h₀
    obtain ⟨_, h₁⟩ := hhint date
    simp [retryAfter?, hcs, hread, hdate] at h₁
  · obtain ⟨hcount, hlt⟩ := nat64?_eq_some_iff.mp hread
    rw [trimmed?, hv] at hcs
    exact ⟨m, cs, hcs, hcount, hlt⟩

/-- **Seconds at every instant** are told by a count, and by nothing else. -/
theorem spellsCount_iff (hv : h.get? .retryAfter = some v) :
    v.SpellsCount n ↔ ∀ now, h.retryAfter? now = some (.ofSeconds n) := by
  refine ⟨fun hn now => retryAfter?_of_count hv hn now, fun hhint => ?_⟩
  obtain ⟨m, hm⟩ := exists_count_of_retryAfter? hv fun now => ⟨_, hhint now⟩
  have hsame : Duration.ofSeconds m = .ofSeconds n := by
    rw [← Option.some.injEq, ← retryAfter?_of_count hv hm 0, hhint 0]
  obtain rfl : m = n := by simpa [Duration.ofSeconds] using hsame
  exact hm

/-- **A wait in full** is as long as its seconds. -/
theorem ofMillis_eq_ofSeconds (h : 1000 * n < 1 <<< 64) :
    Duration.ofMillis (min (1000 * n) 0xFFFFFFFFFFFFFFFF) = .ofSeconds n := by
  have hmin : min (1000 * n) 0xFFFFFFFFFFFFFFFF = 1000 * n := min_eq_left (by omega)
  rw [hmin, Duration.ofMillis, Duration.ofSeconds, Duration.mk.injEq]
  omega

/-- **A wait that is cut** is shorter than its seconds. -/
theorem ofMillis_lt_ofSeconds (h : 1 <<< 64 ≤ 1000 * n) :
    (Duration.ofMillis (min (1000 * n) 0xFFFFFFFFFFFFFFFF)).nanos <
      (Duration.ofSeconds n).nanos := by
  have hmin : min (1000 * n) 0xFFFFFFFFFFFFFFFF = 0xFFFFFFFFFFFFFFFF := min_eq_right (by omega)
  rw [hmin]
  change 0xFFFFFFFFFFFFFFFF * 1000000 < n * 1000000000
  omega

/-- **The hint agrees with the wait** wherever `Retry-After` decides about it. Of a value the wait
takes the counts of at least one second and at most 63 bits, and of those it takes each. Such a
count is the hint at every instant, the wait is as long, or shorter if its milliseconds do not fit
64 bits, and the default plays no part. A value whose hint is the same seconds at every instant is a
count, and none but a count is. -/
theorem hint_agrees_with_wait (hv : h.Decides .retryAfter v) (n : Nat) :
    (v.SpellsWait n ↔ v.SpellsCount n ∧ 1 ≤ n ∧ n ≤ 0x7FFFFFFFFFFFFFFF) ∧
      (v.SpellsCount n ↔ ∀ now, h.retryAfter? now = some (.ofSeconds n)) ∧
      (v.SpellsWait n → ∀ default,
        h.backoff default = ⟨.ofMillis (min (1000 * n) 0xFFFFFFFFFFFFFFFF), none⟩ ∧
          (1000 * n < 1 <<< 64 → (h.backoff default).interval = .ofSeconds n) ∧
          (1 <<< 64 ≤ 1000 * n →
            (h.backoff default).interval.nanos < (Duration.ofSeconds n).nanos)) := by
  refine ⟨HeaderValue.spellsWait_iff, spellsCount_iff (get?_of_decides hv), fun hn default => ?_⟩
  have hbackoff : h.backoff default = ⟨.ofMillis (min (1000 * n) 0xFFFFFFFFFFFFFFFF), none⟩ := by
    rw [backoff_of_seconds default hv hn, secondsWait_eq]
  rw [hbackoff]
  exact ⟨rfl, ofMillis_eq_ofSeconds, ofMillis_lt_ofSeconds⟩

/-- **The shortest wait that is cut**, with a plus and blanks around it: the hint is longer than the
wait. -/
theorem hint_agrees_with_wait_of_cut :
    let h : Headers :=
      ⟨[(.retryAfter, .ofText " +18446744073709552\t"), (.retryAfter, .ofText "1")]⟩
    (∀ now, h.retryAfter? now = some (.ofSeconds 18446744073709552)) ∧
      (h.backoff (.ofMillis 250)).interval.nanos <
        (Duration.ofSeconds 18446744073709552).nanos := by
  intro h
  have hv : h.Decides .retryAfter (.ofText " +18446744073709552\t") := .retry rfl rfl
  have hn : HeaderValue.SpellsWait (.ofText " +18446744073709552\t") 18446744073709552 :=
    HeaderValue.positiveSeconds?_eq_some_iff.mp (by decide +kernel)
  obtain ⟨hcount, hhint, hwait⟩ := hint_agrees_with_wait hv 18446744073709552
  exact ⟨hhint.mp (hcount.mp hn).1, (hwait hn (.ofMillis 250)).2.2 (by decide)⟩

end Headers

end Outbound
