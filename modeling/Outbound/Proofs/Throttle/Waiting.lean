import Outbound.Proofs.Text.Numeral
import Outbound.Trace.Event

/-!
# The wait that headers advise

A throttled answer says how long to wait in one header value: the first one of `RateLimit-Reset` if
the name is there at all, else the first one of `Retry-After`. The wait is stated here by what the
bytes of that value spell, and the reading of the value is shown to find just that.

* **spelling** — `HeaderValue.Spells`: a numeral between spaces and tabs, in printable ASCII;
  `HeaderValue.SpellsWait`: one that is positive and of 64 signed bits;
* **deciding** — `Headers.Decides`: the name and the value that are looked at;
* **advice** — `Headers.Advises`: the wait, and what is logged about it;
* **the theorem** — `Headers.backoff_as_advised`: the wait is the one advised, and no other is; one
  that comes from a header is a second at least.
-/

namespace Outbound

open Outbound.Time Outbound.Text

/-! ## Spelling -/

namespace HeaderValue

variable {v : HeaderValue}

/-- Printable ASCII, and tab. -/
def Printable (b : UInt8) : Prop := (32 ≤ b.toNat ∧ b.toNat ≤ 126) ∨ b.toNat = 9

/-- The characters that the bytes of a value stand for in ASCII. -/
def ascii (v : HeaderValue) : List Char := v.bytes.map fun b => Char.ofNat b.toNat

/-- **Values that spell an integer.** All is printable ASCII or tab, and the spaces and tabs on
either side of the numeral do not count. -/
structure Spells (v : HeaderValue) (n : Int) : Prop where
  printable : ∀ b ∈ v.bytes, Printable b
  numeral : ∃ front cs back, v.ascii = front ++ cs ++ back ∧ Numeral cs n ∧
    (∀ c ∈ front, c = ' ' ∨ c = '\t') ∧ (∀ c ∈ back, c = ' ' ∨ c = '\t')

/-- **Values that spell a wait**: a positive number of seconds, of 64 signed bits. -/
structure SpellsWait (v : HeaderValue) (n : Nat) : Prop where
  spells : v.Spells n
  pos : 1 ≤ n
  le_max : n ≤ 0x7FFFFFFFFFFFFFFF

theorem isPrintable_iff {b : UInt8} : isPrintable b ↔ Printable b := by
  simp [isPrintable, Printable, UInt8.le_iff_toNat_le, UInt8.lt_iff_toNat_lt, ← UInt8.toNat_inj]
  omega

theorem chars?_eq_some_iff {cs : List Char} :
    v.chars? = some cs ↔ (∀ b ∈ v.bytes, Printable b) ∧ v.ascii = cs := by
  simp [chars?, ascii, isPrintable_iff]

/-- **The blanks** in a part of a printable text are spaces and tabs. -/
theorem forall_isBlank_iff {part : List Char} (hv : ∀ b ∈ v.bytes, Printable b)
    (hpart : part ⊆ v.ascii) :
    (∀ c ∈ part, isBlank c) ↔ ∀ c ∈ part, c = ' ' ∨ c = '\t' := by
  have hbyte : ∀ n < 127, (32 ≤ n ∨ n = 9) →
      (isBlank (Char.ofNat n) ↔ Char.ofNat n = ' ' ∨ Char.ofNat n = '\t') := by
    decide +kernel
  refine forall₂_congr fun c hc => ?_
  obtain ⟨b, hb, rfl⟩ := List.mem_map.mp (hpart hc)
  have hprintable : (32 ≤ b.toNat ∧ b.toNat ≤ 126) ∨ b.toNat = 9 := hv b hb
  exact hbyte b.toNat (by omega) (by omega)

/-- **What a value spells** is what its text without the blanks around it writes. -/
theorem spells_iff {n : Int} : v.Spells n ↔ ∃ cs, v.trimmed? = some cs ∧ Numeral cs n := by
  constructor
  · rintro ⟨hprintable, front, cs, back, hascii, hcs, hfront, hback⟩
    have hchars : v.chars? = some v.ascii := chars?_eq_some_iff.mpr ⟨hprintable, rfl⟩
    have htrim : trim v.ascii = cs := by
      rw [← forall_isBlank_iff hprintable (by simp [hascii])] at hfront hback
      rw [hascii]
      exact hcs.trim_append_append hfront hback
    exact ⟨cs, by rw [trimmed?, hchars, Option.map_some, htrim], hcs⟩
  · rintro ⟨cs, htrim, hcs⟩
    obtain ⟨text, htext, rfl⟩ := Option.map_eq_some_iff.mp htrim
    obtain ⟨hprintable, rfl⟩ := chars?_eq_some_iff.mp htext
    obtain ⟨front, back, hascii, hfront, hback⟩ := exists_eq_append_trim_append v.ascii
    have hsub : front ⊆ v.ascii ∧ back ⊆ v.ascii := by
      rw [hascii]
      simp
    rw [forall_isBlank_iff hprintable hsub.1] at hfront
    rw [forall_isBlank_iff hprintable hsub.2] at hback
    exact ⟨hprintable, front, trim v.ascii, back, hascii, hcs, hfront, hback⟩

/-- **A positive number of seconds** is read where one is spelled. -/
theorem positiveSeconds?_eq_some_iff {n : Nat} : v.positiveSeconds? = some n ↔ v.SpellsWait n := by
  constructor
  · intro h
    unfold positiveSeconds? at h
    split at h
    case h_2 => cases h
    case h_1 m hm =>
      obtain ⟨hpos, hn⟩ := Option.ite_none_right_eq_some.mp h
      obtain rfl := Option.some.inj hn
      obtain ⟨cs, hcs, hread⟩ := Option.bind_eq_some_iff.mp hm
      obtain ⟨hnumeral, hfits⟩ := int64?_eq_some_iff.mp hread
      unfold FitsInt64 at hfits
      have hcast : (m.toNat : Int) = m := Int.toNat_of_nonneg hpos.le
      exact ⟨spells_iff.mpr ⟨cs, hcs, by rwa [hcast]⟩, by omega, by omega⟩
  · rintro ⟨hspells, hpos, hle⟩
    obtain ⟨cs, hcs, hnumeral⟩ := spells_iff.mp hspells
    have hread : int64? cs = some (n : Int) := by
      refine int64?_eq_some_iff.mpr ⟨hnumeral, ?_⟩
      unfold FitsInt64
      omega
    simp [positiveSeconds?, hcs, hread]
    omega

end HeaderValue

/-! ## Advice -/

namespace Headers

variable {h : Headers} {name : HeaderName} {v : HeaderValue}

/-- **The header that decides** about the wait, with its first value. -/
inductive Decides (h : Headers) : HeaderName → HeaderValue → Prop
  | reset {v : HeaderValue} {rest : List HeaderValue} (hv : h.values .rateLimitReset = v :: rest) :
      Decides h .rateLimitReset v
  | retry {v : HeaderValue} {rest : List HeaderValue} (hreset : h.values .rateLimitReset = [])
      (hv : h.values .retryAfter = v :: rest) : Decides h .retryAfter v

/-- The line that is logged of a value that is of no use. -/
def unusableLine (name : HeaderName) (v : HeaderValue) : LogLine :=
  ⟨.warn, "Ignoring unusable backoff header; using the default interval.",
    [("header", name.text), ("value", s!"Some({v.quoted})")]⟩

/-- **What headers advise**: a wait, and the lines that are logged about it. -/
inductive Advises (h : Headers) (default : Duration) : Duration → List LogLine → Prop
  | silent (hreset : h.values .rateLimitReset = []) (hretry : h.values .retryAfter = []) :
      Advises h default default []
  | seconds {name : HeaderName} {v : HeaderValue} {n : Nat} (hv : h.Decides name v)
      (hn : v.SpellsWait n) :
      Advises h default (.ofMillis (min (1000 * n) 0xFFFFFFFFFFFFFFFF)) []
  | unusable {name : HeaderName} {v : HeaderValue} (hv : h.Decides name v)
      (hn : ∀ n, ¬ v.SpellsWait n) : Advises h default default [unusableLine name v]

theorem backoffHeader?_eq_some_iff : h.backoffHeader? = some (name, v) ↔ h.Decides name v := by
  unfold backoffHeader? get?
  constructor
  · intro hsome
    rcases hreset : h.values .rateLimitReset with _ | ⟨first, rest⟩
    · rcases hretry : h.values .retryAfter with _ | ⟨first, rest⟩
      · simp [hreset, hretry] at hsome
      · obtain ⟨rfl, rfl⟩ : .retryAfter = name ∧ first = v := by simpa [hreset, hretry] using hsome
        exact .retry hreset hretry
    · obtain ⟨rfl, rfl⟩ : .rateLimitReset = name ∧ first = v := by simpa [hreset] using hsome
      exact .reset hreset
  · intro hdecides
    cases hdecides with
    | reset hv => simp [hv]
    | retry hreset hv => simp [hreset, hv]

theorem backoffHeader?_eq_none_iff :
    h.backoffHeader? = none ↔ h.values .rateLimitReset = [] ∧ h.values .retryAfter = [] := by
  unfold backoffHeader? get?
  rcases hreset : h.values .rateLimitReset with _ | ⟨first, rest⟩
  · simp
  · simp

theorem backoff_of_silent (default : Duration) (hreset : h.values .rateLimitReset = [])
    (hretry : h.values .retryAfter = []) : h.backoff default = ⟨default, none⟩ := by
  rw [backoff, backoffHeader?_eq_none_iff.mpr ⟨hreset, hretry⟩]

theorem backoff_of_seconds (default : Duration) {n : Nat} (hv : h.Decides name v)
    (hn : v.SpellsWait n) : h.backoff default = ⟨secondsWait n, none⟩ := by
  rw [backoff, backoffHeader?_eq_some_iff.mpr hv]
  simp only [HeaderValue.positiveSeconds?_eq_some_iff.mpr hn]

theorem backoff_of_unusable (default : Duration) (hv : h.Decides name v)
    (hn : ∀ n, ¬ v.SpellsWait n) : h.backoff default = ⟨default, some (name, v)⟩ := by
  have hnone : v.positiveSeconds? = none := by
    refine Option.eq_none_iff_forall_ne_some.mpr fun n hsome => ?_
    exact hn n (HeaderValue.positiveSeconds?_eq_some_iff.mp hsome)
  rw [backoff, backoffHeader?_eq_some_iff.mpr hv]
  simp only [hnone]

theorem secondsWait_eq (n : Nat) :
    secondsWait n = .ofMillis (min (1000 * n) 0xFFFFFFFFFFFFFFFF) := by
  rw [secondsWait, Nat.mul_comm]
  rfl

/-- **Whatever is advised** is what the headers are read as. -/
theorem Advises.backoff_eq {default interval : Duration} {lines : List LogLine}
    (hadvises : h.Advises default interval lines) :
    interval = (h.backoff default).interval ∧
      lines = (Event.ofBackoff (h.backoff default)).filterMap Event.logLine? := by
  cases hadvises with
  | silent hreset hretry =>
    rw [backoff_of_silent default hreset hretry]
    exact ⟨rfl, rfl⟩
  | seconds hv hn =>
    rw [backoff_of_seconds default hv hn, secondsWait_eq]
    exact ⟨rfl, rfl⟩
  | unusable hv hn =>
    rw [backoff_of_unusable default hv hn]
    exact ⟨rfl, rfl⟩

/-- **Something is advised** by all headers. -/
theorem exists_advises (h : Headers) (default : Duration) :
    ∃ interval lines, h.Advises default interval lines := by
  rcases hheader : h.backoffHeader? with _ | ⟨name, v⟩
  · obtain ⟨hreset, hretry⟩ := backoffHeader?_eq_none_iff.mp hheader
    exact ⟨_, _, .silent hreset hretry⟩
  · have hv : h.Decides name v := backoffHeader?_eq_some_iff.mp hheader
    by_cases hn : ∃ n, v.SpellsWait n
    · obtain ⟨n, hn⟩ := hn
      exact ⟨_, _, .seconds hv hn⟩
    · exact ⟨_, _, .unusable hv (not_exists.mp hn)⟩

/-- **A wait from a header** is a second at least. -/
theorem le_wholeMillis_backoff (default : Duration) {n : Nat} (hv : h.Decides name v)
    (hn : v.SpellsWait n) : 1000 ≤ (h.backoff default).interval.wholeMillis := by
  rw [backoff_of_seconds default hv hn, secondsWait_eq, Duration.wholeMillis_ofMillis]
  have := hn.pos
  omega

/-- **The wait before a resend** and its log line are those that the headers advise, for all headers
and every default; a wait that comes from a header is a second at least. -/
theorem backoff_as_advised (h : Headers) (default : Duration) :
    (∀ interval lines, h.Advises default interval lines ↔
      interval = (h.backoff default).interval ∧
        lines = (Event.ofBackoff (h.backoff default)).filterMap Event.logLine?) ∧
      ∀ name v n, h.Decides name v → v.SpellsWait n →
        1000 ≤ (h.backoff default).interval.wholeMillis := by
  refine ⟨fun interval lines => ⟨Advises.backoff_eq, ?_⟩,
    fun name v n hv hn => le_wholeMillis_backoff default hv hn⟩
  rintro ⟨rfl, rfl⟩
  -- something is advised, and it can only be what the headers are read as
  obtain ⟨interval, lines, hadvises⟩ := exists_advises h default
  obtain ⟨rfl, rfl⟩ := hadvises.backoff_eq
  exact hadvises

/-- A `RateLimit-Reset` of no use is not made up for by a value behind it or by `Retry-After`; the
longest wait that can be spelled is cut to 64 bits of milliseconds. -/
theorem backoff_as_advised_of_crowded :
    (Headers.mk [(.retryAfter, .ofText "4"), (.rateLimitReset, .ofText "soon"),
        (.rateLimitReset, .ofText "7")]).Advises (.ofMillis 250) (.ofMillis 250)
      [⟨.warn, "Ignoring unusable backoff header; using the default interval.",
        [("header", "ratelimit-reset"), ("value", "Some(\"soon\")")]⟩] ∧
    (Headers.mk [(.retryAfter, .ofText " +9223372036854775807\t"),
        (.retryAfter, .ofText "1")]).Advises (.ofMillis 250) (.ofMillis 18446744073709551615) [] :=
  ⟨((backoff_as_advised _ _).1 _ _).mpr ⟨by decide +kernel, by decide +kernel⟩,
    ((backoff_as_advised _ _).1 _ _).mpr ⟨by decide +kernel, by decide +kernel⟩⟩

end Headers

end Outbound
